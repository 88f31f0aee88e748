import DeviceTypings.Proofs.Document.Undocumented
import DeviceTypings.Proofs.Render.Lexical

namespace DeviceTypings

/-!
# Lines with and without comments

A document and the document without its docstrings are written with the same lines, apart
from comments. A relation between lists of lines holds between the two if it is kept by every
way of putting lines together, and if it takes a comment to no line at all.
-/

/-! ## Legible documents -/

namespace Declaration

def Legible : Declaration → Prop
  | interface i => i.Legible
  | main m => Text.isWord m.name.toList = true ∧ Text.isWord m.base.toList = true ∧
      ∀ n ∈ m.children, n.Legible
  | builtins => True

end Declaration

/-- The names at the top level and below it are words, and the library stays in its quotes. -/
structure Document.Legible (d : Document) : Prop where
  names : ∀ name ∈ d.imports.names, Text.isWord name.toList = true
  source : ∀ c ∈ d.imports.source.toList, c ≠ '"' ∧ c ≠ '\\'
  declarations : ∀ x ∈ d.declarations, x.Legible

namespace Render

/-- A relation that keeps balanced lines, takes comments to nothing, and is kept by
concatenation and by the braces around a body. -/
structure LineRelation (R : List Text → List Text → Prop) : Prop where
  nil : R [] []
  append : ∀ {ls ms ls' ms' : List Text}, R ls ms → R ls' ms' → R (ls ++ ls') (ms ++ ms')
  line : ∀ {l : Text}, Balanced l → R [l] [l]
  comment : ∀ (depth : Nat) (docstring : Option Text),
    R (indent depth (Render.comment docstring)) []
  block : ∀ {header separator : Text} {ls ms : List Text} {depth : Nat}, Balanced header →
    Balanced separator → R (indent (depth + 1) ls) (indent (depth + 1) ms) →
      R (indent depth (closeWith separator (Render.block header ls)))
        (indent depth (closeWith separator (Render.block header ms)))

theorem signature_undocumented (c : Command) :
    CommandOf.signature { c with args := c.args.map InterfaceOf.undocumented, docstring := none } =
      c.signature := by
  have hparameters : CommandOf.parameters
      { c with args := c.args.map InterfaceOf.undocumented, docstring := none } = c.parameters := by
    have hoptional : Node.isOptional ∘ Node.undocumented = Node.isOptional :=
      funext Node.isOptional_undocumented
    obtain ⟨name, args, returnType, docstring, multiline⟩ := c
    cases args <;> simp [CommandOf.parameters, CommandOf.argsOptional,
      InterfaceOf.undocumented_eq, hoptional]
  rw [CommandOf.signature, CommandOf.signature, hparameters]

namespace LineRelation

variable {R : List Text → List Text → Prop} {ls : List Text} {separator : Text}
  {depth : Nat} {ns : List Node}

theorem lines (hR : LineRelation R) (h : ∀ l ∈ ls, Balanced l) : R ls ls := by
  induction ls with
  | nil => exact hR.nil
  | cons l ls ih =>
      obtain ⟨hl, hls⟩ := List.forall_mem_cons.1 h
      exact hR.append (hR.line hl) (ih hls)

/-! ## Members -/

/-- A comment, and a line after it that has none. -/
theorem documented (hR : LineRelation R) (depth : Nat) (docstring : Option Text) {l : Text}
    (hl : Balanced l) (hs : Balanced separator) :
    R (indent depth (closeWith separator (Render.comment docstring ++ [l])))
      (indent depth (closeWith separator [l])) := by
  rw [closeWith_append _ _ (by simp), indent_append]
  exact hR.append (hR.comment depth docstring) (hR.line ((hl.append hs).indentLine depth))

theorem body (hR : LineRelation R) (h : ∀ n ∈ ns,
      R (indent depth (closeWith separator (nodeLines n)))
        (indent depth (closeWith separator (nodeLines n.undocumented)))) :
    R (indent depth (bodyLines separator ns))
      (indent depth (bodyLines separator (ns.map Node.undocumented))) := by
  induction ns with
  | nil => exact hR.nil
  | cons n ns ih =>
      obtain ⟨hn, hns⟩ := List.forall_mem_cons.1 h
      rw [bodyLines, List.map_cons, bodyLines, indent_append, indent_append]
      exact hR.append hn (ih hns)

theorem node (hR : LineRelation R) (n : Node) (h : n.Legible) (hs : Balanced separator)
    (depth : Nat) :
    R (indent depth (closeWith separator (nodeLines n)))
      (indent depth (closeWith separator (nodeLines n.undocumented))) := by
  induction n using Node.treeInduction generalizing depth separator with
  | member m =>
      rw [nodeLines, Node.undocumented_member, nodeLines]
      exact hR.documented depth m.docstring (balanced_member h) hs
  | command c =>
      rw [nodeLines, Node.undocumented_command, nodeLines, CommandOf.lines, CommandOf.lines,
        signature_undocumented]
      exact hR.documented depth c.docstring (balanced_command h) hs
  | tree kind name ns ih =>
      have hname := balanced_quoteName name
      rw [Node.undocumented_tree]
      cases ns with
      | nil =>
          have hbraces : Balanced ": \x7b\x7d" := .of_all (by decide) rfl
          exact hR.line (((hname.append hbraces).append hs).indentLine depth)
      | cons n ns =>
          cases h with
          | tree _ _ h =>
              have hcomma : Balanced "," := .of_all (by decide) rfl
              rw [nodeLines, List.map_cons, nodeLines, ← List.map_cons]
              exact hR.block (hname.append (.of_all (by decide) rfl)) hs
                (hR.body fun m hm => ih m hm (h m hm) hcomma (depth + 1))

theorem interfaceLines (hR : LineRelation R) {name : Text} {bases : List Text}
    (hname : Balanced name) (hbases : ∀ b ∈ bases, Balanced b) (hns : ∀ n ∈ ns, n.Legible) :
    R (interfaceLines name bases ns)
      (Render.interfaceLines name bases (ns.map Node.undocumented)) := by
  have hheader := balanced_interfaceHeader hname hbases
  cases ns with
  | nil => exact hR.line (hheader.append (.of_all (by decide) rfl))
  | cons n ns =>
      have hsemicolon : Balanced ";" := .of_all (by decide) rfl
      have hempty : Balanced "" := .of_all rfl rfl
      have hbody := hR.body fun m hm => hR.node m (hns m hm) hsemicolon (0 + 1)
      have hblock := hR.block hheader hempty hbody
      rwa [closeWith_empty, closeWith_empty, indent_zero, indent_zero] at hblock

/-! ## Blocks -/

theorem spaced (hR : LineRelation R) {bs cs : List (List Text)} (h : List.Forall₂ R bs cs) :
    R (spaced bs) (Render.spaced cs) := by
  induction h with
  | nil => exact hR.nil
  | cons hb h ih =>
      cases h with
      | nil => exact hb
      | cons hc h => exact hR.append hb (hR.append (hR.line (.of_all (by decide) rfl)) ih)

theorem blocks (hR : LineRelation R) {x : Declaration} (h : x.Legible) :
    List.Forall₂ R x.blocks x.undocumented.blocks := by
  cases x with
  | interface i =>
      cases h with
      | mk hname hbases hns =>
          have hbases' := fun b hb => balanced_word (hbases b hb)
          rw [Declaration.undocumented, InterfaceOf.undocumented_eq]
          exact .cons (hR.interfaceLines (balanced_word hname) hbases' hns) .nil
  | main m =>
      obtain ⟨hname, hbase, hns⟩ := h
      have hword := balanced_word hname
      have hexports := hR.lines (balanced_exports hword)
      have hinterface := hR.interfaceLines hword (List.forall_mem_nil Balanced) hns
      rw [Declaration.undocumented, Node.allUndocumented_eq_map]
      refine .cons (hR.line (balanced_class hword (balanced_word hbase))) ?_
      change List.Forall₂ R
        ((if m.exports.isEmpty then [] else [m.exports]) ++ _)
        ((if m.exports.isEmpty then [] else [m.exports]) ++ _)
      split
      · exact .cons hinterface .nil
      · exact .cons hexports (.cons hinterface .nil)
  | builtins => exact .cons (hR.line balanced_builtins) .nil

end LineRelation

end Render

namespace Document

theorem printOrder_undocumented (d : Document) :
    d.undocumented.printOrder = d.printOrder.map Declaration.undocumented := by
  have hmain : Declaration.isMain ∘ Declaration.undocumented = Declaration.isMain :=
    funext fun x => by cases x <;> rfl
  have hother : (!·.isMain) ∘ Declaration.undocumented = (!·.isMain) :=
    funext fun x => by cases x <;> rfl
  simp only [printOrder, undocumented, List.filter_map, List.map_append, hmain, hother]

theorem blocks_undocumented {R : List Text → List Text → Prop} (hR : Render.LineRelation R)
    {d : Document} (h : d.Legible) : List.Forall₂ R d.blocks d.undocumented.blocks := by
  have hmem : ∀ x ∈ d.printOrder, x ∈ d.declarations := by
    simp only [printOrder, List.mem_append, List.mem_filter]
    tauto
  refine .cons (hR.line (Render.balanced_import h.names h.source)) ?_
  rw [printOrder_undocumented]
  generalize d.printOrder = xs at hmem
  induction xs with
  | nil => exact .nil
  | cons x xs ih =>
      obtain ⟨hx, hxs⟩ := List.forall_mem_cons.1 hmem
      exact List.rel_append (hR.blocks (h.declarations x hx)) (ih hxs)

/-- Between all lines of a document and those that are left without its docstrings. -/
theorem spaced_undocumented {R : List Text → List Text → Prop} (hR : Render.LineRelation R)
    {d : Document} (h : d.Legible) :
    R (Render.spaced d.blocks) (Render.spaced d.undocumented.blocks) :=
  hR.spaced (blocks_undocumented hR h)

end Document

end DeviceTypings
