import DeviceTypings.Document.Basic
import DeviceTypings.Proofs.Induction
import DeviceTypings.Proofs.Node.Commands
import DeviceTypings.Proofs.Text.Units
import DeviceTypings.Render.Comment
import Mathlib.Data.List.Forall2

namespace DeviceTypings

/-!
# Documents that are alike

Two documents are alike if they are equal but for the kinds of their trees, for surrogates in
names that spell a character together, and for docstrings that make the same comment. An absent
docstring is like no other one.
-/

/-- Members that are alike, where `A` relates the interfaces of arguments. -/
inductive Node.Alike (A : Interface → Interface → Prop) : Node → Node → Prop
  | member {m m' : Member} (name : m.name.utf16 = m'.name.utf16) (type : m.type = m'.type)
      (required : m.required = m'.required)
      (docstring : m.docstring.map Render.commentBlock = m'.docstring.map Render.commentBlock) :
      Node.Alike A (.member m) (.member m')
  | command {c c' : Command} (name : c.name.utf16 = c'.name.utf16)
      (args : Option.Rel A c.args c'.args) (returnType : c.returnType = c'.returnType)
      (docstring : c.docstring.map Render.commentBlock = c'.docstring.map Render.commentBlock)
      (multiline : c.multiline = c'.multiline) :
      Node.Alike A (.command c) (.command c')
  | tree (kind kind' : TreeKind) {name name' : Text} {ns ns' : List Node}
      (hname : name.utf16 = name'.utf16) (h : List.Forall₂ (Node.Alike A) ns ns') :
      Node.Alike A (.tree kind name ns) (.tree kind' name' ns')

inductive InterfaceOf.Alike : Interface → Interface → Prop
  | mk (name : Text) (bases : List Text) {ns ns' : List Node}
      (h : List.Forall₂ (Node.Alike InterfaceOf.Alike) ns ns') :
      InterfaceOf.Alike { name, bases, children := ns } { name, bases, children := ns' }

inductive Declaration.Alike : Declaration → Declaration → Prop
  | interface {i j : Interface} (h : i.Alike j) : Declaration.Alike (.interface i) (.interface j)
  | main (m : MainClass) {ns ns' : List Node}
      (h : List.Forall₂ (Node.Alike InterfaceOf.Alike) ns ns') :
      Declaration.Alike (.main { m with children := ns }) (.main { m with children := ns' })
  | builtins : Declaration.Alike .builtins .builtins

structure Document.Alike (d d' : Document) : Prop where
  library : d.library = d'.library
  imports : d.imports = d'.imports
  declarations : List.Forall₂ Declaration.Alike d.declarations d'.declarations
  registered : d.registered = d'.registered

/-! ## Arguments by their names -/

def InterfaceOf.SameName (i j : Interface) : Prop := i.name = j.name

/-- Alike, where of the interfaces of arguments only the names are compared. -/
structure InterfaceOf.Similar (i j : Interface) : Prop where
  name : i.name = j.name
  bases : i.bases = j.bases
  children : List.Forall₂ (Node.Alike InterfaceOf.SameName) i.children j.children

namespace Node

variable {A B : Interface → Interface → Prop} {ns ns' : List Node}

/-- Only arguments that are there need to be related. -/
theorem Alike.imp (h : List.Forall₂ (Alike A) ns ns')
    (hAB : ∀ i ∈ argumentsIn ns, ∀ j ∈ argumentsIn ns', A i j → B i j) :
    List.Forall₂ (Alike B) ns ns' := by
  have hlist {ns ns' : List Node} (hns : ∀ n ∈ ns, ∀ n', Alike A n n' →
      (∀ i ∈ argumentsIn [n], ∀ j ∈ argumentsIn [n'], A i j → B i j) → Alike B n n')
      (h : List.Forall₂ (Alike A) ns ns')
      (hAB : ∀ i ∈ argumentsIn ns, ∀ j ∈ argumentsIn ns', A i j → B i j) :
      List.Forall₂ (Alike B) ns ns' := by
    induction h with
    | nil => exact .nil
    | @cons n n' ns ns' hn _ ih =>
        rw [argumentsIn_cons n, argumentsIn_cons n'] at hAB
        obtain ⟨hhead, htail⟩ := List.forall_mem_cons.1 hns
        refine .cons (hhead n' hn fun i hi j hj => ?_) (ih htail fun i hi j hj => ?_)
        · exact hAB i (List.mem_append_left _ hi) j (List.mem_append_left _ hj)
        · exact hAB i (List.mem_append_right _ hi) j (List.mem_append_right _ hj)
  refine hlist (fun n hmem n' hn hargs => ?_) h hAB
  clear hmem h hAB
  induction n using treeInduction generalizing n' with
  | member m =>
      cases hn with
      | member name type required docstring => exact .member name type required docstring
  | command c =>
      cases hn with
      | @command _ c' name args returnType docstring multiline =>
          refine .command name ?_ returnType docstring multiline
          rw [argumentsIn_command, argumentsIn_command] at hargs
          cases hc : c.args <;> cases hc' : c'.args <;> rw [hc, hc'] at args hargs <;>
            cases args
          · exact .none
          · exact .some (hargs _ (by simp) _ (by simp) ‹_›)
  | tree kind name ns ih =>
      cases hn with
      | tree _ kind' hname h =>
          rw [argumentsIn_tree, argumentsIn_tree] at hargs
          exact .tree kind kind' hname (hlist (fun n hn n' => ih n hn n') h hargs)

/-- Plain members take no arguments. -/
theorem Alike.of_isMember (h : List.Forall₂ (Alike A) ns ns')
    (hns : ∀ n ∈ ns, n.isMember = true) : List.Forall₂ (Alike B) ns ns' := by
  have hargs : argumentsIn ns = [] := by rw [argumentsIn, commandsIn_of_isMember hns]; rfl
  exact Alike.imp h (by simp [hargs])

end Node

namespace InterfaceOf

variable {i j : Interface} {is js : List Interface}

theorem Similar.alike (h : i.Similar j)
    (hargs : ∀ a ∈ Node.argumentsIn i.children, ∀ b ∈ Node.argumentsIn j.children,
      a.SameName b → a.Alike b) : i.Alike j := by
  obtain ⟨name, bases, ns⟩ := i
  obtain ⟨name', bases', ns'⟩ := j
  obtain ⟨rfl, rfl, hchildren⟩ := h
  exact .mk name bases (Node.Alike.imp hchildren hargs)

/-- The interfaces that members take as arguments are declared, and have plain members. -/
def DeclaresArguments (is : List Interface) : Prop :=
  ∀ i ∈ is, ∀ a ∈ Node.argumentsIn i.children, a ∈ is ∧ ∀ n ∈ a.children, n.isMember = true

theorem names_eq_of_similar (h : List.Forall₂ Similar is js) :
    is.map InterfaceOf.name = js.map InterfaceOf.name := by
  rw [← List.forall₂_eq_eq_eq, List.forall₂_map_left_iff, List.forall₂_map_right_iff]
  exact h.imp fun _ _ => Similar.name

theorem similar_of_name_eq (h : List.Forall₂ Similar is js) (hjs : (js.map name).Nodup)
    (hi : i ∈ is) (hj : j ∈ js) (hij : i.name = j.name) : i.Similar j := by
  induction h with
  | nil => simp at hi
  | @cons i' j' is js hsimilar h ih =>
      rw [List.map_cons, List.nodup_cons] at hjs
      have hnames := names_eq_of_similar h
      rcases List.mem_cons.1 hi with rfl | hi <;> rcases List.mem_cons.1 hj with rfl | hj
      · exact hsimilar
      · exact absurd (hsimilar.name ▸ hij ▸ List.mem_map_of_mem hj) hjs.1
      · exact absurd (hij ▸ hnames ▸ List.mem_map_of_mem hi) hjs.1
      · exact ih hjs.2 hi hj

/-- Where an interface is known by its name, similar interfaces are alike. -/
theorem alike_of_similar (h : List.Forall₂ Similar is js) (hjs : (js.map name).Nodup)
    (his : DeclaresArguments is) (hjs' : DeclaresArguments js) : List.Forall₂ Alike is js := by
  have hargs : ∀ i ∈ is, ∀ j ∈ js, ∀ a ∈ Node.argumentsIn i.children,
      ∀ b ∈ Node.argumentsIn j.children, a.SameName b → a.Alike b := by
    intro i hi j hj a ha b hb hab
    obtain ⟨hais, hmembers⟩ := his i hi a ha
    have hsimilar := similar_of_name_eq h hjs hais (hjs' j hj b hb).1 hab
    obtain ⟨name, bases, ns⟩ := a
    obtain ⟨name', bases', ns'⟩ := b
    obtain ⟨rfl, rfl, hchildren⟩ := hsimilar
    exact .mk name bases (Node.Alike.of_isMember hchildren hmembers)
  rw [List.forall₂_iff_get] at h ⊢
  obtain ⟨hlength, hget⟩ := h
  exact ⟨hlength, fun k hk hk' => (hget k hk hk').alike
    (hargs _ (List.get_mem _ _) _ (List.get_mem _ _))⟩

end InterfaceOf

end DeviceTypings
