import DeviceTypings.Proofs.Render.Reading
import DeviceTypings.Proofs.Text.Key

namespace DeviceTypings

/-!
# Members as blocks of lines

A member that stands in a declaration at some depth is written as it is on its own, with every
line moved to the right and a separator after the last one. So a declaration is its opening, the
blocks of its members in their order, and a closing brace. A tree is laid out in the same way, one
level deeper.
-/

/-! ## Texts on one line -/

/-- The lines of a text, cut at its line feeds. -/
def Render.linesOf (s : Text) : List Text := (s.toList.splitOn (.char '\n')).map Text.ofList

namespace Text

variable {c d : CodePoint} {s t : Text}

def IsOneLine (s : Text) : Prop := .char '\n' ∉ s.toList

theorem IsOneLine.append (hs : IsOneLine s) (ht : IsOneLine t) : IsOneLine (s ++ t) := by
  simpa [IsOneLine] using ⟨hs, ht⟩

theorem isOneLine_of_printable (h : ∀ c ∈ s.toList, 0x20 ≤ c.toNat) : IsOneLine s :=
  fun hfeed => absurd (h _ hfeed) (by decide)

theorem not_isFed_of_isOneLine (h : IsOneLine s) (word : Text) : ¬ IsFed s word :=
  fun hfed => h (by simp [hfed.2])

theorem isOneLine_quoteName (h : ∀ word, ¬ IsFed s word) : IsOneLine (quoteName s) := by
  rcases denoted_cases s with ⟨hfed, -⟩ | ⟨-, -, ⟨hword, hquote⟩ | ⟨-, hquote⟩⟩
  · exact absurd hfed (h _)
  · rw [hquote]
    exact fun hfeed => absurd (List.all_eq_true.1 (all_of_isWord hword) _ hfeed) (by decide)
  · rw [hquote]
    exact isOneLine_of_printable fun c hc => (isPrintable_doubleQuoted hc).1

theorem isPrintable_escapeLiteral (hc : c ∈ escapeLiteral d) : 0x20 ≤ c.toNat := by
  unfold escapeLiteral escapeShort at hc
  split at hc
  · rcases List.mem_cons.1 hc with rfl | hc
    · decide
    · obtain rfl := List.mem_singleton.1 hc
      decide
  · split at hc
    · rename_i e he
      rcases List.mem_cons.1 hc with rfl | hc
      · decide
      · obtain rfl := List.mem_singleton.1 hc
        exact (isPrintable_of_shortEscape he).1
    · split at hc
      · exact (isPrintable_unitEscape hc).1
      · obtain rfl := List.mem_singleton.1 hc
        omega

theorem isOneLine_quoteLiteral (s : Text) : IsOneLine (quoteLiteral s) := by
  refine isOneLine_of_printable fun c hc => ?_
  simp only [quoteLiteral, Text.toList_ofList, List.mem_cons, List.mem_append, List.mem_flatMap,
    List.not_mem_nil, or_false] at hc
  rcases hc with rfl | ⟨d, -, hc⟩ | rfl
  · decide
  · exact isPrintable_escapeLiteral hc
  · decide

end Text

open Text (IsOneLine IsFed)

/-- The names in a type are on one line. -/
def TypeExpr.IsUnbroken : TypeExpr → Prop
  | plain name => IsOneLine name
  | literal _ _ => True
  | list element => element.IsUnbroken
  | generic wrapper interface => IsOneLine wrapper ∧ IsOneLine interface

/-- No line feed reaches the lines of a member from its names and types. -/
inductive Node.IsUnbroken : Node → Prop
  | member {m : Member} (hname : ∀ word, ¬ IsFed m.name word) (htype : m.type.IsUnbroken) :
      Node.IsUnbroken (.member m)
  | command {c : Command} (hname : ∀ word, ¬ IsFed c.name word) (hreturn : IsOneLine c.returnType)
      (hargs : ∀ i ∈ c.args, IsOneLine i.name) : Node.IsUnbroken (.command c)
  | tree {kind : TreeKind} {name : Text} {ns : List Node} (hname : ∀ word, ¬ IsFed name word)
      (h : ∀ n ∈ ns, Node.IsUnbroken n) : Node.IsUnbroken (.tree kind name ns)

theorem TypeExpr.isOneLine_render {t : TypeExpr} (h : t.IsUnbroken) : IsOneLine t.render := by
  induction t with
  | plain name => exact h
  | literal v vs =>
      rw [IsOneLine, toList_render_literal]
      simp only [List.mem_append, List.mem_flatMap, List.mem_cons, not_or, not_exists, not_and]
      exact ⟨Text.isOneLine_quoteLiteral v, fun w _ =>
        ⟨by decide, by decide, by decide, Text.isOneLine_quoteLiteral w⟩⟩
  | list t ih =>
      have helement := ih h
      cases t <;> simp_all [render, IsOneLine]
  | generic wrapper interface =>
      obtain ⟨hwrapper, hinterface⟩ := h
      simpa [render, IsOneLine] using ⟨hwrapper, hinterface⟩

namespace Render

variable {ls : List Text} {l s : Text}

/-! ## Lines -/

/-- A line of a member says something, and is one line. -/
def IsLine (l : Text) : Prop := l ≠ "" ∧ IsOneLine l

theorem IsLine.append (hl : IsLine l) (hs : IsOneLine s) : IsLine (l ++ s) :=
  ⟨by simp [hl.1], hl.2.append hs⟩

theorem IsLine.indentLine (h : IsLine l) (depth : Nat) : IsLine (indentLine depth l) := by
  have hspaces : IsOneLine (Text.ofList (List.replicate (2 * depth) (.char ' '))) := by
    simp [IsOneLine]
  rw [Render.indentLine, if_neg h.1]
  exact ⟨by simp [h.1], hspaces.append h.2⟩

theorem isLine_closeWith (hs : IsOneLine s) (hls : ∀ l ∈ ls, IsLine l) :
    ∀ l ∈ closeWith s ls, IsLine l := by
  induction ls with
  | nil => simp
  | cons l ls ih =>
      obtain ⟨hl, hls⟩ := List.forall_mem_cons.1 hls
      cases ls with
      | nil => simpa using hl.append hs
      | cons m ls =>
          rw [closeWith_cons _ _ (by simp)]
          exact List.forall_mem_cons.2 ⟨hl, ih hls⟩

theorem isLine_comment (doc : Option Text) : ∀ l ∈ comment doc, IsLine l := by
  intro l hl
  unfold comment at hl
  split at hl
  · simp at hl
  split at hl
  · simp at hl
  · simp only [commentBlock, List.mem_cons, List.mem_append, List.mem_map, List.not_mem_nil,
      or_false] at hl
    rcases hl with rfl | ⟨line, hline, rfl⟩ | rfl
    · simp [IsLine, IsOneLine]
    · refine ⟨?_, feed_notMem_commentLine (feed_notMem_lines hline)⟩
      unfold commentLine
      split <;> simp
    · simp [IsLine, IsOneLine]

theorem isOneLine_parameters {c : Command} (h : ∀ i ∈ c.args, IsOneLine i.name) :
    IsOneLine (joinPieces c.parameters) := by
  cases hargs : c.args with
  | none =>
      rw [IsOneLine, CommandOf.toList_parameters_none hargs]
      cases c.multiline <;> decide
  | some i =>
      have hi := h i hargs
      rw [IsOneLine, CommandOf.toList_parameters_some hargs]
      cases c.argsOptional <;> cases c.multiline <;> simpa [IsOneLine] using hi

theorem isLine_nodeLines {n : Node} (h : n.IsUnbroken) : ∀ l ∈ nodeLines n, IsLine l := by
  have hquoted {name : Text} (hname : ∀ word, ¬ IsFed name word) {t : Text}
      (ht : IsLine t) : IsLine (Text.quoteName name ++ t) :=
    ⟨by simp [ht.1], (Text.isOneLine_quoteName hname).append ht.2⟩
  induction h with
  | @member m hname htype =>
      have hcolon : IsLine ((if m.required then ": " else "?: ") ++ m.type.render) := by
        refine IsLine.append ?_ (TypeExpr.isOneLine_render htype)
        split <;> simp [IsLine, IsOneLine]
      have hsignature : m.signature =
          Text.quoteName m.name ++ ((if m.required then ": " else "?: ") ++ m.type.render) := by
        simp [← Text.toList_inj, Member.signature, Variable.render]
        cases m.required <;> simp
      intro l hl
      rcases List.mem_append.1 hl with hl | hl
      · exact isLine_comment _ l hl
      · obtain rfl := List.mem_singleton.1 hl
        exact hsignature ▸ hquoted hname hcolon
  | @command c hname hreturn hargs =>
      have hsignature : c.signature = Text.quoteName c.name ++
          ("<R=" ++ c.returnType ++ ">(" ++ joinPieces c.parameters ++ "): Promise<R>") := by
        simp [CommandOf.signature, callable, ← Text.toList_inj]
      have hanswer : IsLine
          ("<R=" ++ c.returnType ++ ">(" ++ joinPieces c.parameters ++ "): Promise<R>") := by
        refine ⟨by simp, ?_⟩
        have hparameters := isOneLine_parameters hargs
        simp only [IsOneLine] at hreturn hparameters ⊢
        simp [hreturn, hparameters]
      intro l hl
      rcases List.mem_append.1 hl with hl | hl
      · exact isLine_comment _ l hl
      · obtain rfl := List.mem_singleton.1 hl
        exact hsignature ▸ hquoted hname hanswer
  | @tree kind name ns hname hns ih =>
      cases ns with
      | nil =>
          have hempty : IsLine ": \x7b\x7d" := by simp [IsLine, IsOneLine]
          simpa [nodeLines] using hquoted hname hempty
      | cons c cs =>
          have hopening : IsLine (Text.quoteName name ++ ":" ++ " \x7b") := by
            rw [Text.append_assoc]
            exact hquoted hname (by simp [IsLine, IsOneLine])
          intro l hl
          simp only [nodeLines, Render.block, bodyLines_eq_flatMap, List.mem_cons, List.mem_append,
            List.not_mem_nil, or_false] at hl
          rcases hl with rfl | hl | rfl
          · exact hopening
          · obtain ⟨m, hm, rfl⟩ := List.mem_map.1 hl
            obtain ⟨n, hn, hm⟩ := List.mem_flatMap.1 hm
            exact (isLine_closeWith (by simp [IsOneLine]) (ih n hn) m hm).indentLine 1
          · simp [IsLine, IsOneLine]

/-! ## The lines of a text -/

theorem linesOf_unlines (hne : ls ≠ []) (h : ∀ l ∈ ls, IsOneLine l) :
    linesOf (unlines ls) = ls := by
  have hjoined : (unlines ls).toList = [.char '\n'].intercalate (ls.map Text.toList) := by
    simp [unlines, Text.toList_intercalate]
  rw [linesOf, hjoined,
    List.splitOn_intercalate (CodePoint.char '\n') (by simpa [IsOneLine] using h)
    (by simpa using hne), List.map_map]
  simp [Function.comp_def]

theorem nodeLines_ne_nil (n : Node) : nodeLines n ≠ [] := by
  cases n with
  | member m => simp [nodeLines, Member.lines]
  | command c => simp [nodeLines, CommandOf.lines]
  | tree kind name ns => cases ns <;> simp [nodeLines, Render.block]

theorem linesOf_render {n : Node} (h : n.IsUnbroken) : linesOf n.render = nodeLines n :=
  linesOf_unlines (nodeLines_ne_nil n) fun l hl => (isLine_nodeLines h l hl).2

/-! ## Lines at a depth -/

/-- The blanks before every line at a depth. -/
def margin (depth : Nat) : Text := Text.ofList (List.replicate (2 * depth) (.char ' '))

/-- What ends a member at a depth. The members of the interface itself are at depth one. -/
def separatorAt (depth : Nat) : Text := if depth = 1 then ";" else ","

theorem isOneLine_separatorAt (depth : Nat) : IsOneLine (separatorAt depth) := by
  unfold separatorAt
  split <;> simp [IsOneLine]

theorem indent_eq_map {depth : Nat} (h : ∀ l ∈ ls, IsLine l) :
    indent depth ls = ls.map (margin depth ++ ·) :=
  List.map_congr_left fun l hl => if_neg (h l hl).1

theorem closeWith_map_append (s margin : Text) (ls : List Text) :
    closeWith s (ls.map (margin ++ ·)) = (closeWith s ls).map (margin ++ ·) := by
  induction ls with
  | nil => rfl
  | cons l ls ih =>
      cases ls with
      | nil => simp [Text.append_assoc]
      | cons m ls =>
          rw [List.map_cons, closeWith_cons _ (margin ++ l) (by simp), ih,
            closeWith_cons _ l (by simp), List.map_cons]

end Render

open Render

/-- A member at a depth: the lines it has on its own, moved to the right, and a separator. -/
def Node.blockAt (depth : Nat) (n : Node) : List Text :=
  closeWith (separatorAt depth) ((linesOf n.render).map (margin depth ++ ·))

namespace Node

variable {depth : Nat} {n : Node} {ns : List Node}

theorem blockAt_eq (h : n.IsUnbroken) :
    n.blockAt depth = indent depth (closeWith (separatorAt depth) (nodeLines n)) := by
  have hlines := isLine_closeWith (isOneLine_separatorAt depth) (isLine_nodeLines h)
  rw [blockAt, linesOf_render h, closeWith_map_append, indent_eq_map hlines]

theorem indent_bodyLines (h : ∀ n ∈ ns, n.IsUnbroken) :
    indent depth (bodyLines (separatorAt depth) ns) = ns.flatMap (blockAt depth) := by
  rw [bodyLines_eq_flatMap, indent, List.map_flatMap]
  exact List.flatMap_congr fun n hn => (blockAt_eq (h n hn)).symm

/-- The block of a tree holds the blocks of its members, one level deeper. -/
theorem blockAt_tree (hdepth : 0 < depth) (kind : TreeKind) {name : Text} (hns : ns ≠ [])
    (h : (tree kind name ns).IsUnbroken) :
    (tree kind name ns).blockAt depth =
      (margin depth ++ (Text.quoteName name ++ ": \x7b")) ::
        (ns.flatMap (blockAt (depth + 1)) ++ [margin depth ++ ("\x7d" ++ separatorAt depth)]) := by
  have hlines : nodeLines (tree kind name ns) =
      Render.block (Text.quoteName name ++ ":") (bodyLines "," ns) := by
    cases ns with
    | nil => exact absurd rfl hns
    | cons c cs => rw [nodeLines]
  have hdeeper : separatorAt (depth + 1) = "," := by simp [separatorAt]; omega
  have hmembers : ∀ n ∈ ns, n.IsUnbroken := by
    cases h with
    | tree _ h => exact h
  have hopening : Text.quoteName name ++ ":" ++ " \x7b" = Text.quoteName name ++ ": \x7b" := by
    simp [← Text.toList_inj]
  rw [blockAt_eq h, hlines, indent_block, ← hdeeper, indent_bodyLines hmembers, hopening]
  simp [indentLine, margin]

theorem blockAt_infix_flatMap (h : n ∈ ns) (depth : Nat) :
    n.blockAt depth <:+: ns.flatMap (blockAt depth) := by
  obtain ⟨before, after, rfl⟩ := List.append_of_mem h
  exact ⟨before.flatMap (blockAt depth), after.flatMap (blockAt depth), by simp⟩

/-- The members of a body, and those of the trees in it, with their depths. -/
inductive IsBelow (ns : List Node) : Nat → Node → Prop
  | member {n : Node} (h : n ∈ ns) : IsBelow ns 1 n
  | deeper {depth : Nat} {kind : TreeKind} {name : Text} {cs : List Node} {n : Node}
      (htree : IsBelow ns depth (tree kind name cs)) (h : n ∈ cs) : IsBelow ns (depth + 1) n

namespace IsBelow

theorem depth_pos (h : IsBelow ns depth n) : 0 < depth := by
  cases h <;> omega

theorem isUnbroken (h : IsBelow ns depth n) (hns : ∀ n ∈ ns, n.IsUnbroken) : n.IsUnbroken := by
  induction h with
  | member h => exact hns _ h
  | deeper _ h ih =>
      cases ih with
      | tree _ hcs => exact hcs _ h

theorem blockAt_infix (h : IsBelow ns depth n) (hns : ∀ n ∈ ns, n.IsUnbroken) :
    n.blockAt depth <:+: ns.flatMap (blockAt 1) := by
  induction h with
  | member h => exact blockAt_infix_flatMap h 1
  | @deeper depth kind name cs n htree h ih =>
      have hcs := blockAt_infix_flatMap h (depth + 1)
      have htreeBlock := blockAt_tree htree.depth_pos kind (List.ne_nil_of_mem h)
        (htree.isUnbroken hns)
      refine (hcs.trans ?_).trans ih
      rw [htreeBlock]
      exact ((List.prefix_append _ _).isInfix).trans (List.suffix_cons _ _).isInfix

end IsBelow

end Node

/-! ## Declarations -/

namespace Declaration

/-- The members of an interface or main class. -/
def members : Declaration → List Node
  | interface i => i.children
  | main m => m.children
  | builtins => []

/-- What stands before the interface of a declaration: the class and its exports. -/
def preamble : Declaration → Text
  | main m => Render.paragraphs (Render.classDeclaration m.name m.base ::
      if m.exports.isEmpty then [] else [Render.unlines m.exports]) ++ "\n\n"
  | _ => ""

/-- The first line of the interface, without its brace. -/
def header : Declaration → Text
  | interface i => Render.interfaceHeader i.name i.bases
  | main m => Render.interfaceHeader m.name []
  | builtins => ""

theorem render_eq_preamble {x : Declaration} (h : x.members ≠ []) :
    x.render = x.preamble ++ unlines (Render.block x.header (bodyLines ";" x.members)) := by
  have hlines (name : Text) (bases : List Text) (ns : List Node) (hns : ns ≠ []) :
      interfaceLines name bases ns =
        Render.block (interfaceHeader name bases) (bodyLines ";" ns) := by
    obtain ⟨n, ns, rfl⟩ := List.exists_cons_of_ne_nil hns
    rfl
  cases x with
  | interface i =>
      have hbody := hlines i.name i.bases i.children h
      simp [render, InterfaceOf.render, preamble, header, members, hbody]
  | main m =>
      have hbody := hlines m.name [] m.children h
      rw [render, MainClass.render, MainClass.blocks, hbody, preamble, header, members]
      cases m.exports.isEmpty <;> simp [paragraphs, ← Text.toList_inj]
  | builtins => exact absurd rfl h

/-- An interface is written member by member. The block of each member is what is written for it on
its own, and a tree holds the blocks of its members with nothing between them. -/
theorem render_in_blocks {x : Declaration} (hne : x.members ≠ [])
    (h : ∀ n ∈ x.members, n.IsUnbroken) :
    x.render = x.preamble ++ unlines ((x.header ++ " \x7b") ::
      (x.members.flatMap (Node.blockAt 1) ++ [("\x7d" : Text)])) ∧
    (∀ depth kind name cs, Node.IsBelow x.members depth (.tree kind name cs) → cs ≠ [] →
      (Node.tree kind name cs).blockAt depth =
        (margin depth ++ (Text.quoteName name ++ ": \x7b")) ::
          (cs.flatMap (Node.blockAt (depth + 1)) ++
            [margin depth ++ ("\x7d" ++ separatorAt depth)])) ∧
    ∀ depth n, Node.IsBelow x.members depth n →
      n.blockAt depth <:+: x.members.flatMap (Node.blockAt 1) := by
  refine ⟨?_, fun depth kind name cs hbelow hcs => ?_, fun depth n hbelow => ?_⟩
  · rw [render_eq_preamble hne, Render.block, show (";" : Text) = separatorAt 1 from rfl,
      Node.indent_bodyLines h]
  · exact Node.blockAt_tree hbelow.depth_pos kind hcs (hbelow.isUnbroken h)
  · exact hbelow.blockAt_infix h

/-- A field, a command and two trees, one of them without members. -/
def panel : Declaration := .interface
  { name := "Panel"
    children :=
      [.tree .object "Audio Line"
        [.member { name := "Gain", type := .plain "number", docstring := some "In decibels.\n" },
          .tree .collection "Mixer" []],
       .command { name := "Reset", returnType := "void", multiline := true }] }

theorem render_in_blocks_panel :
    (panel.members ≠ [] ∧ ∀ n ∈ panel.members, n.IsUnbroken) ∧
    panel.render = panel.preamble ++ unlines ((panel.header ++ " \x7b") ::
      (panel.members.flatMap (Node.blockAt 1) ++ [("\x7d" : Text)])) := by
  have hname {s : Text} (h : CodePoint.char '\n' ∉ s.toList) : ∀ word, ¬ IsFed s word :=
    Text.not_isFed_of_isOneLine h
  have hgain : Node.IsUnbroken
      (.member { name := "Gain", type := .plain "number", docstring := some "In decibels.\n" }) :=
    .member (hname (by simp)) (by simp [TypeExpr.IsUnbroken, IsOneLine])
  have hmixer : Node.IsUnbroken (.tree .collection "Mixer" []) :=
    .tree (hname (by simp)) (by simp)
  have hreset : Node.IsUnbroken
      (.command { name := "Reset", returnType := "void", multiline := true }) :=
    .command (hname (by simp)) (by simp [IsOneLine]) (by simp)
  have hunbroken : ∀ n ∈ panel.members, n.IsUnbroken := by
    intro n hn
    rcases List.mem_cons.1 hn with rfl | hn
    · exact .tree (hname (by simp)) (by simp [hgain, hmixer])
    · exact List.mem_singleton.1 hn ▸ hreset
  have hmembers : panel.members ≠ [] := List.cons_ne_nil _ _
  exact ⟨⟨hmembers, hunbroken⟩, (render_in_blocks hmembers hunbroken).1⟩

example : panel.members.flatMap (Node.blockAt 1) =
    ["  \"Audio Line\": \x7b",
     "    /**",
     "     * In decibels.",
     "     */",
     "    Gain: number,",
     "    Mixer: \x7b\x7d,",
     "  \x7d;",
     "  Reset<R=void>(body: string): Promise<R>;"] := by
  decide +kernel

end Declaration

end DeviceTypings
