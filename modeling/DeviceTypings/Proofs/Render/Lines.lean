import DeviceTypings.Render.Document

namespace DeviceTypings

/-!
# A document as lines

The text of a document is a list of lines with a line feed after each. The lines come
in blocks, with an empty line between any two of them.
-/

namespace Render

/-- Lines with a line feed after each of them. -/
def feed (ls : List Text) : List CodePoint := ls.flatMap fun l => l.toList ++ [.char '\n']

@[simp] theorem feed_nil : feed [] = [] := rfl

@[simp] theorem feed_cons (l : Text) (ls : List Text) :
    feed (l :: ls) = l.toList ++ .char '\n' :: feed ls := by
  simp [feed]

@[simp] theorem feed_append (ls ms : List Text) : feed (ls ++ ms) = feed ls ++ feed ms :=
  List.flatMap_append

/-- Blocks of lines with an empty line between any two of them. -/
def spaced : List (List Text) → List Text
  | [] => []
  | [b] => b
  | b :: c :: bs => b ++ ("" : Text) :: spaced (c :: bs)

theorem spaced_append {as bs : List (List Text)} (ha : as ≠ []) (hb : bs ≠ []) :
    spaced (as ++ bs) = spaced as ++ ("" : Text) :: spaced bs := by
  induction as with
  | nil => exact absurd rfl ha
  | cons a as ih =>
      cases as with
      | nil =>
          obtain ⟨b, bs, rfl⟩ := List.exists_cons_of_ne_nil hb
          rfl
      | cons a' as =>
          simp only [List.cons_append, spaced] at ih ⊢
          rw [ih (by simp), List.append_assoc, List.cons_append]

theorem feed_spaced_append {as bs : List (List Text)} (ha : as ≠ []) (hb : bs ≠ []) :
    feed (spaced (as ++ bs)) = feed (spaced as) ++ .char '\n' :: feed (spaced bs) := by
  rw [spaced_append ha hb, feed_append, feed_cons]
  rfl

theorem feed_spaced_cons (b : List Text) {bs : List (List Text)} (h : bs ≠ []) :
    feed (spaced (b :: bs)) = feed b ++ .char '\n' :: feed (spaced bs) :=
  feed_spaced_append (List.cons_ne_nil b []) h

@[simp] theorem unlines_singleton (l : Text) : unlines [l] = l := by simp [unlines]

@[simp] theorem paragraphs_singleton (b : Text) : paragraphs [b] = b := by simp [paragraphs]

theorem toList_unlines {ls : List Text} (h : ls ≠ []) :
    (unlines ls).toList ++ [.char '\n'] = feed ls := by
  induction ls with
  | nil => exact absurd rfl h
  | cons l ls ih =>
      cases ls with
      | nil => simp [unlines]
      | cons m ls =>
          have hrest := ih (by simp)
          rw [feed_cons, ← hrest]
          simp [unlines, Text.toList_intercalate]

theorem toList_paragraphs_cons (a b : Text) (bs : List Text) :
    (paragraphs (a :: b :: bs)).toList ++ [.char '\n'] =
      (a.toList ++ [.char '\n']) ++
        .char '\n' :: ((paragraphs (b :: bs)).toList ++ [.char '\n']) := by
  simp [paragraphs, Text.toList_intercalate]

theorem toList_paragraphs {bs : List (List Text)} (h : bs ≠ []) (hbs : ∀ b ∈ bs, b ≠ []) :
    (paragraphs (bs.map unlines)).toList ++ [.char '\n'] = feed (spaced bs) := by
  induction bs with
  | nil => exact absurd rfl h
  | cons b bs ih =>
      obtain ⟨hb, hbs⟩ := List.forall_mem_cons.1 hbs
      cases bs with
      | nil => simpa [paragraphs, spaced] using toList_unlines hb
      | cons c bs =>
          rw [List.map_cons, List.map_cons, toList_paragraphs_cons, ← List.map_cons,
            ih (by simp) hbs, toList_unlines hb, feed_spaced_cons b (by simp)]

/-- Paragraphs that are made of paragraphs are those of all their blocks. -/
theorem toList_paragraphs_flatten {bss : List (List (List Text))} (h : bss ≠ [])
    (hbss : ∀ bs ∈ bss, bs ≠ [] ∧ ∀ b ∈ bs, b ≠ []) :
    (paragraphs (bss.map fun bs => paragraphs (bs.map unlines))).toList ++ [.char '\n'] =
      feed (spaced bss.flatten) := by
  induction bss with
  | nil => exact absurd rfl h
  | cons bs bss ih =>
      obtain ⟨⟨hne, hbs⟩, hbss⟩ := List.forall_mem_cons.1 hbss
      cases bss with
      | nil => simpa [paragraphs] using toList_paragraphs hne hbs
      | cons cs bss =>
          have hflatten : (cs :: bss).flatten ≠ [] := by
            simp [(hbss cs List.mem_cons_self).1]
          have hrest := ih (by simp) hbss
          rw [List.map_cons] at hrest
          rw [List.map_cons, List.map_cons, toList_paragraphs_cons, hrest,
            toList_paragraphs hne hbs, List.flatten_cons (l := bs),
            feed_spaced_append hne hflatten]

/-! ## Indented lines -/

theorem toList_indentLine {l : Text} (depth : Nat) (h : l ≠ "") :
    (indentLine depth l).toList = List.replicate (2 * depth) (.char ' ') ++ l.toList := by
  simp [indentLine, h]

theorem indentLine_indentLine (j k : Nat) (l : Text) :
    indentLine j (indentLine k l) = indentLine (j + k) l := by
  by_cases hl : l = ""
  · simp [indentLine, hl]
  · have hne : indentLine k l ≠ "" := by
      rw [ne_eq, ← Text.toList_eq_nil_iff, toList_indentLine k hl, List.append_eq_nil_iff]
      exact fun h => hl (Text.toList_eq_nil_iff.1 h.2)
    rw [← Text.toList_inj, toList_indentLine j hne, toList_indentLine k hl,
      toList_indentLine (j + k) hl, ← List.append_assoc, List.replicate_append_replicate,
      ← Nat.mul_add]

theorem indent_indent (j k : Nat) (ls : List Text) :
    indent j (indent k ls) = indent (j + k) ls := by
  simp [indent, indentLine_indentLine]

@[simp] theorem indent_append (k : Nat) (ls ms : List Text) :
    indent k (ls ++ ms) = indent k ls ++ indent k ms := by
  simp [indent]

theorem indent_zero (ls : List Text) : indent 0 ls = ls := by
  have hline : indentLine 0 = id := funext fun l => by simp [indentLine]
  rw [indent, hline, List.map_id]

theorem closeWith_empty (ls : List Text) : closeWith "" ls = ls := by
  induction ls with
  | nil => rfl
  | cons l ls ih =>
      cases ls with
      | nil => simp
      | cons m ls => rw [closeWith_cons _ _ (by simp), ih]

/-- The first and the last line of a block stand at the depth of the block itself. -/
theorem indent_block (depth : Nat) (separator header : Text) (body : List Text) :
    indent depth (closeWith separator (block header body)) =
      [indentLine depth (header ++ " \x7b")] ++ (indent (depth + 1) body ++
        [indentLine depth ("\x7d" ++ separator)]) := by
  rw [block, closeWith_cons _ _ (by simp), closeWith_append _ _ (by simp), ← indent_indent]
  simp [indent]

end Render

/-! ## Blocks -/

/-- The blocks of a declaration. The builtins come as one line, with line feeds inside. -/
def Declaration.blocks : Declaration → List (List Text)
  | interface i => [Render.interfaceLines i.name i.bases i.children]
  | main m => [Render.classDeclaration m.name m.base] ::
      ((if m.exports.isEmpty then [] else [m.exports]) ++
        [Render.interfaceLines m.name [] m.children])
  | builtins => [[Render.builtins]]

def Document.blocks (d : Document) : List (List Text) :=
  [d.imports.render] :: d.printOrder.flatMap Declaration.blocks

theorem Render.interfaceLines_ne_nil (name : Text) (bases : List Text) (ns : List Node) :
    interfaceLines name bases ns ≠ [] := by
  cases ns <;> simp [interfaceLines, block]

namespace Declaration

theorem blocks_ne_nil (x : Declaration) : x.blocks ≠ [] ∧ ∀ b ∈ x.blocks, b ≠ [] := by
  cases x with
  | interface i => simp [blocks, Render.interfaceLines_ne_nil]
  | main m =>
      refine ⟨by simp [blocks], fun b hb => ?_⟩
      simp only [blocks, List.mem_cons, List.mem_append] at hb
      rcases hb with rfl | hb | rfl | hb
      · simp
      · split at hb <;> simp_all
      · exact Render.interfaceLines_ne_nil _ _ _
      · simp at hb
  | builtins => simp [blocks]

theorem render_eq (x : Declaration) :
    x.render = Render.paragraphs (x.blocks.map Render.unlines) := by
  cases x with
  | interface i => simp [render, InterfaceOf.render, blocks]
  | main m =>
      rw [render, MainClass.render, MainClass.blocks, blocks]
      cases m.exports.isEmpty <;> simp
  | builtins => simp only [render, blocks, List.map_cons, List.map_nil, Render.unlines_singleton,
      Render.paragraphs_singleton]

end Declaration

theorem Document.toList_render {d : Document} (h : d.declarations ≠ []) :
    d.render.toList = Render.feed (Render.spaced d.blocks) := by
  have hrender : Declaration.render =
      fun x : Declaration => Render.paragraphs (x.blocks.map Render.unlines) :=
    funext Declaration.render_eq
  have hblocks : ∀ bs ∈ [[d.imports.render]] :: d.printOrder.map Declaration.blocks,
      bs ≠ [] ∧ ∀ b ∈ bs, b ≠ [] := by
    intro bs hbs
    rcases List.mem_cons.1 hbs with rfl | hbs
    · simp
    · obtain ⟨x, -, rfl⟩ := List.mem_map.1 hbs
      exact x.blocks_ne_nil
  have hflatten := Render.toList_paragraphs_flatten (by simp) hblocks
  rw [List.flatten_cons, ← List.flatMap_def, List.map_cons, List.map_map] at hflatten
  rw [render, if_neg (by simpa using h), Text.toList_append, blocks, hrender]
  simpa [Function.comp_def] using hflatten

end DeviceTypings
