import DeviceTypings.Proofs.Schema.Uncommented

namespace DeviceTypings

/-!
# Brackets match

A text is read from left to right, with the brackets in mind that have yet to come. Strings
in quotes and block comments are passed over. In the text of a schema every bracket is closed
by its counterpart, in the right order, whatever the keys, ids, constants and descriptions of
the schema hold.
-/

namespace Render

/-- Where the reading of a text ends, and which brackets have yet to come then. There is no
end if a bracket is closed that is not the next one. -/
def nest : Mode → List CodePoint → List CodePoint → Option (Mode × List CodePoint)
  | mode, stack, [] => some (mode, stack)
  | .code, stack, .char '/' :: .char '*' :: r => nest .comment stack r
  | .code, stack, c :: r =>
      if c = '"' ∨ c = '\'' then nest (.quoted c) stack r
      else match bracket stack c with
        | some stack => nest .code stack r
        | none => none
  | .quoted q, stack, .char '\\' :: _ :: r => nest (.quoted q) stack r
  | .quoted q, stack, c :: r => if c = q then nest .code stack r else nest (.quoted q) stack r
  | .comment, stack, .char '*' :: .char '/' :: r => nest .code stack r
  | .comment, stack, _ :: r => nest .comment stack r

/-- The reading ends outside of strings and comments, and all brackets are closed. -/
def WellNested (s : Text) : Prop := nest .code [] s.toList = some (.code, [])

variable {s t k σ τ : List CodePoint} {q : CodePoint}

/-! ## Code and comments -/

theorem Within.nest_append (h : Within q t) (σ r : List CodePoint) :
    nest (.quoted q) σ (t ++ r) = nest (.quoted q) σ r := by
  induction h with
  | nil => rfl
  | plain hquote hslash _ ih =>
      rw [List.cons_append, nest, if_neg hquote, ih]
      intro d r' hc
      exact absurd hc hslash
  | escape c _ ih => rw [List.cons_append, List.cons_append, nest, ih]

/-- Of code, only what is left without its strings is looked at for brackets. -/
theorem Code.nest_append (h : Code t k) (hk : k.foldlM bracket σ = some τ) (r : List CodePoint) :
    nest .code σ (t ++ r) = nest .code τ r := by
  induction h generalizing σ with
  | nil =>
      obtain rfl := Option.some.inj hk
      rfl
  | @plain c t k hc _ ih =>
      rw [List.foldlM_cons] at hk
      obtain ⟨υ, hbracket, hk⟩ := Option.bind_eq_some_iff.1 hk
      simp only [isPlain, Bool.and_eq_true, bne_iff_ne, ne_eq] at hc
      obtain ⟨⟨hslash, hdouble⟩, hsingle⟩ := hc
      rw [List.cons_append, nest, if_neg (by simp [hdouble, hsingle]), hbracket]
      · exact ih hk
      · intro r' hc
        exact absurd hc hslash
  | @quoted q s t k hq hs _ ih =>
      have hopen (r : List CodePoint) : nest .code σ (q :: r) = nest (.quoted q) σ r := by
        rw [nest, if_pos hq]
        rintro r' rfl
        simp at hq
      have hclose (r : List CodePoint) : nest (.quoted q) σ (q :: r) = nest .code σ r := by
        rw [nest, if_pos rfl]
        rintro d r' rfl
        simp at hq
      rw [List.cons_append, List.append_assoc, List.cons_append, hopen, hs.nest_append, hclose]
      exact ih hk

theorem skips_nest (σ : List CodePoint) : Skips (nest .comment σ) := by
  intro c r h
  rw [nest]
  exact fun r' hc => h r' hc

theorem Shifts.nest_feed {l : Text} (h : Shifts l σ τ) (r : List CodePoint) :
    nest .code σ (feed [l] ++ r) = nest .code τ r := by
  have hfeed : Shifts (l ++ "\n") σ τ := h.append (.of_all (by decide) rfl)
  have htext : (l ++ "\n").toList = feed [l] := by simp
  obtain ⟨k, hk, hbrackets⟩ := hfeed
  exact (htext ▸ hk).nest_append hbrackets r

/-! ## Lines -/

/-- The reading passes over the lines with the same brackets yet to come. -/
def Passed (ls : List Text) : Prop :=
  ∀ σ r, nest .code σ (feed ls ++ r) = nest .code σ r

namespace Passed

variable {ls ms : List Text} {header separator : Text} {depth : Nat}

theorem nil : Passed [] := fun _ _ => rfl

theorem append (hls : Passed ls) (hms : Passed ms) : Passed (ls ++ ms) := by
  intro σ r
  rw [feed_append, List.append_assoc, hls, hms]

theorem line {l : Text} (h : Balanced l) : Passed [l] := fun σ r => (h.frame σ).nest_feed r

theorem comment (depth : Nat) (docstring : Option Text) :
    Passed (indent depth (Render.comment docstring)) := by
  intro σ r
  unfold Render.comment
  split
  · rfl
  · rename_i doc
    split
    · rfl
    · obtain ⟨body, hblock, hbody⟩ := exists_commentBody depth doc
      rw [hblock, List.append_assoc, (code_spaces _).nest_append (foldlM_bracket_spaces _ σ),
        List.cons_append, List.cons_append, List.append_assoc]
      exact hbody (skips_nest σ) (.char '\n' :: r)

/-- The brace that the first line opens is closed by the last. -/
theorem block (hheader : Balanced header) (hs : Balanced separator)
    (hbody : Passed (indent (depth + 1) ls)) :
    Passed (indent depth (closeWith separator (Render.block header ls))) := by
  intro σ r
  have hopen (r : List CodePoint) :=
    (((shifts_opening hheader).indentLine depth).frame σ).nest_feed r
  have hclose := (((shifts_closing hs).indentLine depth).frame σ).nest_feed r
  rw [indent_block, feed_append, feed_append, List.append_assoc, List.append_assoc]
  exact (hopen _).trans ((hbody _ _).trans hclose)

end Passed

theorem lineRelation_passed : LineRelation fun ls _ => Passed ls where
  nil := .nil
  append := .append
  line := .line
  comment := .comment
  block := .block

end Render

theorem Document.wellNested_render {d : Document} (h : d.Legible) :
    Render.WellNested d.render := by
  by_cases hd : d.declarations = []
  · simp [render, hd, Render.WellNested, Render.nest]
  · have hnest := spaced_undocumented Render.lineRelation_passed h [] []
    rw [Render.WellNested, toList_render hd]
    simpa [Render.nest] using hnest

namespace Schema

/-- The text of a schema is well nested. The class name and the base have to be words, and the
library must not end the string that it stands in. -/
theorem generate_wellNested {o : Options} {s : Value} {t : Text}
    (hname : Text.isWord o.className.toList = true) (hbase : Text.isWord o.base.toList = true)
    (hlibrary : ∀ c ∈ o.library.toList, c ≠ '"' ∧ c ≠ '\\') (h : generate o s = .ok t) :
    Render.WellNested t := by
  obtain ⟨d, hd, rfl⟩ := Except.map_eq_ok.1 h
  exact d.wellNested_render (legible_of_compile hname hbase hlibrary hd)

/-- Brackets, quotes and comments without a counterpart in a key, an id, a constant and a
description. -/
def crookedSchema : Value :=
  .map [
    (.text "Configuration", .map [
      (.text "Room's \x7d", .list [
        .map [(.text idKey, .text "\"[\\"), (.text "Mode", .map [
          (.text descriptionKey, .text "Ends */ here (and /* there"),
          (.text valueSpaceKey, .map [
            (.text typeKey, .text "LiteralArray"),
            (.text constantsKey, .list [.text "it's \x7b", .text "\\", .text "/*"])])])]])])]

theorem wellNested_crookedSchema :
    ∃ t, generate {} crookedSchema = .ok t ∧ Render.WellNested t := by
  have hgenerate : ∃ t, generate {} crookedSchema = .ok t := ⟨_, rfl⟩
  obtain ⟨t, ht⟩ := hgenerate
  exact ⟨t, ht, generate_wellNested (by decide) (by decide) (by simp [defaultLibrary]) ht⟩

end Schema

end DeviceTypings
