import DeviceTypings.Proofs.Render.Related

namespace DeviceTypings

/-!
# Texts without comments

Block comments are taken out of a text by a scan from left to right that passes over
strings in quotes. A comment goes with the spaces before it and the line feed after it.
The text of a document without docstrings is what is left of its text.
-/

namespace Render

/-- Where a scan is. -/
inductive Mode
  | code
  | quoted (quote : CodePoint)
  | comment

/-- What is left of a text, after what has been kept of the text before it, the last
character first. -/
def scan : Mode → List CodePoint → List CodePoint → List CodePoint
  | _, kept, [] => kept.reverse
  | .code, kept, .char '/' :: .char '*' :: r => scan .comment (kept.dropWhile (· == ' ')) r
  | .code, kept, c :: r =>
      if c = '"' ∨ c = '\'' then scan (.quoted c) (c :: kept) r else scan .code (c :: kept) r
  | .quoted q, kept, .char '\\' :: c :: r => scan (.quoted q) (c :: .char '\\' :: kept) r
  | .quoted q, kept, c :: r =>
      if c = q then scan .code (c :: kept) r else scan (.quoted q) (c :: kept) r
  | .comment, kept, .char '*' :: .char '/' :: .char '\n' :: r => scan .code kept r
  | .comment, kept, .char '*' :: .char '/' :: r => scan .code kept r
  | .comment, kept, _ :: r => scan .comment kept r

/-- A text without its block comments. -/
def uncomment (s : Text) : Text := Text.ofList (scan .code [] s.toList)

/-! ## Code without comments -/

variable {s t k : List CodePoint} {c q : CodePoint}

/-- The scan keeps the text as it is and is in code before and after it. -/
def Clean (t : List CodePoint) : Prop :=
  ∀ kept r, scan .code kept (t ++ r) = scan .code (t.reverse ++ kept) r

theorem Clean.append (hs : Clean s) (ht : Clean t) : Clean (s ++ t) := by
  intro kept r
  rw [List.append_assoc, hs, ht, List.reverse_append, List.append_assoc]

theorem Clean.of_isPlain (h : isPlain c = true) : Clean [c] := by
  intro kept r
  simp only [isPlain, Bool.and_eq_true, bne_iff_ne, ne_eq] at h
  obtain ⟨⟨hslash, hdouble⟩, hsingle⟩ := h
  rw [List.singleton_append, scan, if_neg (by simp [hdouble, hsingle])]
  · rfl
  · intro r' hc
    exact absurd hc hslash

/-- The scan keeps what is between quotes as it is. -/
theorem Within.scan_append (h : Within q t) (kept r : List CodePoint) :
    scan (.quoted q) kept (t ++ r) = scan (.quoted q) (t.reverse ++ kept) r := by
  induction h generalizing kept with
  | nil => rfl
  | plain hquote hslash _ ih =>
      rw [List.cons_append, scan, if_neg hquote, ih, List.reverse_cons, List.append_assoc]
      · rfl
      · intro d r' hc
        exact absurd hc hslash
  | escape c _ ih =>
      rw [List.cons_append, List.cons_append, scan, ih]
      simp

theorem Clean.of_within (h : Within q t) (hq : q = '"' ∨ q = '\'') :
    Clean (q :: (t ++ [q])) := by
  intro kept r
  have hslash : q ≠ '\\' := by rcases hq with rfl | rfl <;> decide
  have hopen : scan .code kept (q :: (t ++ q :: r)) =
      scan (.quoted q) (q :: kept) (t ++ q :: r) := by
    rw [scan, if_pos hq]
    rintro r' rfl
    simp at hq
  have hclose (kept : List CodePoint) :
      scan (.quoted q) kept (q :: r) = scan .code (q :: kept) r := by
    rw [scan, if_pos rfl]
    intro d r' hc
    exact absurd hc hslash
  rw [List.cons_append, List.append_assoc, List.singleton_append, hopen, h.scan_append, hclose]
  simp

theorem Code.clean (h : Code t k) : Clean t := by
  induction h with
  | nil => exact fun _ _ => rfl
  | plain hc _ ih => exact (Clean.of_isPlain hc).append ih
  | @quoted q s t k hq hs _ ih =>
      have hstring := (Clean.of_within hs hq).append ih
      rwa [List.cons_append, List.append_assoc, List.singleton_append] at hstring

/-- A scan in a comment keeps nothing. -/
theorem skips_scan (kept : List CodePoint) : Skips (scan .comment kept) := by
  intro c r h
  rw [scan]
  · exact fun r' hc => h _ hc
  · exact fun r' hc => h r' hc

/-! ## Lines with comments -/

/-- From the start of a line, the scan leaves the lines `ms` of the lines `ls`. -/
def Uncomments (ls ms : List Text) : Prop :=
  ∀ kept r, kept.head? ≠ some (.char ' ') →
    scan .code kept (feed ls ++ r) = scan .code ((feed ms).reverse ++ kept) r

namespace Uncomments

variable {ls ms ls' ms' : List Text}

theorem nil : Uncomments [] [] := fun _ _ _ => rfl

/-- After whole lines the scan is at the start of a line. -/
theorem head?_feed (ms : List Text) {kept : List CodePoint} (h : kept.head? ≠ some (.char ' ')) :
    ((feed ms).reverse ++ kept).head? ≠ some (.char ' ') := by
  rcases List.eq_nil_or_concat ms with rfl | ⟨ms, m, rfl⟩
  · exact h
  · simp [List.concat_eq_append]

theorem append (h : Uncomments ls ms) (h' : Uncomments ls' ms') :
    Uncomments (ls ++ ls') (ms ++ ms') := by
  intro kept r hkept
  rw [feed_append, List.append_assoc, h kept _ hkept, h' _ r (head?_feed ms hkept), feed_append,
    List.reverse_append, List.append_assoc]

theorem line {l : Text} {σ τ : List CodePoint} (h : Shifts l σ τ) : Uncomments [l] [l] := by
  intro kept r _
  obtain ⟨k, hk, -⟩ := h
  have hfeed : Clean (feed [l]) := by
    rw [feed_cons]
    exact hk.clean.append (Code.of_all (by decide)).clean
  exact hfeed kept r

/-- A comment goes with the spaces before it, if nothing else is before it on its line. -/
theorem scan_commentStart {kept : List CodePoint} (hkept : kept.head? ≠ some (.char ' '))
    (r : List CodePoint)
    (n : Nat) :
    scan .code kept (List.replicate n (.char ' ') ++ .char '/' :: .char '*' :: r) =
      scan .comment kept r := by
  have hspaces : Clean (List.replicate n (.char ' ')) := (code_spaces n).clean
  have hdrop : (List.replicate n (CodePoint.char ' ') ++ kept).dropWhile (· == CodePoint.char ' ') =
      kept := by
    rw [List.dropWhile_append_of_pos (by simp)]
    cases kept with
    | nil => rfl
    | cons c kept => exact List.dropWhile_cons_of_neg (by simpa using hkept)
  rw [hspaces, List.reverse_replicate, scan, hdrop]

theorem comment (depth : Nat) (docstring : Option Text) :
    Uncomments (indent depth (Render.comment docstring)) [] := by
  intro kept r hkept
  unfold Render.comment
  split
  · rfl
  split
  · rfl
  · rename_i doc _
    obtain ⟨body, hblock, hbody⟩ := exists_commentBody depth doc
    rw [hblock, List.append_assoc, List.cons_append, List.cons_append, List.append_assoc,
      scan_commentStart hkept]
    exact hbody (skips_scan kept) (.char '\n' :: r)

theorem block {header separator : Text} {ls ms : List Text} {depth : Nat}
    (hheader : Balanced header) (hs : Balanced separator)
    (hbody : Uncomments (indent (depth + 1) ls) (indent (depth + 1) ms)) :
    Uncomments (indent depth (closeWith separator (Render.block header ls)))
      (indent depth (closeWith separator (Render.block header ms))) := by
  have hopen := (shifts_opening hheader).indentLine depth
  have hclose := (shifts_closing hs).indentLine depth
  rw [indent_block, indent_block]
  exact (line hopen).append (hbody.append (line hclose))

end Uncomments

theorem lineRelation_uncomments : LineRelation Uncomments where
  nil := .nil
  append := .append
  line := .line
  comment := .comment
  block := .block

end Render

/-- Without its block comments, the text of a document is the text of the document without
its docstrings. -/
theorem Document.uncomment_render {d : Document} (h : d.Legible) :
    Render.uncomment d.render = d.undocumented.render := by
  by_cases hd : d.declarations = []
  · simp [render, undocumented, hd, Render.uncomment, Render.scan]
  · have hundocumented : d.undocumented.declarations ≠ [] := by simpa [undocumented] using hd
    have hscan := spaced_undocumented Render.lineRelation_uncomments h [] [] (by simp)
    rw [← Text.toList_inj, Render.uncomment, Text.toList_ofList, toList_render hd,
      toList_render hundocumented]
    simpa [Render.scan] using hscan

end DeviceTypings
