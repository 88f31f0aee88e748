import DeviceTypings.Proofs.Render.Lines
import DeviceTypings.Proofs.Text.Quoted
import DeviceTypings.Render.Comment
import Mathlib.Data.List.Basic

namespace DeviceTypings.Render

/-!
# Comments read back

A comment is read line by line up to the line that closes it, which no line of a
docstring can be. Two comments that start the same text are equal, and the same rest
comes after them.
-/

variable {r s : List CodePoint}

theorem line_append_inj {l m : Text} (hl : .char '\n' ∉ l.toList) (hm : .char '\n' ∉ m.toList)
    (h : l.toList ++ .char '\n' :: r = m.toList ++ .char '\n' :: s) : l = m ∧ r = s := by
  have hall {t : List CodePoint} (ht : .char '\n' ∉ t) : t.all (· != '\n') = true := by
    rw [List.all_eq_true]
    rintro c hc
    exact bne_iff_ne.2 fun heq => ht (heq ▸ hc)
  obtain ⟨hlm, hrs⟩ := Text.append_inj_of_ends (hall hl) (hall hm) (.cons (by decide) r)
    (.cons (by decide) s) h
  exact ⟨Text.toList_inj.1 hlm, (List.cons.inj hrs).2⟩

/-- Lines are read up to the first of a kind. -/
theorem feed_append_inj {ls ms : List Text} {last : Text} (hlast : .char '\n' ∉ last.toList)
    (hls : ∀ l ∈ ls, .char '\n' ∉ l.toList ∧ l ≠ last)
    (hms : ∀ m ∈ ms, .char '\n' ∉ m.toList ∧ m ≠ last)
    (h : feed (ls ++ [last]) ++ r = feed (ms ++ [last]) ++ s) : ls = ms ∧ r = s := by
  induction ls generalizing ms with
  | nil =>
      cases ms with
      | nil => exact ⟨rfl, List.append_cancel_left h⟩
      | cons m ms =>
          obtain ⟨hm, -⟩ := List.forall_mem_cons.1 hms
          simp only [List.nil_append, List.cons_append, feed_cons, List.append_assoc] at h
          exact absurd (line_append_inj hlast hm.1 h).1.symm hm.2
  | cons l ls ih =>
      obtain ⟨hl, hls⟩ := List.forall_mem_cons.1 hls
      cases ms with
      | nil =>
          simp only [List.nil_append, List.cons_append, feed_cons, List.append_assoc] at h
          exact absurd (line_append_inj hl.1 hlast h).1 hl.2
      | cons m ms =>
          obtain ⟨hm, hms'⟩ := List.forall_mem_cons.1 hms
          simp only [List.cons_append, feed_cons, List.append_assoc] at h
          obtain ⟨rfl, hrest⟩ := line_append_inj hl.1 hm.1 h
          obtain ⟨rfl, rfl⟩ := ih hls hms' hrest
          exact ⟨rfl, rfl⟩

theorem indentLine_injective (depth : Nat) : Function.Injective (indentLine depth) := by
  intro l m h
  by_cases hl : l = "" <;> by_cases hm : m = ""
  · rw [hl, hm]
  · simp [indentLine, hl, hm] at h
  · simp [indentLine, hl, hm] at h
  · rw [← Text.toList_inj, toList_indentLine depth hl, toList_indentLine depth hm] at h
    exact Text.toList_inj.1 (List.append_cancel_left h)

theorem feed_notMem_indentLine {l : Text} (depth : Nat) (h : .char '\n' ∉ l.toList) :
    .char '\n' ∉ (indentLine depth l).toList := by
  unfold indentLine
  split
  · exact h
  · simp [h]

theorem mem_of_mem_escapeClose {t : List CodePoint} {c : CodePoint} (h : c ∈ escapeClose t) :
    c ∈ t ∨ c = '\\' := by
  fun_induction escapeClose t <;> grind

theorem feed_notMem_lines {t l : List CodePoint} (h : l ∈ Text.lines t) : .char '\n' ∉ l := by
  fun_induction Text.lines t generalizing l with
  | case1 => simp at h
  | case2 t ih =>
      rcases List.mem_cons.1 h with rfl | h
      · simp
      · exact ih h
  | case3 c t _ hc ih =>
      rcases List.mem_cons.1 h with rfl | h
      · simp
      · exact ih h
  | case4 c t _ hc hlines ih =>
      obtain rfl := List.mem_singleton.1 h
      rw [List.mem_singleton]
      rintro rfl
      exact hc (by decide)
  | case5 c t _ hc m ms hlines ih =>
      rcases List.mem_cons.1 h with rfl | h
      · rw [List.mem_cons]
        rintro (rfl | hm)
        · exact hc (by decide)
        · exact ih (by rw [hlines]; exact List.mem_cons_self) hm
      · exact ih (by rw [hlines]; exact List.mem_cons_of_mem _ h)

theorem feed_notMem_commentLine {line : List CodePoint} (h : .char '\n' ∉ line) :
    .char '\n' ∉ (commentLine line).toList := by
  have htrim : .char '\n' ∉ Text.trimEnd line := by
    intro hmem
    rw [Text.trimEnd, List.mem_reverse] at hmem
    exact h (List.mem_reverse.1 ((List.dropWhile_sublist _).subset hmem))
  have hescape : .char '\n' ∉ escapeClose (Text.trimEnd line) := fun hmem =>
    (mem_of_mem_escapeClose hmem).elim htrim (by decide)
  unfold commentLine
  split
  · decide
  · simpa using hescape

theorem commentLine_ne (line : List CodePoint) : commentLine line ≠ " */" := by
  unfold commentLine
  split
  · decide
  · simp [← Text.toList_inj]

theorem comment_some {doc : Text} (h : doc ≠ "") : comment (some doc) = commentBlock doc := by
  unfold comment
  split <;> simp_all

theorem commentBlock_append_inj (depth : Nat) {doc doc' : Text}
    (h : feed (indent depth (commentBlock doc)) ++ r =
      feed (indent depth (commentBlock doc')) ++ s) :
    commentBlock doc = commentBlock doc' ∧ r = s := by
  let body (doc : Text) : List Text :=
    "/**" :: (Text.lines (Text.trim doc.toList)).map commentLine
  have hparts (doc : Text) : indent depth (commentBlock doc) =
      indent depth (body doc) ++ [indentLine depth " */"] := by
    simp [body, commentBlock, indent]
  have hbody (doc : Text) : ∀ l ∈ indent depth (body doc),
      .char '\n' ∉ l.toList ∧ l ≠ indentLine depth " */" := by
    have hlines : ∀ l ∈ body doc, .char '\n' ∉ l.toList ∧ l ≠ " */" := by
      refine List.forall_mem_cons.2 ⟨by decide, fun l hl => ?_⟩
      obtain ⟨line, hline, rfl⟩ := List.mem_map.1 hl
      exact ⟨feed_notMem_commentLine (feed_notMem_lines hline), commentLine_ne line⟩
    intro l hl
    obtain ⟨m, hm, rfl⟩ := List.mem_map.1 hl
    obtain ⟨hfeed, hne⟩ := hlines m hm
    exact ⟨feed_notMem_indentLine depth hfeed, (indentLine_injective depth).ne hne⟩
  rw [hparts, hparts] at h
  obtain ⟨hdoc, hrs⟩ := feed_append_inj (feed_notMem_indentLine depth (by decide)) (hbody doc)
    (hbody doc') h
  have heq : body doc = body doc' := (List.map_injective_iff.2 (indentLine_injective depth)) hdoc
  exact ⟨congrArg (· ++ [(" */" : Text)]) heq, hrs⟩

theorem exists_feed_commentBlock (depth : Nat) (doc : Text) :
    ∃ t, feed (indent depth (commentBlock doc)) =
      List.replicate (2 * depth) (.char ' ') ++ .char '/' :: t := by
  have hopen : (indentLine depth "/**").toList =
      List.replicate (2 * depth) (.char ' ') ++ [.char '/', .char '*', .char '*'] :=
    toList_indentLine depth (by decide)
  exact ⟨_, by rw [commentBlock, indent, List.map_cons, feed_cons, hopen, List.append_assoc]; rfl⟩

/-- A comment is told from its absence, since no name starts with a slash. -/
theorem comment_append_inj (depth : Nat) {doc doc' : Option Text} (hdoc : doc ≠ some ("" : Text))
    (hdoc' : doc' ≠ some ("" : Text)) (hr : r.head? ≠ some (.char '/'))
    (hs : s.head? ≠ some (.char '/'))
    (h : feed (indent depth (comment doc)) ++ (List.replicate (2 * depth) (.char ' ') ++ r) =
      feed (indent depth (comment doc')) ++ (List.replicate (2 * depth) (.char ' ') ++ s)) :
    doc.map commentBlock = doc'.map commentBlock ∧ r = s := by
  have hslash {t : List CodePoint} (ht : t.head? ≠ some (.char '/')) (doc : Text)
      (u : List CodePoint) : feed (indent depth (commentBlock doc)) ++ u ≠
        List.replicate (2 * depth) (.char ' ') ++ t := by
    obtain ⟨v, hv⟩ := exists_feed_commentBlock depth doc
    rw [hv, List.append_assoc]
    rintro heq
    exact ht (List.append_cancel_left heq ▸ rfl)
  cases doc with
  | none =>
      cases doc' with
      | none => exact ⟨rfl, List.append_cancel_left h⟩
      | some d' =>
          rw [comment_some (by simpa using hdoc')] at h
          exact absurd h.symm (hslash hr d' _)
  | some d =>
      rw [comment_some (by simpa using hdoc)] at h
      cases doc' with
      | none => exact absurd h (hslash hs d _)
      | some d' =>
          rw [comment_some (by simpa using hdoc')] at h
          obtain ⟨hblock, hrest⟩ := commentBlock_append_inj depth h
          exact ⟨congrArg some hblock, List.append_cancel_left hrest⟩

end DeviceTypings.Render
