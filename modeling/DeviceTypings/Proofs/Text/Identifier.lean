import DeviceTypings.Text.Identifier

namespace DeviceTypings.Text

/-!
# Words

The characters of words, and of the names that may stand bare as keys.
-/

theorem all_of_isWord {cs : List CodePoint} (h : isWord cs = true) :
    cs.all isIdentifierPart = true := by
  cases cs with
  | nil => rfl
  | cons c cs =>
      rw [isWord, Bool.and_eq_true] at h
      rw [List.all_cons, isIdentifierPart_of_start h.1, h.2]
      rfl

theorem eq_dropFinalFeed (cs : List CodePoint) :
    cs = dropFinalFeed cs ∨ cs = dropFinalFeed cs ++ [.char '\n'] := by
  fun_induction dropFinalFeed cs with
  | case1 => exact .inl rfl
  | case2 => exact .inr rfl
  | case3 c cs _ ih =>
      refine ih.imp (fun h => ?_) fun h => ?_
      · rw [← h]
      · rw [List.cons_append, ← h]

/-- A name that may stand bare is a word, and perhaps a line feed after it. -/
theorem exists_word_of_isIdentifier {name : Text} (h : isIdentifier name = true) :
    ∃ word, isWord word = true ∧ (name.toList = word ∨ name.toList = word ++ [.char '\n']) :=
  ⟨_, h, eq_dropFinalFeed name.toList⟩

end DeviceTypings.Text
