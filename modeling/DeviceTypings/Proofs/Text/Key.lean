import DeviceTypings.Proofs.Text.Quoted

namespace DeviceTypings.Text

/-!
# Keys and the names that they denote

A property key is a bare word, which denotes itself, or a string in double quotes with the
escapes of JSON. What is written for a name is read back as that name, with two exceptions. A
word with a line feed after it is written bare, and is read without the line feed. A high
surrogate with a low one right after it is read as the character that the two spell.
-/

open Json (stringUnits)

variable {c d : CodePoint} {cs r : List CodePoint} {name : Text}

/-! ## Keys -/

/-- The name that the key at the start of a text denotes, and what follows the key. -/
def readKey? : List CodePoint → Option (Text × List CodePoint)
  | .char '"' :: r => (stringUnits r).map fun (ns, t) => (Text.ofList (joinUnits ns), t)
  | c :: r =>
      if isIdentifierStart c then
        some (Text.ofList (c :: r.takeWhile isIdentifierPart), r.dropWhile isIdentifierPart)
      else none
  | [] => none

/-- A bare word that is the name itself. -/
def IsBareKey (key name : Text) : Prop := isWord key.toList = true ∧ key = name

/-- A string of printable ASCII characters in double quotes whose value is the name. -/
def IsQuotedKey (key name : Text) : Prop :=
  (∀ c ∈ key.toList, 0x20 ≤ c.toNat ∧ c.toNat ≤ 0x7E) ∧
    ∃ body units, key.toList = .char '"' :: body ∧ stringUnits body = some (units, []) ∧
      joinUnits units = name.toList

theorem isPrintable_of_shortEscape {e : CodePoint} (h : shortEscape d = some e) :
    0x20 ≤ e.toNat ∧ e.toNat ≤ 0x7E := by
  unfold shortEscape at h
  split at h <;> simp only [Option.some.injEq, reduceCtorEq] at h <;> subst h <;> decide

theorem isPrintable_unitEscape {n : Nat} (h : c ∈ unitEscape n) :
    0x20 ≤ c.toNat ∧ c.toNat ≤ 0x7E := by
  have hdigit : ∀ i < 16, 0x20 ≤ (hexDigit i).toNat ∧ (hexDigit i).toNat ≤ 0x7E := by decide
  simp only [unitEscape, hex, List.mem_cons, List.mem_map] at h
  rcases h with rfl | rfl | ⟨i, -, rfl⟩
  · decide
  · decide
  · exact hdigit _ (Nat.mod_lt _ (by decide))

theorem isPrintable_escapeAscii (hc : c ∈ escapeAscii d) : 0x20 ≤ c.toNat ∧ c.toNat ≤ 0x7E := by
  unfold escapeAscii at hc
  split at hc
  · rename_i e he
    rcases List.mem_cons.1 hc with rfl | hc
    · decide
    · obtain rfl := List.mem_singleton.1 hc
      exact isPrintable_of_shortEscape he
  · split at hc
    · rename_i hprintable
      obtain rfl := List.mem_singleton.1 hc
      exact hprintable
    · obtain ⟨n, -, hc⟩ := List.mem_flatMap.1 hc
      exact isPrintable_unitEscape hc

theorem isPrintable_doubleQuoted (hc : c ∈ (doubleQuoted name).toList) :
    0x20 ≤ c.toNat ∧ c.toNat ≤ 0x7E := by
  simp only [doubleQuoted, Text.toList_ofList, List.mem_cons, List.mem_append, List.mem_flatMap,
    List.not_mem_nil, or_false] at hc
  rcases hc with rfl | ⟨d, -, hc⟩ | rfl
  · decide
  · exact isPrintable_escapeAscii hc
  · decide

theorem isQuotedKey_doubleQuoted_iff (name : Text) :
    IsQuotedKey (doubleQuoted name) name ↔ name.IsJoined := by
  have hunits := stringUnits_escaped name.toList []
  rw [← joined_eq_self_iff, ← toList_inj]
  constructor
  · rintro ⟨-, body, us, hbody, hus, hname⟩
    obtain rfl := (List.cons.inj hbody).2
    obtain rfl := (Prod.mk.inj (Option.some.inj (hunits.symm.trans hus))).1
    exact hname
  · intro hname
    exact ⟨fun c => isPrintable_doubleQuoted, _, name.utf16,
      by rw [doubleQuoted, Text.toList_ofList], hunits, hname⟩

theorem readKey?_doubleQuoted (name : Text) (r : List CodePoint) :
    readKey? ((doubleQuoted name).toList ++ r) = some (name.joined, r) := by
  have hunits := stringUnits_escaped name.toList r
  simp only [doubleQuoted, Text.toList_ofList, List.cons_append, List.append_assoc,
    List.nil_append, readKey?, hunits, Option.map_some, joined, utf16]

theorem readKey?_word (h : isWord cs = true) (hr : Ends isIdentifierPart r) :
    readKey? (cs ++ r) = some (Text.ofList cs, r) := by
  have hall := all_of_isWord h
  obtain ⟨c, cs, rfl, hc⟩ := exists_cons_of_isWord h
  have hquote : c ≠ '"' := by
    rintro rfl
    exact absurd hc (by decide)
  have hcs : ∀ d ∈ cs, isIdentifierPart d = true := fun d hd =>
    List.all_eq_true.1 hall d (List.mem_cons_of_mem c hd)
  rw [List.cons_append, readKey?, if_pos hc, List.takeWhile_append_of_pos hcs,
    List.dropWhile_append_of_pos hcs, hr.takeWhile_eq.1, hr.takeWhile_eq.2, List.append_nil]
  exact fun h => hquote h

/-! ## The keys of names -/

/-- `a` is the word `b` with a line feed after it. -/
def IsFed (a b : Text) : Prop := isWord b.toList = true ∧ a.toList = b.toList ++ [.char '\n']

/-- The name that the key for a name denotes. -/
def denoted (name : Text) : Text :=
  if isIdentifier name then Text.ofList (dropFinalFeed name.toList) else name.joined

theorem not_isFed_of_isWord {a b : Text} (ha : isWord a.toList = true) : ¬ IsFed a b := by
  rintro ⟨-, hfeed⟩
  have hall := all_of_isWord ha
  rw [hfeed, List.all_append, Bool.and_eq_true] at hall
  exact absurd hall.2 (by decide)

theorem dropFinalFeed_append (cs : List CodePoint) : dropFinalFeed (cs ++ [.char '\n']) = cs := by
  induction cs with
  | nil => rfl
  | cons c cs ih =>
      rw [List.cons_append, dropFinalFeed, ih]
      simp

theorem isIdentifier_of_isFed {a b : Text} (h : IsFed a b) : isIdentifier a = true := by
  rw [isIdentifier, h.2, dropFinalFeed_append]
  exact h.1

theorem isIdentifier_of_isWord (h : isWord name.toList = true) : isIdentifier name = true := by
  rcases eq_dropFinalFeed name.toList with hname | hname
  · rwa [isIdentifier, ← hname]
  · have hall := all_of_isWord h
    rw [hname, List.all_append, Bool.and_eq_true] at hall
    exact absurd hall.2 (by decide)

theorem denoted_of_isFed {a b : Text} (h : IsFed a b) : denoted a = b := by
  rw [denoted, if_pos (isIdentifier_of_isFed h), h.2, dropFinalFeed_append, Text.ofList_toList]

theorem toNat_lt_of_isAlpha {c : Char} (h : c.isAlpha = true) : c.toNat < 0x80 := by
  delta Char.isAlpha Char.isUpper Char.isLower at h
  simp only [Bool.or_eq_true, Bool.and_eq_true, decide_eq_true_eq, UInt32.le_iff_toNat_le] at h
  have hval : c.toNat = c.val.toNat := rfl
  have hZ : 'Z'.val.toNat = 90 := rfl
  have hz : 'z'.val.toNat = 122 := rfl
  omega

theorem toNat_lt_of_isIdentifierPart (h : isIdentifierPart c = true) : c.toNat < 0x80 := by
  cases c with
  | surrogate n => simp [isIdentifierPart, CodePoint.isAlphanum, CodePoint.isAlpha,
      CodePoint.isDigit] at h
  | char c =>
      simp only [isIdentifierPart, CodePoint.isAlphanum, CodePoint.isAlpha_char,
        CodePoint.isDigit_char, Bool.or_eq_true, beq_iff_eq, CodePoint.char.injEq] at h
      rw [CodePoint.toNat_char]
      rcases h with ((h | h) | rfl) | rfl
      · exact toNat_lt_of_isAlpha h
      · have h9 : '9'.toNat = 57 := rfl
        have hdigit := (Char.isDigit_iff_toNat.1 h).2
        omega
      · decide
      · decide

theorem toNat_lt_of_isIdentifier (h : isIdentifier name = true) :
    ∀ c ∈ name.toList, c.toNat < 0x80 := by
  obtain ⟨word, hword, hname⟩ := exists_word_of_isIdentifier h
  have hall : ∀ c ∈ word, c.toNat < 0x80 := fun c hc =>
    toNat_lt_of_isIdentifierPart (List.all_eq_true.1 (all_of_isWord hword) c hc)
  intro c hc
  rcases hname with hname | hname <;> rw [hname] at hc
  · exact hall c hc
  · rcases List.mem_append.1 hc with hc | hc
    · exact hall c hc
    · obtain rfl := List.mem_singleton.1 hc
      decide

theorem joined_of_isIdentifier (h : isIdentifier name = true) : name.joined = name :=
  eq_of_utf16_eq (toNat_lt_of_isIdentifier h) (utf16_joined name).symm |>.symm

/-- A name that is not shortened in its key is written as a word or in quotes. -/
theorem denoted_cases (name : Text) :
    IsFed name (denoted name) ∧ quoteName name = name ∨
      denoted name = name.joined ∧ (∀ word, ¬ IsFed name word) ∧
        (isWord name.toList = true ∧ quoteName name = name ∨
          isIdentifier name = false ∧ quoteName name = doubleQuoted name) := by
  by_cases h : isIdentifier name = true
  · have hquote : quoteName name = name := if_pos h
    have hdenoted : denoted name = Text.ofList (dropFinalFeed name.toList) := if_pos h
    have hjoined := joined_of_isIdentifier h
    rw [isIdentifier] at h
    rcases eq_dropFinalFeed name.toList with hname | hname
    · rw [← hname] at h hdenoted
      rw [Text.ofList_toList] at hdenoted
      exact .inr ⟨hdenoted.trans hjoined.symm, fun word => not_isFed_of_isWord h, .inl ⟨h, hquote⟩⟩
    · have hfed : IsFed name (denoted name) := by
        rw [hdenoted]
        exact ⟨by rwa [Text.toList_ofList], by rwa [Text.toList_ofList]⟩
      exact .inl ⟨hfed, hquote⟩
  · exact .inr ⟨if_neg h, fun word hfed => h (isIdentifier_of_isFed hfed),
      .inr ⟨Bool.eq_false_iff.2 h, if_neg h⟩⟩

theorem readKey?_quoteName (name : Text) (hr : Ends isNamePart r) :
    (readKey? ((quoteName name).toList ++ r)).map Prod.fst = some (denoted name) := by
  rcases denoted_cases name with ⟨hfed, hquote⟩ | ⟨hdenoted, -, ⟨hword, hquote⟩ | ⟨-, hquote⟩⟩ <;>
    rw [hquote]
  · have hfeed : Ends isIdentifierPart (.char '\n' :: r) := .cons (by decide) r
    rw [hfed.2, List.append_assoc, List.singleton_append, readKey?_word hfed.1 hfeed,
      Text.ofList_toList]
    rfl
  · rw [readKey?_word hword hr.part, Text.ofList_toList, hdenoted,
      joined_of_isIdentifier (isIdentifier_of_isWord hword)]
    rfl
  · rw [readKey?_doubleQuoted, hdenoted]
    rfl

/-- Two names have one key if they have the same units or one is the other with a line feed
after it. -/
theorem denoted_eq_iff (a b : Text) :
    denoted a = denoted b ↔ a.utf16 = b.utf16 ∨ IsFed a b ∨ IsFed b a := by
  have hword {w : Text} (hw : isWord w.toList = true) : w.joined = w :=
    joined_of_isIdentifier (isIdentifier_of_isWord hw)
  -- A name whose units are those of a word is the word.
  have hunits {w c : Text} (hw : isWord w.toList = true) (h : w = c.joined) : c = w := by
    rw [← hword hw, joined_eq_iff] at h
    exact (eq_of_utf16_eq (toNat_lt_of_isIdentifier (isIdentifier_of_isWord hw)) h).symm
  have hfed {a b : Text} (h : IsFed a b) : denoted a = denoted b := by
    rcases denoted_cases b with ⟨hb, -⟩ | ⟨hb, -⟩
    · exact absurd hb (not_isFed_of_isWord h.1)
    · rw [denoted_of_isFed h, hb, hword h.1]
  constructor
  · intro h
    rcases denoted_cases a with ⟨ha, -⟩ | ⟨ha, -⟩ <;> rcases denoted_cases b with ⟨hb, -⟩ | ⟨hb, -⟩
    · have htext : a.toList = b.toList := by rw [ha.2, hb.2, h]
      exact .inl (congrArg utf16 (Text.toList_inj.1 htext))
    · exact .inr (.inl (hunits ha.1 (h.trans hb) ▸ ha))
    · exact .inr (.inr (hunits hb.1 (h.symm.trans ha) ▸ hb))
    · exact .inl (joined_eq_iff.1 (ha.symm.trans (h.trans hb)))
  · rintro (h | h | h)
    · by_cases ha : isIdentifier a = true
      · rw [eq_of_utf16_eq (toNat_lt_of_isIdentifier ha) h]
      · by_cases hb : isIdentifier b = true
        · rw [eq_of_utf16_eq (toNat_lt_of_isIdentifier hb) h.symm]
        · rw [denoted, if_neg ha, denoted, if_neg hb, joined_eq_iff.2 h]
    · exact hfed h
    · exact (hfed h).symm

/-- What is written for a name is a single key that denotes it, unless the name is a word with a
line feed after it or has two surrogates that are joined. -/
theorem isKey_quoteName_iff (name : Text) :
    IsBareKey (quoteName name) name ∨ IsQuotedKey (quoteName name) name ↔
      (∀ word, ¬ IsFed name word) ∧ name.IsJoined := by
  rcases denoted_cases name with ⟨hfed, hquote⟩ | ⟨-, hfed, ⟨hword, hquote⟩ | ⟨hname, hquote⟩⟩ <;>
    rw [hquote]
  · refine iff_of_false ?_ (fun h => h.1 _ hfed)
    rintro (⟨hword, -⟩ | ⟨hprintable, -⟩)
    · exact not_isFed_of_isWord hword hfed
    · have hfeed : .char '\n' ∈ name.toList := by simp [hfed.2]
      exact absurd (hprintable _ hfeed).1 (by decide)
  · have hjoined := joined_of_isIdentifier (isIdentifier_of_isWord hword)
    exact iff_of_true (.inl ⟨hword, rfl⟩) ⟨hfed, joined_eq_self_iff.1 hjoined⟩
  · rw [isQuotedKey_doubleQuoted_iff, and_iff_right hfed, or_iff_right]
    rintro ⟨hword, -⟩
    simp [doubleQuoted, isWord, isIdentifierStart] at hword

end DeviceTypings.Text
