import DeviceTypings.Proofs.Text.Identifier
import DeviceTypings.Proofs.Text.Units
import DeviceTypings.Text.Quoted

namespace DeviceTypings.Text

/-!
# Names and constants read back

No quoted text starts another one, since each code point has an escape that starts no
other. So a constant, and a name up to its units, can be told from the text that it starts,
whatever comes after it.
-/

variable {p : CodePoint → Bool} {cs ds r s : List CodePoint} {c d q : CodePoint}

/-! ## Words -/

/-- A text that goes on with no character of the kind `p`. -/
def Ends (p : CodePoint → Bool) (r : List CodePoint) : Prop := ∀ c ∈ r.head?, p c = false

theorem Ends.cons (h : p c = false) (r : List CodePoint) : Ends p (c :: r) := by
  simpa [Ends] using h

theorem Ends.takeWhile_eq (h : Ends p r) : r.takeWhile p = [] ∧ r.dropWhile p = r := by
  cases r with
  | nil => exact ⟨rfl, rfl⟩
  | cons c r => simp [h c rfl]

/-- Two texts that start with characters of one kind have the same such start. -/
theorem append_inj_of_ends (hcs : cs.all p = true) (hds : ds.all p = true) (hr : Ends p r)
    (hs : Ends p s) (h : cs ++ r = ds ++ s) : cs = ds ∧ r = s := by
  have hp {ts : List CodePoint} (hts : ts.all p = true) : ∀ c ∈ ts, p c = true :=
    List.all_eq_true.1 hts
  have htake := congrArg (List.takeWhile p) h
  have hdrop := congrArg (List.dropWhile p) h
  rw [List.takeWhile_append_of_pos (hp hcs), List.takeWhile_append_of_pos (hp hds),
    hr.takeWhile_eq.1, hs.takeWhile_eq.1, List.append_nil, List.append_nil] at htake
  rw [List.dropWhile_append_of_pos (hp hcs), List.dropWhile_append_of_pos (hp hds),
    hr.takeWhile_eq.2, hs.takeWhile_eq.2] at hdrop
  exact ⟨htake, hdrop⟩

theorem word_append_inj (hcs : isWord cs = true) (hds : isWord ds = true)
    (hr : Ends isIdentifierPart r) (hs : Ends isIdentifierPart s) (h : cs ++ r = ds ++ s) :
    cs = ds ∧ r = s :=
  append_inj_of_ends (all_of_isWord hcs) (all_of_isWord hds) hr hs h

theorem exists_cons_of_isWord (h : isWord cs = true) :
    ∃ c r, cs = c :: r ∧ isIdentifierStart c = true := by
  cases cs with
  | nil => simp [isWord] at h
  | cons c r =>
      rw [isWord, Bool.and_eq_true] at h
      exact ⟨c, r, rfl, h.1⟩

/-- A text that may be missing is told by its first character. -/
theorem option_append_inj {b b' : Bool} {t : List CodePoint} (ht : ∃ d ∈ t.head?, d ≠ c)
    (h : (if b then t else []) ++ c :: r = (if b' then t else []) ++ c :: s) :
    b = b' ∧ r = s := by
  obtain ⟨d, hd, hne⟩ := ht
  obtain ⟨u, rfl⟩ := List.head?_eq_some_iff.1 hd
  cases b <;> cases b'
  · exact ⟨rfl, (List.cons.inj h).2⟩
  · exact absurd (List.cons.inj h).1.symm hne
  · exact absurd (List.cons.inj h).1 hne
  · exact ⟨rfl, (List.cons.inj (List.append_cancel_left h)).2⟩

/-! ## Escapes -/

theorem hexDigit_inj {m n : Nat} (hm : m < 16) (hn : n < 16) (h : hexDigit m = hexDigit n) :
    m = n := by
  have hall : ∀ i < 16, ∀ j < 16, hexDigit i = hexDigit j → i = j := by decide
  exact hall m hm n hn h

theorem unitEscape_append_inj {m n : Nat} (hm : m < 0x10000) (hn : n < 0x10000)
    (h : unitEscape m ++ r = unitEscape n ++ s) : m = n ∧ r = s := by
  have hmod (k : Nat) : k % 16 < 16 := Nat.mod_lt _ (by decide)
  simp only [unitEscape, hex_four, List.cons_append, List.nil_append, List.cons.injEq,
    true_and] at h
  obtain ⟨h₃, h₂, h₁, h₀, rfl⟩ := h
  have h₃ := hexDigit_inj (hmod _) (hmod _) h₃
  have h₂ := hexDigit_inj (hmod _) (hmod _) h₂
  have h₁ := hexDigit_inj (hmod _) (hmod _) h₁
  have h₀ := hexDigit_inj (hmod _) (hmod _) h₀
  exact ⟨by omega, rfl⟩

/-- The escape of a code point by a letter, by its number, or by none. -/
def escapeBy (short : CodePoint → Option CodePoint) (c : CodePoint) : List CodePoint :=
  match short c with
  | some e => ['\\', e]
  | none => if c.toNat < 0x20 then unitEscape c.toNat else [c]

/-- The character that a letter after a backslash stands for. -/
def unescapeShort : CodePoint → CodePoint
  | .char 'n' => '\n'
  | .char 'r' => '\r'
  | .char 't' => '\t'
  | .char 'b' => '\x08'
  | .char 'f' => '\x0c'
  | e => e

/-- What makes escapes by letters differ from each other and from all others. -/
structure IsShort (short : CodePoint → Option CodePoint) : Prop where
  unescape : ∀ {c e : CodePoint}, short c = some e → unescapeShort e = c
  ne : ∀ c, short c ≠ some (.char 'u')
  backslash : short '\\' ≠ none

section

variable {short : CodePoint → Option CodePoint}

theorem escapeBy_cases (short : CodePoint → Option CodePoint) (c : CodePoint) :
    (∃ e, short c = some e ∧ escapeBy short c = [.char '\\', e]) ∨
      short c = none ∧ escapeBy short c = [c] ∨
        c.toNat < 0x10000 ∧ escapeBy short c = unitEscape c.toNat := by
  unfold escapeBy
  cases short c with
  | some e => exact .inl ⟨e, rfl, rfl⟩
  | none =>
      by_cases hc : c.toNat < 0x20
      · exact .inr (.inr ⟨by omega, if_pos hc⟩)
      · exact .inr (.inl ⟨rfl, if_neg hc⟩)

theorem escapeBy_append_inj (hshort : IsShort short)
    (h : escapeBy short c ++ r = escapeBy short d ++ s) : c = d ∧ r = s := by
  -- A backslash that stands for itself would need no letter.
  have hbackslash {b : CodePoint} (hb : short b = none) : b ≠ '\\' := by
    rintro rfl
    exact hshort.backslash hb
  rcases escapeBy_cases short c with ⟨e, hc, hce⟩ | ⟨hc, hce⟩ | ⟨hc, hce⟩ <;>
    rcases escapeBy_cases short d with ⟨e', hd, hde⟩ | ⟨hd, hde⟩ | ⟨hd, hde⟩ <;>
      rw [hce, hde] at h
  · simp only [List.cons_append, List.nil_append, List.cons.injEq, true_and] at h
    obtain ⟨rfl, rfl⟩ := h
    exact ⟨(hshort.unescape hc).symm.trans (hshort.unescape hd), rfl⟩
  · exact absurd (List.cons.inj h).1.symm (hbackslash hd)
  · exact absurd ((List.cons.inj (List.cons.inj h).2).1 ▸ hc) (hshort.ne c)
  · exact absurd (List.cons.inj h).1 (hbackslash hc)
  · exact List.cons.inj h
  · exact absurd (List.cons.inj h).1 (hbackslash hc)
  · exact absurd ((List.cons.inj (List.cons.inj h).2).1 ▸ hd) (hshort.ne d)
  · exact absurd (List.cons.inj h).1.symm (hbackslash hd)
  · exact (unitEscape_append_inj hc hd h).imp_left CodePoint.toNat_inj.1

/-- No escape starts with a code point that has one itself. -/
theorem escapeBy_append_ne (hq : short q ≠ none) (hslash : q ≠ '\\') :
    escapeBy short c ++ r ≠ q :: s := by
  intro h
  rcases escapeBy_cases short c with ⟨e, -, hce⟩ | ⟨hc, hce⟩ | ⟨-, hce⟩ <;> rw [hce] at h
  · exact hslash (List.cons.inj h).1.symm
  · exact hq ((List.cons.inj h).1 ▸ hc)
  · exact hslash (List.cons.inj h).1.symm

end

/-- Texts between quotes can be told apart if the escapes of their characters can. -/
theorem flatMap_append_inj {f : CodePoint → List CodePoint}
    (hinj : ∀ {c d r s}, f c ++ r = f d ++ s → c = d ∧ r = s)
    (hne : ∀ {c r s}, f c ++ r ≠ q :: s)
    (h : cs.flatMap f ++ q :: r = ds.flatMap f ++ q :: s) : cs = ds ∧ r = s := by
  induction cs generalizing ds with
  | nil =>
      cases ds with
      | nil => exact ⟨rfl, (List.cons.inj h).2⟩
      | cons d ds =>
          rw [List.flatMap_cons, List.append_assoc] at h
          exact absurd h.symm hne
  | cons c cs ih =>
      rw [List.flatMap_cons, List.append_assoc] at h
      cases ds with
      | nil => exact absurd h hne
      | cons d ds =>
          rw [List.flatMap_cons, List.append_assoc] at h
          obtain ⟨rfl, hrest⟩ := hinj h
          exact (ih hrest).imp_left (congrArg (c :: ·))

/-! ## Quotes -/

theorem unescape_of_shortEscape {e : CodePoint} (h : shortEscape c = some e) :
    unescapeShort e = c := by
  unfold shortEscape at h
  split at h <;> simp only [Option.some.injEq, reduceCtorEq] at h <;> exact h ▸ rfl

/-- The letters after a backslash in single quotes. -/
def literalEscape (c : CodePoint) : Option CodePoint :=
  if c = '\'' then some '\'' else shortEscape c

theorem isShort_literalEscape : IsShort literalEscape := by
  constructor
  · intro c e h
    unfold literalEscape at h
    split at h
    · rename_i hc
      obtain rfl := Option.some.inj h
      exact hc.symm
    · exact unescape_of_shortEscape h
  · intro c
    unfold literalEscape
    split
    · simp
    · exact shortEscape_ne c
  · simp [literalEscape, shortEscape]

theorem escapeLiteral_eq (c : CodePoint) : escapeLiteral c = escapeBy literalEscape c := by
  unfold escapeLiteral escapeShort escapeBy literalEscape
  split
  · rfl
  · cases shortEscape c <;> rfl

/-- A text in double quotes is told up to its units. -/
theorem doubleQuoted_append_inj {a b : Text}
    (h : (doubleQuoted a).toList ++ r = (doubleQuoted b).toList ++ s) :
    a.utf16 = b.utf16 ∧ r = s := by
  simp only [doubleQuoted, Text.toList_ofList, List.cons_append, List.append_assoc,
    List.nil_append] at h
  have hunits := congrArg Json.stringUnits (List.cons.inj h).2
  rw [stringUnits_escaped, stringUnits_escaped] at hunits
  exact Prod.mk.inj (Option.some.inj hunits)

theorem quoteLiteral_append_inj {a b : Text}
    (h : (quoteLiteral a).toList ++ r = (quoteLiteral b).toList ++ s) : a = b ∧ r = s := by
  simp only [quoteLiteral, Text.toList_ofList, funext escapeLiteral_eq, List.cons_append,
    List.append_assoc, List.nil_append] at h
  have hchars := flatMap_append_inj (escapeBy_append_inj isShort_literalEscape)
    (escapeBy_append_ne (by simp [literalEscape]) (by decide)) (List.cons.inj h).2
  exact hchars.imp_left Text.toList_inj.1

/-! ## Names -/

/-- The characters that a bare name may go on with. -/
def isNamePart (c : CodePoint) : Bool := isIdentifierPart c || c == '\n'

theorem Ends.part (h : Ends isNamePart r) : Ends isIdentifierPart r := by
  intro c hc
  have hpart := h c hc
  rw [isNamePart, Bool.or_eq_false_iff] at hpart
  exact hpart.1

theorem bare_append_inj {a b : Text} (ha : isIdentifier a = true) (hb : isIdentifier b = true)
    (hr : Ends isNamePart r) (hs : Ends isNamePart s) (h : a.toList ++ r = b.toList ++ s) :
    a = b ∧ r = s := by
  have hline {t : List CodePoint} (ht : Ends isNamePart t) (u : List CodePoint) :
      t ≠ .char '\n' :: u := by
    rintro rfl
    simpa [isNamePart] using ht '\n' rfl
  have hfeed (t : List CodePoint) : Ends isIdentifierPart (.char '\n' :: t) := .cons (by decide) t
  obtain ⟨v, hv, hav⟩ := exists_word_of_isIdentifier ha
  obtain ⟨w, hw, hbw⟩ := exists_word_of_isIdentifier hb
  rw [← Text.toList_inj]
  rcases hav with hav | hav <;> rcases hbw with hbw | hbw <;>
    simp only [hav, hbw, List.append_assoc, List.singleton_append] at h ⊢
  · exact word_append_inj hv hw hr.part hs.part h
  · exact absurd (word_append_inj hv hw hr.part (hfeed s) h).2 (hline hr s)
  · exact absurd (word_append_inj hv hw (hfeed r) hs.part h).2.symm (hline hs r)
  · obtain ⟨rfl, hrest⟩ := word_append_inj hv hw (hfeed r) (hfeed s) h
    exact ⟨rfl, (List.cons.inj hrest).2⟩

/-- A bare name is no quoted one. -/
theorem bare_append_ne {a b : Text} (ha : isIdentifier a = true) :
    a.toList ++ r ≠ (doubleQuoted b).toList ++ s := by
  intro h
  obtain ⟨v, hv, hav⟩ := exists_word_of_isIdentifier ha
  obtain ⟨c, t, rfl, hc⟩ := exists_cons_of_isWord hv
  have hquote : c = '"' := by
    rcases hav with hav | hav <;>
      simp only [hav, doubleQuoted, Text.toList_ofList, List.cons_append, List.cons.injEq] at h <;>
      exact h.1
  subst hquote
  simp [isIdentifierStart] at hc

/-- A name is told up to its units. -/
theorem quoteName_append_inj {a b : Text} (hr : Ends isNamePart r) (hs : Ends isNamePart s)
    (h : (quoteName a).toList ++ r = (quoteName b).toList ++ s) : a.utf16 = b.utf16 ∧ r = s := by
  unfold quoteName at h
  split at h <;> rename_i ha <;> split at h <;> rename_i hb
  · exact (bare_append_inj ha hb hr hs h).imp_left (congrArg utf16)
  · exact absurd h (bare_append_ne ha)
  · exact absurd h.symm (bare_append_ne hb)
  · exact doubleQuoted_append_inj h

end DeviceTypings.Text
