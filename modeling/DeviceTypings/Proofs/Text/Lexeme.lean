import DeviceTypings.Proofs.Text.Key
import Mathlib.Tactic.SplitIfs

namespace DeviceTypings.Text

/-!
# Statements and their lexemes

The first statement of a text is read as words, marks and strings in double quotes, up to its
semicolon. A string is read character by character, with what is open of an escape in mind, and
stands for UTF-16 units. An escape is always longer than what it stands for. So a text that is
put between two quotes stands for itself only if it has no escape and nothing else that a string
must not hold as it is.
-/

open Json (hexValue? isSpace)

variable {c : CodePoint} {cs r t : List CodePoint} {ns : List Nat}

/-! ## Strings -/

/-- The units of a code point, which may be a surrogate. -/
def pointUnits (n : Nat) : List Nat :=
  if n < 0x10000 then [n] else [0xD800 + (n - 0x10000) / 0x400, 0xDC00 + (n - 0x10000) % 0x400]

/-- What is open of an escape when a string has been read up to some character. -/
inductive Spelling
  | plain
  /-- A backslash. -/
  | escape
  /-- An escaped zero, after which no digit may come. -/
  | zero
  /-- An escaped carriage return, to which a line feed after it belongs. -/
  | carriage
  /-- The letter of an escape by four digits, or by digits in braces. -/
  | unit
  /-- Digits that spell `n` so far. After the next one, `left` more have to come. -/
  | digits (left n : Nat)
  /-- A brace, and after it digits that spell the number, if there are any. -/
  | braces (n? : Option Nat)
deriving DecidableEq

namespace Spelling

/-- Whether a quote ends the string. -/
def ends : Spelling → Bool
  | plain | zero | carriage => true
  | _ => false

/-- A character that belongs to no escape. Of the characters that end lines, only a line feed and
a carriage return may not stand in a string. -/
def bare? (c : CodePoint) : Option (Spelling × List Nat) :=
  if c = '\\' then some (escape, [])
  else if c = '\n' ∨ c = '\r' then none
  else some (plain, units c)

/-- The character after a backslash. The end of a line stands for nothing, and a digit other
than zero is not allowed. -/
def escaped? (c : CodePoint) : Option (Spelling × List Nat) :=
  if c = 'u' then some (unit, [])
  else if c = 'x' then some (digits 1 0, [])
  else if c = '0' then some (zero, [0])
  else if c = '\r' then some (carriage, [])
  else if c = '\n' ∨ c = '\u2028' ∨ c = '\u2029' then some (plain, [])
  else if c = 'v' then some (plain, [0x0B])
  else if c.isDigit then none
  else some (plain, units (unescapeShort c))

/-- What is open after one more character, and the units that the character completes. -/
def step? : Spelling → CodePoint → Option (Spelling × List Nat)
  | plain, c => bare? c
  | escape, c => escaped? c
  | zero, c => if c.isDigit then none else bare? c
  | carriage, c => if c = '\n' then some (plain, []) else bare? c
  | unit, c =>
      if c = '\x7b' then some (braces none, [])
      else (hexValue? c).map fun d => (digits 2 d, [])
  | digits 0 n, c => (hexValue? c).map fun d => (plain, [16 * n + d])
  | digits (left + 1) n, c => (hexValue? c).map fun d => (digits left (16 * n + d), [])
  | braces n?, c =>
      if c = '\x7d' then n?.map fun n => (plain, pointUnits n)
      else (hexValue? c).bind fun d =>
        let n := 16 * n?.getD 0 + d
        if n ≤ 0x10FFFF then some (braces (some n), []) else none

/-- The units of a string up to its closing quote, and what follows the quote. -/
def read? : Spelling → List CodePoint → Option (List Nat × List CodePoint)
  | _, [] => none
  | σ, c :: r =>
      if c = '"' ∧ σ.ends then some ([], r)
      else do
        let (τ, ns) ← σ.step? c
        let (ms, t) ← τ.read? r
        return (ns ++ ms, t)

/-- An open escape has at least so many characters more than units so far. Digits in braces may
still spell two units. -/
def owed : Spelling → Nat
  | plain => 0
  | braces _ => 2
  | _ => 1

end Spelling

/-- A character that may stand in a string as it is. -/
def IsOrdinary (c : CodePoint) : Prop := c ≠ '"' ∧ c ≠ '\\' ∧ c ≠ '\n' ∧ c ≠ '\r'

/-! ### Lengths -/

theorem length_units_pos (c : CodePoint) : 0 < (units c).length := by
  unfold units
  split <;> simp

theorem length_units_unescapeShort (c : CodePoint) :
    (units (unescapeShort c)).length ≤ (units c).length := by
  unfold unescapeShort
  split <;> exact Nat.le_refl _

theorem length_pointUnits_le (n : Nat) : (pointUnits n).length ≤ 2 := by
  unfold pointUnits
  split <;> simp

namespace Spelling

variable {σ τ : Spelling}

theorem bare?_cases (h : bare? c = some (τ, ns)) :
    τ = plain ∧ ns = units c ∧ (c ≠ '\\' ∧ c ≠ '\n' ∧ c ≠ '\r') ∨ τ = escape ∧ ns = [] := by
  unfold bare? at h
  grind

theorem length_bare? (h : bare? c = some (τ, ns)) :
    ns.length + max 1 τ.owed ≤ 1 + (units c).length := by
  have hpos := length_units_pos c
  rcases bare?_cases h with ⟨rfl, rfl, -⟩ | ⟨rfl, rfl⟩
  · simp only [owed]
    omega
  · simp only [owed, List.length_nil]
    omega

theorem length_escaped? (h : escaped? c = some (τ, ns)) :
    ns.length + max 1 τ.owed ≤ 1 + (units c).length := by
  have hpos := length_units_pos c
  have hletter := length_units_unescapeShort c
  unfold escaped? at h
  split_ifs at h
  all_goals
    obtain ⟨rfl, rfl⟩ := Prod.mk.inj (Option.some.inj h)
    simp only [owed, List.length_nil, List.length_singleton]
    omega

theorem length_digits {left n : Nat} (h : (digits left n).step? c = some (τ, ns)) :
    ns.length + max 1 τ.owed ≤ 2 := by
  cases left
  all_goals
    obtain ⟨d, -, hd⟩ := Option.map_eq_some_iff.1 h
    obtain ⟨rfl, rfl⟩ := Prod.mk.inj hd
    simp [owed]

theorem length_braces {n? : Option Nat} (h : (braces n?).step? c = some (τ, ns)) :
    ns.length + max 1 τ.owed ≤ 3 := by
  rw [step?] at h
  split_ifs at h
  · obtain ⟨n, -, hn⟩ := Option.map_eq_some_iff.1 h
    obtain ⟨rfl, rfl⟩ := Prod.mk.inj hn
    have hunits := length_pointUnits_le n
    simp only [owed]
    omega
  · obtain ⟨d, -, hd⟩ := Option.bind_eq_some_iff.1 h
    dsimp only at hd
    split_ifs at hd
    obtain ⟨rfl, rfl⟩ := Prod.mk.inj (Option.some.inj hd)
    simp [owed]

/-- What a character completes and what is open after it come to no more than what was open
before and the character itself. Only a character that stands for itself leaves nothing over. -/
theorem step?_cases (h : σ.step? c = some (τ, ns)) :
    (σ = plain ∧ τ = plain ∧ ns = units c ∧ (c ≠ '\\' ∧ c ≠ '\n' ∧ c ≠ '\r')) ∨
      ns.length + max 1 τ.owed ≤ σ.owed + (units c).length := by
  have hpos := length_units_pos c
  cases σ with
  | plain =>
      rcases bare?_cases h with ⟨hτ, hns, hc⟩ | ⟨rfl, rfl⟩
      · exact .inl ⟨rfl, hτ, hns, hc⟩
      · right
        simp only [owed, List.length_nil]
        omega
  | escape => exact .inr (length_escaped? h)
  | zero =>
      rw [step?] at h
      split_ifs at h
      exact .inr (length_bare? h)
  | carriage =>
      rw [step?] at h
      split_ifs at h
      · obtain ⟨rfl, rfl⟩ := Prod.mk.inj (Option.some.inj h)
        right
        simp [owed]
      · exact .inr (length_bare? h)
  | unit =>
      right
      rw [step?] at h
      split_ifs at h
      · obtain ⟨rfl, rfl⟩ := Prod.mk.inj (Option.some.inj h)
        simp only [owed, List.length_nil]
        omega
      · obtain ⟨d, -, hd⟩ := Option.map_eq_some_iff.1 h
        obtain ⟨rfl, rfl⟩ := Prod.mk.inj hd
        simp [owed]
  | digits left n =>
      have hlength := length_digits h
      right
      simp only [owed] at hlength ⊢
      omega
  | braces n? =>
      have hlength := length_braces h
      right
      simp only [owed] at hlength ⊢
      omega

/-! ### Whole strings -/

/-- A character ends the string, or it is a step and the rest is read from there. -/
theorem read?_cons_cases (h : σ.read? (c :: cs) = some (ns, r)) :
    (c = '"' ∧ σ.ends = true) ∧ ns = [] ∧ r = cs ∨
      ¬ (c = '"' ∧ σ.ends = true) ∧ ∃ τ ns₁ ns₂, σ.step? c = some (τ, ns₁) ∧
        τ.read? cs = some (ns₂, r) ∧ ns = ns₁ ++ ns₂ := by
  rw [read?] at h
  split_ifs at h with hends
  · obtain ⟨rfl, rfl⟩ := Prod.mk.inj (Option.some.inj h)
    exact .inl ⟨hends, rfl, rfl⟩
  · obtain ⟨⟨τ, ns₁⟩, hstep, h⟩ := Option.bind_eq_some_iff.1 h
    obtain ⟨⟨ns₂, r'⟩, hread, h⟩ := Option.bind_eq_some_iff.1 h
    obtain ⟨rfl, rfl⟩ := Prod.mk.inj (Option.some.inj h)
    exact .inr ⟨hends, τ, ns₁, ns₂, hstep, hread, rfl⟩

theorem length_read? (h : σ.read? cs = some (ns, r)) : r.length < cs.length := by
  induction cs generalizing σ ns with
  | nil => simp [read?] at h
  | cons c cs ih =>
      rw [List.length_cons]
      rcases read?_cons_cases h with ⟨-, -, rfl⟩ | ⟨-, τ, ns₁, ns₂, -, hread, -⟩
      · omega
      · have hless := ih hread
        omega

theorem read?_ordinary (h : ∀ c ∈ cs, IsOrdinary c) (r : List CodePoint) :
    plain.read? (cs ++ .char '"' :: r) = some (cs.flatMap units, r) := by
  induction cs with
  | nil => simp [read?, ends]
  | cons c cs ih =>
      obtain ⟨⟨hquote, hslash, hfeed, hreturn⟩, hcs⟩ := List.forall_mem_cons.1 h
      have hstep : plain.step? c = some (plain, units c) := by
        simp [step?, bare?, hslash, hfeed, hreturn]
      rw [List.cons_append, read?, if_neg (by simp [hquote]), hstep]
      simp [ih hcs]

/-- Inside of an escape a quote is allowed only right after the backslash. -/
theorem step?_quote (h : σ.step? '"' = some (τ, ns)) : σ.ends = true ∨ τ = plain := by
  have hquote : hexValue? '"' = none := by decide
  cases σ with
  | plain | zero | carriage => exact .inl rfl
  | escape =>
      have hescape : escape.step? '"' = some (plain, units '"') := by decide
      exact .inr (Prod.mk.inj (Option.some.inj (h.symm.trans hescape))).1
  | unit => simp [step?, hquote] at h
  | digits left n => cases left <;> simp [step?, hquote] at h
  | braces n? => simp [step?, hquote] at h

/-- A string that a quote does not end goes on, but not beyond the line. -/
theorem read?_closing (h : σ.read? (.char '"' :: .char ';' :: .char '\n' :: t) = some (ns, r)) :
    ns = [] ∧ σ.ends = true := by
  rcases read?_cons_cases h with ⟨⟨-, hends⟩, hns, -⟩ | ⟨hends, τ, ns₁, ns₂, hstep, hread, -⟩
  · exact ⟨hns, hends⟩
  · rcases step?_quote hstep with hσ | rfl
    · exact absurd ⟨rfl, hσ⟩ hends
    · simp [read?, step?, bare?] at hread

/-- What stands between two quotes is read as less than it is, unless it may stand there as it
is. A backslash before the second quote does not help, since the line ends before the string. -/
theorem read?_cases (h : σ.read? (cs ++ .char '"' :: .char ';' :: .char '\n' :: t) = some (ns, r)) :
    (σ = plain ∧ (∀ c ∈ cs, IsOrdinary c) ∧ ns = cs.flatMap units) ∨
      ns.length < σ.owed + (cs.flatMap units).length := by
  induction cs generalizing σ ns with
  | nil =>
      obtain ⟨rfl, hends⟩ := read?_closing h
      cases σ <;> simp [owed]
  | cons c cs ih =>
      have hpos := length_units_pos c
      rw [List.flatMap_cons, List.length_append]
      rcases read?_cons_cases h with ⟨-, rfl, -⟩ | ⟨hends, τ, ns₁, ns₂, hstep, hread, rfl⟩
      · right
        simp only [List.length_nil]
        omega
      · rw [List.length_append]
        rcases step?_cases hstep with ⟨rfl, rfl, rfl, hc⟩ | hlength
        · have hquote : c ≠ '"' := fun hc => hends ⟨hc, rfl⟩
          rcases ih hread with ⟨-, hcs, rfl⟩ | hless
          · exact .inl ⟨rfl, List.forall_mem_cons.2 ⟨⟨hquote, hc⟩, hcs⟩, rfl⟩
          · right
            omega
        · right
          rcases ih hread with ⟨rfl, -, rfl⟩ | hless <;> omega

example : plain.read?
    (Text.toList "\\x41\\u\x7b1F600\x7d\\\n\\\"" ++ [.char '"', .char ';', .char '\n']) =
    some (utf16 "A😀\"", [.char ';', .char '\n']) := by
  decide +kernel

/-- A text between quotes is read as itself only if all of it may stand there as it is. -/
theorem read?_eq_units_iff :
    (∃ r, plain.read? (cs ++ .char '"' :: .char ';' :: .char '\n' :: t) =
      some (cs.flatMap units, r)) ↔
      ∀ c ∈ cs, IsOrdinary c := by
  constructor
  · rintro ⟨r, h⟩
    rcases read?_cases h with ⟨-, hcs, -⟩ | hless
    · exact hcs
    · simp only [owed] at hless
      omega
  · intro h
    exact ⟨_, read?_ordinary h _⟩

end Spelling

/-! ## Lexemes -/

inductive Lexeme
  | word (s : Text)
  | mark (c : CodePoint)
  /-- A string that stands for the units. -/
  | string (ns : List Nat)
deriving DecidableEq

/-- The marks of an import. -/
def isMark (c : CodePoint) : Bool := c == '\x7b' || c == '\x7d' || c == ',' || c == ';'

/-- The lexeme at the start of a text without white space before it. -/
def lexemeAt? : List CodePoint → Option (Lexeme × List CodePoint)
  | [] => none
  | c :: r =>
      if c = '"' then (Spelling.plain.read? r).map fun (ns, t) => (.string ns, t)
      else if isIdentifierStart c then
        some (.word (Text.ofList (c :: r.takeWhile isIdentifierPart)),
          r.dropWhile isIdentifierPart)
      else if isMark c then some (.mark c, r)
      else none

def lexeme? (cs : List CodePoint) : Option (Lexeme × List CodePoint) :=
  lexemeAt? (cs.dropWhile isSpace)

variable {l : Lexeme} {ls ks : List Lexeme}

theorem length_lexemeAt? (h : lexemeAt? cs = some (l, r)) : r.length < cs.length := by
  cases cs with
  | nil => simp [lexemeAt?] at h
  | cons c cs =>
      rw [List.length_cons]
      rw [lexemeAt?] at h
      split_ifs at h
      · obtain ⟨⟨ns, t⟩, hread, h⟩ := Option.map_eq_some_iff.1 h
        obtain ⟨-, rfl⟩ := Prod.mk.inj h
        have hless := Spelling.length_read? hread
        omega
      · obtain ⟨-, rfl⟩ := Prod.mk.inj (Option.some.inj h)
        have hrest := (List.dropWhile_suffix isIdentifierPart (l := cs)).length_le
        omega
      · obtain ⟨-, rfl⟩ := Prod.mk.inj (Option.some.inj h)
        omega

theorem length_lexeme? (h : lexeme? cs = some (l, r)) : r.length < cs.length := by
  have hspace := (List.dropWhile_suffix isSpace (l := cs)).length_le
  have hless := length_lexemeAt? h
  omega

/-- The lexemes of the first statement, the semicolon at its end included, and what follows. -/
def statement? (cs : List CodePoint) : Option (List Lexeme × List CodePoint) :=
  match _ : lexeme? cs with
  | none => none
  | some (l, r) =>
      if l = .mark ';' then some ([l], r)
      else (statement? r).map fun (ls, t) => (l :: ls, t)
termination_by cs.length
decreasing_by exact length_lexeme? ‹_›

@[simp] theorem lexeme?_blank (cs : List CodePoint) : lexeme? (.char ' ' :: cs) = lexeme? cs := by
  simp [lexeme?, isSpace]

theorem lexeme?_cons (h : isSpace c = false) (r : List CodePoint) :
    lexeme? (c :: r) = lexemeAt? (c :: r) := by
  rw [lexeme?, List.dropWhile_cons_of_neg (by simp [h])]

theorem lexeme?_quote (r : List CodePoint) :
    lexeme? (.char '"' :: r) = (Spelling.plain.read? r).map fun (ns, t) => (.string ns, t) := by
  rw [lexeme?_cons (by decide), lexemeAt?, if_pos rfl]

theorem lexeme?_mark (h : isMark c = true) (r : List CodePoint) :
    lexeme? (c :: r) = some (.mark c, r) := by
  simp only [isMark, Bool.or_eq_true, beq_iff_eq] at h
  rcases h with ((rfl | rfl) | rfl) | rfl <;> rfl

theorem lexeme?_word (h : isWord cs = true) (hr : Ends isIdentifierPart r) :
    lexeme? (cs ++ r) = some (.word (Text.ofList cs), r) := by
  have hall := all_of_isWord h
  obtain ⟨c, cs, rfl, hc⟩ := exists_cons_of_isWord h
  have hspace : isSpace c = false := by
    apply Bool.eq_false_iff.2
    intro hspace
    simp only [isSpace, Bool.or_eq_true, beq_iff_eq] at hspace
    rcases hspace with ((rfl | rfl) | rfl) | rfl <;> exact absurd hc (by decide)
  have hquote : c ≠ '"' := by
    rintro rfl
    exact absurd hc (by decide)
  have hcs : ∀ d ∈ cs, isIdentifierPart d = true := fun d hd =>
    List.all_eq_true.1 hall d (List.mem_cons_of_mem c hd)
  rw [List.cons_append, lexeme?_cons hspace, lexemeAt?, if_neg hquote, if_pos hc,
    List.takeWhile_append_of_pos hcs, List.dropWhile_append_of_pos hcs, hr.takeWhile_eq.1,
    hr.takeWhile_eq.2, List.append_nil]

/-! ## Statements -/

theorem statement?_of_none (h : lexeme? cs = none) : statement? cs = none := by
  rw [statement?]
  split
  · rfl
  · simp_all

theorem statement?_of_some (h : lexeme? cs = some (l, r)) : statement? cs =
    if l = .mark ';' then some ([l], r)
    else (statement? r).map fun (ls, t) => (l :: ls, t) := by
  rw [statement?]
  split
  · simp_all
  · rename_i l' r' h'
    obtain ⟨rfl, rfl⟩ := Prod.mk.inj (Option.some.inj (h.symm.trans h'))
    rfl

theorem statement?_blank (cs : List CodePoint) : statement? (.char ' ' :: cs) = statement? cs := by
  cases h : lexeme? cs with
  | none => rw [statement?_of_none h, statement?_of_none (by rw [lexeme?_blank, h])]
  | some p => rw [statement?_of_some h, statement?_of_some (by rw [lexeme?_blank, h])]

theorem statement?_semicolon (r : List CodePoint) :
    statement? (.char ';' :: r) = some ([.mark ';'], r) := by
  rw [statement?_of_some (lexeme?_mark rfl r), if_pos rfl]

theorem statement?_quote (r : List CodePoint) : statement? (.char '"' :: r) =
    (Spelling.plain.read? r).bind fun (ns, t) =>
      (statement? t).map fun (ls, u) => (.string ns :: ls, u) := by
  have hquote := lexeme?_quote r
  cases hread : Spelling.plain.read? r with
  | none =>
      rw [hread] at hquote
      exact statement?_of_none hquote
  | some p =>
      rw [hread] at hquote
      rw [statement?_of_some hquote, if_neg (by simp)]
      rfl

/-- The statement at the start of `cs` starts with the lexemes and goes on as the one at the
start of `r`. -/
def Opens (ls : List Lexeme) (cs r : List CodePoint) : Prop :=
  statement? cs = (statement? r).map fun (ks, t) => (ls ++ ks, t)

namespace Opens

theorem refl (cs : List CodePoint) : Opens [] cs cs := by
  simp [Opens]

theorem append (h : Opens ls cs r) (h' : Opens ks r t) : Opens (ls ++ ks) cs t := by
  rw [Opens, h, h', Option.map_map]
  simp [Function.comp_def]

theorem blank (h : Opens ls cs r) : Opens ls (.char ' ' :: cs) r := by
  rw [Opens, statement?_blank]
  exact h

theorem lexeme (h : lexeme? cs = some (l, r)) (hl : l ≠ .mark ';') : Opens [l] cs r := by
  rw [Opens, statement?_of_some h, if_neg hl]
  rfl

end Opens

end DeviceTypings.Text
