import DeviceTypings.Proofs.Render.Blocks
import DeviceTypings.Proofs.Render.Lexical

namespace DeviceTypings

/-!
# Constants read back

A text is cut into strings in single quotes and the characters between them. What is written
for a constant is one string, which stands for the constant whatever that holds. So the text of
a union is read as its constants in their order, with a bar between any two of them.
-/

namespace Text

/-! ## Tokens -/

/-- The character that a letter after a backslash stands for in single quotes. -/
def constantEscape? : CodePoint → Option CodePoint
  | .char '\'' => some '\''
  | .char '"' => some '"'
  | .char '\\' => some '\\'
  | .char 'n' => some '\n'
  | .char 'r' => some '\r'
  | .char 't' => some '\t'
  | .char 'b' => some '\x08'
  | .char 'f' => some '\x0c'
  | _ => none

/-- A string in single quotes: what stands between the quotes, and what it stands for. -/
structure Constant where
  source : List CodePoint
  value : Text
deriving DecidableEq

inductive Token
  | constant (k : Constant)
  /-- A character outside of strings. -/
  | mark (c : CodePoint)
deriving DecidableEq

mutual

/-- The tokens of a text that starts outside of strings. -/
def tokens : List CodePoint → Option (List Token)
  | [] => some []
  | .char '\'' :: r => tokensWithin [] [] r
  | c :: r => (tokens r).map (.mark c :: ·)
termination_by structural cs => cs

/-- The tokens of a text that starts in a string. Of the string, `source` has been read, which
stands for `value`. An escape with a number stands for the code point of that number, surrogates
included. No control character and no other escape may stand in a string. -/
def tokensWithin (source value : List CodePoint) : List CodePoint → Option (List Token)
  | [] => none
  | .char '\'' :: r => (tokens r).map (.constant ⟨source, Text.ofList value⟩ :: ·)
  | .char '\\' :: .char 'u' :: a :: b :: c :: d :: r => do
      let n ← Json.hexNumber? [a, b, c, d]
      tokensWithin (source ++ [.char '\\', .char 'u', a, b, c, d]) (value ++ [.ofNat n]) r
  | .char '\\' :: e :: r => do
      let c ← constantEscape? e
      tokensWithin (source ++ [.char '\\', e]) (value ++ [c]) r
  | c :: r =>
      if c.toNat < 0x20 then none else tokensWithin (source ++ [c]) (value ++ [c]) r
termination_by structural cs => cs

end

variable {source value r : List CodePoint} {c e : CodePoint}

theorem tokens_mark (h : c ≠ '\'') (r : List CodePoint) :
    tokens (c :: r) = (tokens r).map (.mark c :: ·) := by
  rw [tokens]
  exact h

theorem tokensWithin_short (h : constantEscape? e = some c) (r : List CodePoint) :
    tokensWithin source value (.char '\\' :: e :: r) =
      tokensWithin (source ++ [.char '\\', e]) (value ++ [c]) r := by
  have hu : e ≠ 'u' := by
    rintro rfl
    simp [constantEscape?] at h
  rw [tokensWithin, h]
  · rfl
  · simp [hu]

theorem tokensWithin_unit {n : Nat} (h : n < 0x10000) (r : List CodePoint) :
    tokensWithin source value (unitEscape n ++ r) =
      tokensWithin (source ++ unitEscape n) (value ++ [.ofNat n]) r := by
  have hnumber := hexNumber?_hex h
  rw [hex_four] at hnumber
  simp only [unitEscape, hex_four, List.cons_append, List.nil_append, tokensWithin, hnumber]
  rfl

theorem tokensWithin_plain (hquote : c ≠ '\'') (hslash : c ≠ '\\') (h : 0x20 ≤ c.toNat)
    (r : List CodePoint) :
    tokensWithin source value (c :: r) = tokensWithin (source ++ [c]) (value ++ [c]) r := by
  rw [tokensWithin, if_neg (by omega)]
  · exact hquote
  · simp [hslash]
  · simp [hslash]

/-! ## Constants -/

theorem constantEscape?_of_shortEscape (h : shortEscape c = some e) :
    constantEscape? e = some c := by
  unfold shortEscape at h
  split at h <;> simp only [Option.some.injEq, reduceCtorEq] at h <;> subst h <;> rfl

/-- The escape of a character stands for it. -/
theorem tokensWithin_escapeLiteral (c : CodePoint) (r : List CodePoint) :
    tokensWithin source value (escapeLiteral c ++ r) =
      tokensWithin (source ++ escapeLiteral c) (value ++ [c]) r := by
  unfold escapeLiteral
  split
  · rename_i hquote
    subst hquote
    exact tokensWithin_short rfl r
  · rename_i hquote
    unfold escapeShort
    cases hshort : shortEscape c with
    | some e => exact tokensWithin_short (constantEscape?_of_shortEscape hshort) r
    | none =>
        dsimp only
        split
        · rename_i hcontrol
          have hunit : tokensWithin source value (unitEscape c.toNat ++ r) =
              tokensWithin (source ++ unitEscape c.toNat) (value ++ [.ofNat c.toNat]) r :=
            tokensWithin_unit (by omega) r
          rwa [CodePoint.ofNat_toNat] at hunit
        · rename_i hcontrol
          have hslash := (Render.ne_of_shortEscape hshort).2
          exact tokensWithin_plain hquote hslash (by omega) r

theorem tokensWithin_escaped (cs : List CodePoint) (r : List CodePoint) :
    tokensWithin source value (cs.flatMap escapeLiteral ++ r) =
      tokensWithin (source ++ cs.flatMap escapeLiteral) (value ++ cs) r := by
  induction cs generalizing source value with
  | nil => simp
  | cons c cs ih =>
      rw [List.flatMap_cons, List.append_assoc, tokensWithin_escapeLiteral, ih]
      simp only [List.append_assoc, List.singleton_append]

/-- The token of a constant. -/
def constantOf (v : Text) : Constant := ⟨v.toList.flatMap escapeLiteral, v⟩

theorem tokens_quoteLiteral (v : Text) (r : List CodePoint) :
    tokens ((quoteLiteral v).toList ++ r) = (tokens r).map (.constant (constantOf v) :: ·) := by
  rw [quoteLiteral, Text.toList_ofList, List.cons_append, tokens, List.append_assoc,
    tokensWithin_escaped, List.nil_append, List.nil_append, List.singleton_append, tokensWithin,
    Text.ofList_toList, constantOf]

/-- Nothing in the text of a string ends the string or is a control character. -/
structure Constant.IsGuarded (k : Constant) : Prop where
  printable : ∀ c ∈ k.source, 0x20 ≤ c.toNat
  single : Render.Within '\'' k.source
  double : Render.Within '"' k.source

theorem within_double_escapeLiteral (c : CodePoint) : Render.Within '"' (escapeLiteral c) := by
  unfold escapeLiteral escapeShort
  split
  · exact .escape _ .nil
  · split
    · exact .escape _ .nil
    · rename_i hshort
      obtain ⟨hquote, hslash⟩ := Render.ne_of_shortEscape hshort
      split
      · exact Render.within_unitEscape (.inl rfl) _
      · exact .plain hquote hslash .nil

theorem isGuarded_constantOf (v : Text) : (constantOf v).IsGuarded where
  printable c hc := by
    obtain ⟨d, -, hc⟩ := List.mem_flatMap.1 hc
    exact isPrintable_escapeLiteral hc
  single := .flatMap Render.within_escapeLiteral _
  double := .flatMap within_double_escapeLiteral _

end Text

/-! ## Unions -/

namespace TypeExpr

open Text (Constant Token)

/-- What stands between two constants of a union. -/
def bar : List Token := [.mark ' ', .mark '|', .mark ' ']

theorem tokens_others (vs : List Text) :
    Text.tokens (vs.flatMap fun w =>
        .char ' ' :: .char '|' :: .char ' ' :: (Text.quoteLiteral w).toList) =
      some (vs.flatMap fun w => bar ++ [.constant (Text.constantOf w)]) := by
  induction vs with
  | nil => rfl
  | cons w vs ih =>
      rw [List.flatMap_cons, List.cons_append, List.cons_append, List.cons_append,
        Text.tokens_mark (by decide), Text.tokens_mark (by decide), Text.tokens_mark (by decide),
        Text.tokens_quoteLiteral, ih]
      rfl

theorem intercalate_bar (v : Text) (vs : List Text) :
    bar.intercalate ((v :: vs).map fun w => [.constant (Text.constantOf w)]) =
      .constant (Text.constantOf v) ::
        vs.flatMap fun w => bar ++ [.constant (Text.constantOf w)] := by
  induction vs generalizing v with
  | nil => rfl
  | cons w vs ih =>
      simp only [List.map_cons, List.intercalate_cons_cons] at ih ⊢
      rw [ih, List.flatMap_cons]
      simp only [List.append_assoc, List.cons_append, List.nil_append]

/-- The text of a union is read as one string for each constant, in their order, and a bar with
blanks around it between any two strings. No string has a control character or a bare quote. -/
theorem tokens_render_literal (v : Text) (vs : List Text) :
    ∃ ks : List Constant,
      Text.tokens (literal v vs).render.toList =
        some (bar.intercalate (ks.map fun k => [.constant k])) ∧
      ks.map Constant.value = v :: vs ∧ ∀ k ∈ ks, k.IsGuarded := by
  refine ⟨(v :: vs).map Text.constantOf, ?_, ?_, ?_⟩
  · rw [List.map_map, toList_render_literal, Text.tokens_quoteLiteral, tokens_others]
    exact congrArg some (intercalate_bar v vs).symm
  · rw [List.map_map]
    exact List.map_id _
  · intro k hk
    obtain ⟨w, -, rfl⟩ := List.mem_map.1 hk
    exact Text.isGuarded_constantOf w

example : Text.tokens (literal "It's" ["' | '", "\\"]).render.toList =
    some (bar.intercalate
      [[.constant ⟨Text.toList "It\\'s", "It's"⟩],
        [.constant ⟨Text.toList "\\' | \\'", "' | '"⟩],
        [.constant ⟨Text.toList "\\\\", "\\"⟩]]) := by
  decide +kernel

end TypeExpr

end DeviceTypings
