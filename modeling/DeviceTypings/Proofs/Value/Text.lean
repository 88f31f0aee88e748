import DeviceTypings.Value.Text

namespace DeviceTypings

/-!
# Values that say something

A value that is not empty has a text that is not empty, if it has one at all.
-/

namespace Number

theorem ofList_ne_empty {cs : List Char} (h : cs ≠ []) : String.ofList cs ≠ "" := by
  simpa [← String.toList_inj] using h

theorem natDigits_ne_nil (n : Nat) : natDigits n ≠ [] := Nat.toDigits_ne_nil

theorem positional_ne_empty (l : Layout) {ds : List Char} (h : ds ≠ []) (e : Int) :
    l.positional ds e ≠ "" := by
  unfold Layout.positional
  split
  · simp
  · dsimp only
    split
    · simp [h]
    · exact ofList_ne_empty (by simp)

theorem scientific_ne_empty (l : Layout) {ds : List Char} (h : ds ≠ []) (e : Int) :
    l.scientific ds e ≠ "" := by
  unfold Layout.scientific
  split
  · exact absurd rfl h
  · simp
  · simp

theorem decimal_ne_empty (l : Layout) (x : Decimal) : l.decimal x ≠ "" := by
  have htrim {ds : List Char} (h : ds ≠ []) : trimZeros ds ≠ [] := by
    cases ds with
    | nil => exact absurd rfl h
    | cons d ds => simp [trimZeros]
  have hdigits := htrim (natDigits_ne_nil x.digits)
  unfold Layout.decimal
  dsimp only
  split
  · exact positional_ne_empty l hdigits _
  · exact scientific_ne_empty l hdigits _

theorem text_ne_empty (x : Binary64) : text x ≠ "" := by
  cases x with
  | nan => simp [text]
  | infinite negative => cases negative <;> simp [text]
  | finite negative m e =>
      have hpositional := positional_ne_empty general (List.cons_ne_nil '0' []) 0
      have hdecimal := decimal_ne_empty general (shortest m e)
      rw [text]
      split <;> split <;> simp_all

end Number

namespace Value

theorem ofString_ne_empty {s : String} (h : s ≠ "") : Text.ofString s ≠ "" := by simpa using h

theorem ofList_ne_empty {cs : List CodePoint} (h : cs ≠ []) : Text.ofList cs ≠ "" := by
  rwa [Ne, ← Text.toList_eq_nil_iff]

theorem append_ne_empty (s : Text) {t : Text} (h : t ≠ "") : s ++ t ≠ "" := by simp [h]

theorem toString_int_ne_empty (i : Int) : toString i ≠ "" := by
  cases i with
  | ofNat n => exact Number.ofList_ne_empty Nat.toDigits_ne_nil
  | negSucc n =>
      change "-" ++ Nat.repr (n + 1) ≠ ""
      simp

theorem quotedTuple_ne_empty (parts : List Text) : quotedTuple parts ≠ "" := by
  unfold quotedTuple
  split <;> simp

/-- Inside collections everything that has a text says something, be it empty or not. -/
theorem quoted_ne_empty (outer : List Nat) (v : Value) (h : v.flawIn? outer = none) :
    v.quoted outer ≠ "" := by
  cases v with
  | bool b => cases b <;> simp [quoted]
  | int i => exact ofString_ne_empty (toString_int_ne_empty i)
  | float x => exact ofString_ne_empty (Number.text_ne_empty x)
  | text s => exact ofList_ne_empty (by simp)
  | bytes octets => exact ofList_ne_empty (by simp)
  | tuple items => exact quotedTuple_ne_empty _
  | set members =>
      rw [quoted]
      split <;> simp
  | ring label v =>
      rw [flawIn?] at h
      rw [quoted]
      split
      · unfold ellipsis
        split <;> simp
      · rename_i hlabel
        rw [if_neg hlabel] at h
        exact quoted_ne_empty (label :: outer) v h
  | endless => simp [flawIn?] at h
  | null => simp [quoted]
  | _ => exact append_ne_empty _ (by decide)
termination_by structural v

theorem toText_ne_empty {v : Value} (hempty : v.isEmpty = false) (hflaw : v.flaw? = none) :
    v.toText ≠ "" := by
  cases v with
  | text s =>
      rintro rfl
      simp [isEmpty] at hempty
  | date d => simp [toText, dateText]
  | instant t => simp [toText, instantText]
  | _ => exact quoted_ne_empty [] _ hflaw

end Value

end DeviceTypings
