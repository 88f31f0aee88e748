namespace DeviceTypings

/-!
# Texts

A text is a sequence of code points. Those are the characters and the surrogates, of which two
can spell one character. A surrogate that stands in a text is no character and cannot be encoded,
but an escape in a file can spell one, and a word of the command line has one for every octet
that belongs to no character.
-/

inductive CodePoint
  | char (c : Char)
  /-- The surrogate with the number `0xD800 + n`. -/
  | surrogate (n : Fin 0x800)
deriving DecidableEq

namespace CodePoint

instance : Coe Char CodePoint := ⟨char⟩

instance : Inhabited CodePoint := ⟨char default⟩

def toNat : CodePoint → Nat
  | char c => c.toNat
  | surrogate n => 0xD800 + n

/-- The code point of a number below `0x110000`. -/
def ofNat (n : Nat) : CodePoint :=
  if h : 0xD800 ≤ n ∧ n < 0xE000 then surrogate ⟨n - 0xD800, by omega⟩ else char (Char.ofNat n)

/-- Code points are in the order of their numbers. -/
instance : LE CodePoint := ⟨fun a b => a.toNat ≤ b.toNat⟩

instance (a b : CodePoint) : Decidable (a ≤ b) := inferInstanceAs (Decidable (a.toNat ≤ b.toNat))

def char? : CodePoint → Option Char
  | char c => some c
  | surrogate _ => none

def isSurrogate : CodePoint → Bool
  | char _ => false
  | surrogate _ => true

/-! ## Classes in ASCII -/

def isDigit : CodePoint → Bool
  | char c => c.isDigit
  | surrogate _ => false

def isUpper : CodePoint → Bool
  | char c => c.isUpper
  | surrogate _ => false

def isLower : CodePoint → Bool
  | char c => c.isLower
  | surrogate _ => false

def isAlpha : CodePoint → Bool
  | char c => c.isAlpha
  | surrogate _ => false

def isAlphanum (c : CodePoint) : Bool := c.isAlpha || c.isDigit

@[simp] theorem toNat_char (c : Char) : (char c).toNat = c.toNat := rfl

@[simp] theorem toNat_surrogate (n : Fin 0x800) : (surrogate n).toNat = 0xD800 + n := rfl

@[simp] theorem isDigit_char (c : Char) : (char c).isDigit = c.isDigit := rfl

@[simp] theorem isUpper_char (c : Char) : (char c).isUpper = c.isUpper := rfl

@[simp] theorem isLower_char (c : Char) : (char c).isLower = c.isLower := rfl

@[simp] theorem isAlpha_char (c : Char) : (char c).isAlpha = c.isAlpha := rfl

/-- The numbers of characters leave out those of surrogates. -/
theorem toNat_valid (c : Char) : c.toNat < 0xD800 ∨ 0xDFFF < c.toNat ∧ c.toNat < 0x110000 :=
  c.valid

theorem toNat_lt (c : CodePoint) : c.toNat < 0x110000 := by
  cases c with
  | char c =>
      have hc := toNat_valid c
      simp only [toNat_char]
      omega
  | surrogate n => simp only [toNat_surrogate]; omega

@[simp] theorem ofNat_toNat (c : CodePoint) : ofNat c.toNat = c := by
  cases c with
  | char c =>
      have hc := toNat_valid c
      rw [ofNat, toNat_char, dif_neg (by omega), Char.ofNat_toNat]
  | surrogate n =>
      rw [ofNat, dif_pos (by simp only [toNat_surrogate]; omega)]
      simp

theorem toNat_ofNat {n : Nat} (h : n < 0x110000) : (ofNat n).toNat = n := by
  rw [ofNat]
  split
  · rename_i hsurrogate
    exact Nat.add_sub_cancel' hsurrogate.1
  · have hvalid : n.isValidChar := by
      rw [Nat.isValidChar]
      omega
    rw [toNat_char, Char.ofNat, dif_pos hvalid]
    rfl

theorem toNat_inj {a b : CodePoint} : a.toNat = b.toNat ↔ a = b :=
  ⟨fun h => by rw [← ofNat_toNat a, h, ofNat_toNat], congrArg toNat⟩

end CodePoint

structure Text where ofList ::
  toList : List CodePoint
deriving DecidableEq

namespace Text

/-- Literals are texts of characters. -/
def ofString (s : String) : Text := ⟨s.toList.map .char⟩

instance : Coe String Text := ⟨ofString⟩

instance : Inhabited Text := ⟨""⟩

def append (s t : Text) : Text := ⟨s.toList ++ t.toList⟩

instance : Append Text := ⟨append⟩

def isEmpty (t : Text) : Bool := t.toList.isEmpty

/-- Joins texts one after the other. -/
def join (ts : List Text) : Text := ⟨ts.flatMap toList⟩

/-- Joins texts with a separator between them. -/
def intercalate (separator : Text) (ts : List Text) : Text :=
  ⟨separator.toList.intercalate (ts.map toList)⟩

variable {s t u : Text}

@[simp] theorem toList_ofList (cs : List CodePoint) : (ofList cs).toList = cs := rfl

@[simp] theorem ofList_toList (t : Text) : ofList t.toList = t := rfl

@[simp] theorem toList_ofString (s : String) : (ofString s).toList = s.toList.map .char := rfl

@[simp] theorem toList_append (s t : Text) : (s ++ t).toList = s.toList ++ t.toList := rfl

@[simp] theorem toList_join (ts : List Text) : (join ts).toList = ts.flatMap toList := rfl

@[simp] theorem toList_intercalate (separator : Text) (ts : List Text) :
    (intercalate separator ts).toList = separator.toList.intercalate (ts.map toList) := rfl

theorem toList_inj : s.toList = t.toList ↔ s = t :=
  ⟨fun h => by rw [← ofList_toList s, h, ofList_toList], congrArg toList⟩

@[simp] theorem ofString_inj {a b : String} : ofString a = ofString b ↔ a = b := by
  rw [← toList_inj, toList_ofString, toList_ofString,
    List.map_inj_right fun _ _ => CodePoint.char.inj, String.toList_inj]

theorem toList_eq_nil_iff : t.toList = [] ↔ t = "" := by
  rw [← toList_inj]
  rfl

@[simp] theorem ofList_nil : ofList [] = "" := rfl

@[simp] theorem empty_append (t : Text) : "" ++ t = t := rfl

@[simp] theorem append_empty (t : Text) : t ++ "" = t := by
  rw [← toList_inj, toList_append]
  exact List.append_nil _

@[simp] theorem intercalate_singleton (separator t : Text) : intercalate separator [t] = t := by
  rw [← toList_inj]
  simp

@[simp] theorem intercalate_cons_cons (separator t u : Text) (ts : List Text) :
    intercalate separator (t :: u :: ts) = t ++ separator ++ intercalate separator (u :: ts) := by
  rw [← toList_inj]
  simp [List.intercalate_cons_cons]

theorem append_assoc (s t u : Text) : s ++ t ++ u = s ++ (t ++ u) := by
  rw [← toList_inj]
  simp

theorem append_left_inj (u : Text) : s ++ u = t ++ u ↔ s = t := by
  rw [← toList_inj, ← toList_inj]
  simp

@[simp] theorem append_eq_empty_iff : s ++ t = "" ↔ s = "" ∧ t = "" := by
  rw [← toList_eq_nil_iff, ← toList_eq_nil_iff, ← toList_eq_nil_iff]
  simp

@[simp] theorem empty_eq_append_iff : "" = s ++ t ↔ s = "" ∧ t = "" :=
  eq_comm.trans append_eq_empty_iff

/-! ## Texts that can be encoded -/

/-- The characters of a text that has nothing else. -/
def chars? (t : Text) : Option (List Char) := t.toList.mapM CodePoint.char?

/-- The text as it is encoded. One with a surrogate cannot be. -/
def encoded? (t : Text) : Option String := t.chars?.map String.ofList

theorem mapM_char? (cs : List Char) : (cs.map CodePoint.char).mapM CodePoint.char? = some cs := by
  induction cs with
  | nil => rfl
  | cons c cs ih => simp [CodePoint.char?, ih]

@[simp] theorem encoded?_ofString (s : String) : (ofString s).encoded? = some s := by
  rw [encoded?, chars?, toList_ofString, mapM_char?, Option.map_some, String.ofList_toList]

end Text

end DeviceTypings
