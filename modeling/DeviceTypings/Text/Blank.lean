import DeviceTypings.Text.CharClass

namespace DeviceTypings.Text

/-!
# White space and lines

White space is the Unicode property of that name together with the four
separators U+001C to U+001F. A text is cut into lines at every break, where a
carriage return and the line feed after it are one break, and a break at the
end opens no further line.
-/

def blanks : CharClass :=
  [⟨0x9, 0xD, 1⟩, ⟨0x1C, 0x20, 1⟩, ⟨0x85, 0x85, 1⟩, ⟨0xA0, 0xA0, 1⟩, ⟨0x1680, 0x1680, 1⟩,
   ⟨0x2000, 0x200A, 1⟩, ⟨0x2028, 0x2029, 1⟩, ⟨0x202F, 0x202F, 1⟩, ⟨0x205F, 0x205F, 1⟩,
   ⟨0x3000, 0x3000, 1⟩]

def isBlank (c : CodePoint) : Bool := blanks.contains c

def breaks : CharClass :=
  [⟨0xA, 0xD, 1⟩, ⟨0x1C, 0x1E, 1⟩, ⟨0x85, 0x85, 1⟩, ⟨0x2028, 0x2029, 1⟩]

def isBreak (c : CodePoint) : Bool := breaks.contains c

theorem isBlank_of_isBreak {c : CodePoint} (h : isBreak c = true) : isBlank c = true := by
  simp only [isBreak, breaks, isBlank, blanks, CharClass.contains_cons, CharClass.contains_nil,
    Stride.contains, Bool.or_eq_true, Bool.and_eq_true, decide_eq_true_eq, Nat.mod_one,
    beq_self_eq_true, and_true, or_false, Bool.false_eq_true] at h ⊢
  omega

def trimStart (s : List CodePoint) : List CodePoint := s.dropWhile isBlank

def trimEnd (s : List CodePoint) : List CodePoint := (s.reverse.dropWhile isBlank).reverse

def trim (s : List CodePoint) : List CodePoint := trimEnd (trimStart s)

/-- The lines of a text, without their breaks. -/
def lines : List CodePoint → List (List CodePoint)
  | [] => []
  | .char '\r' :: .char '\n' :: r => [] :: lines r
  | c :: r =>
      if isBreak c then [] :: lines r
      else match lines r with
        | [] => [[c]]
        | l :: ls => (c :: l) :: ls

@[simp] theorem lines_nil : lines [] = [] := rfl

theorem lines_break {c : CodePoint} (h : isBreak c = true) (hc : c ≠ '\r') (r : List CodePoint) :
    lines (c :: r) = [] :: lines r := by
  cases r with
  | nil => simp [lines, h]
  | cons d r => rw [lines] <;> simp_all

end DeviceTypings.Text
