namespace DeviceTypings.Number

/-!
# Decimal numerals

The digits of natural numbers. Integers of any size are computed with, but a
numeral has a greatest length: longer ones are neither read nor written.
-/

def natDigits (n : Nat) : List Char := Nat.toDigits 10 n

def padLeft (width : Nat) (s : List Char) : List Char :=
  List.replicate (width - s.length) '0' ++ s

/-- The most digits of a decimal numeral. -/
def maxDigits : Nat := 4300

/-- Whether the numeral of an integer would be too long. -/
def isLong (i : Int) : Bool := maxDigits < (natDigits i.natAbs).length

end DeviceTypings.Number
