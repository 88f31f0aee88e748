import DeviceTypings.Number.Numeral
import DeviceTypings.Number.Shortest

namespace DeviceTypings.Number

/-!
# Decimal notation

How the digits of a number are laid out. The choices of a notation are one
record, and `general` is the notation of this library's texts.
-/

structure Layout where
  /-- Exponents of the first digit that are written positionally. -/
  leastPositional : Int
  mostPositional : Int
  /-- What follows a whole number in positional notation. -/
  wholeSuffix : String
  exponentMark : String
  /-- The least count of digits of an exponent. -/
  exponentWidth : Nat

/-- Positional from `1e-4` up to below `1e16`; a whole number keeps `.0`; an
exponent has a sign and two digits. -/
def general : Layout := ⟨-4, 15, ".0", "e", 2⟩

/-- Drops zeros at the end, but not the first digit. -/
def trimZeros : List Char → List Char
  | [] => []
  | c :: r => c :: (r.reverse.dropWhile (· == '0')).reverse

namespace Layout

def exponent (l : Layout) (e : Int) : String :=
  l.exponentMark ++ (if e < 0 then "-" else "+") ++
    String.ofList (padLeft l.exponentWidth (natDigits e.natAbs))

/-- Digits with the point after the first `e + 1` of them. -/
def positional (l : Layout) (digits : List Char) (e : Int) : String :=
  if e < 0 then
    "0." ++ String.ofList (List.replicate (-e - 1).toNat '0' ++ digits)
  else
    let n := e.toNat + 1
    if digits.length ≤ n then
      String.ofList (digits ++ List.replicate (n - digits.length) '0') ++ l.wholeSuffix
    else String.ofList (digits.take n ++ '.' :: digits.drop n)

def scientific (l : Layout) (digits : List Char) (e : Int) : String :=
  match digits with
  | [] => l.exponent e
  | [d] => String.ofList [d] ++ l.exponent e
  | d :: r => String.ofList (d :: '.' :: r) ++ l.exponent e

def decimal (l : Layout) (x : Decimal) : String :=
  let digits := natDigits x.digits
  let e := x.exponent + digits.length - 1
  let digits := trimZeros digits
  if l.leastPositional ≤ e ∧ e ≤ l.mostPositional then l.positional digits e
  else l.scientific digits e

end Layout

/-- The text of a number: its shortest decimal in the general notation. -/
def text : Binary64 → String
  | .nan => "nan"
  | .infinite negative => if negative then "-inf" else "inf"
  | .finite negative m e =>
      (if negative then "-" else "") ++
        if m = 0 then general.positional ['0'] 0 else general.decimal (shortest m e)

end DeviceTypings.Number
