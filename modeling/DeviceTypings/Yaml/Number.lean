import DeviceTypings.Json.Token
import DeviceTypings.Text.Blank
import DeviceTypings.Text.Digit
import DeviceTypings.Text.Lower
import DeviceTypings.Value.Misread
import DeviceTypings.Yaml.Tag

namespace DeviceTypings.Yaml

/-!
# Numbers

Integers in several bases and floating point numbers. A number can be given in
parts between colons, which are its digits in base sixty. Digits of any script
will do, and blanks around a numeral do not matter.
-/

/-- A character of a numeral in ASCII. What is neither ASCII nor a blank nor a
digit can be no part of a numeral. -/
def asciiOf (c : CodePoint) : CodePoint :=
  if c.toNat < 0x80 then c
  else if Text.isBlank c then ' '
  else (Text.asciiDigit? c).getD '?'

def isNumeralSpace (c : CodePoint) : Bool := c == ' ' || ('\t' ≤ c && c ≤ '\r')

/-- A numeral in ASCII without the spaces around it. -/
def numeralOf (s : List CodePoint) : List CodePoint :=
  let t := (s.map asciiOf).dropWhile isNumeralSpace
  (t.reverse.dropWhile isNumeralSpace).reverse

/-- The number that digits spell in a base up to sixteen. -/
def digitsIn? (base : Nat) (cs : List CodePoint) : Option Nat :=
  if cs.isEmpty then none
  else cs.foldlM (fun n c => do
    let d ← Json.hexValue? c
    if d < base then some (base * n + d) else none) 0

def isNegative (s : List CodePoint) : Bool := s.head? == some (.char '-')

/-- Drops the mark of a base after a zero, if there is one. -/
def dropMark (base : Nat) : List CodePoint → List CodePoint
  | .char '0' :: c :: r =>
      if (base == 2 && (c == 'b' || c == 'B')) || (base == 8 && (c == 'o' || c == 'O')) ||
        (base == 16 && (c == 'x' || c == 'X')) then r
      else '0' :: c :: r
  | r => r

/-- The number that is spelled in a base, perhaps with a sign and the mark of
the base. Decimal numerals have a greatest length. -/
def integerIn (base : Nat) (s : List CodePoint) : Except Misread Int :=
  let numeral := numeralOf s
  let t := dropMark base (dropSign numeral)
  let width := (t.takeWhile CodePoint.isDigit).length
  if base = 10 ∧ Number.maxDigits < width then .error (.defect (.tooManyDigits width))
  else match digitsIn? base t with
    | some n => .ok (if isNegative numeral then -n else n)
    | none => .error (.defect (.integer base (Text.ofList s)))

/-- The number whose base sixty digits are given, the highest first. -/
def sexagesimal (digits : List Int) : Int := digits.foldl (fun n d => 60 * n + d) 0

/-- An integer without its sign. A zero in front means base eight. -/
def unsignedInt : List CodePoint → Except Misread Int
  | [] => .error (.defect .emptyNumber)
  | [.char '0'] => .ok 0
  | .char '0' :: .char 'b' :: r => integerIn 2 r
  | .char '0' :: .char 'x' :: r => integerIn 16 r
  | .char '0' :: r => integerIn 8 ('0' :: r)
  | r =>
      if r.contains ':' then ((colonParts r).mapM (integerIn 10)).map sexagesimal
      else integerIn 10 r

/-- Underscores are left out. -/
def intOf (text : Text) : Except Misread Int :=
  let s := text.toList.filter (· != CodePoint.char '_')
  (unsignedInt (dropSign s)).map fun n => if isNegative s then -n else n

/-- A decimal number with an optional sign, point and exponent. -/
def decimal? (s : List CodePoint) : Option Binary64 := do
  let (whole, r) := Json.spanDigits (dropSign s)
  let (fraction, r) := match r with
    | .char '.' :: r => Json.spanDigits r
    | r => ([], r)
  if whole.isEmpty && fraction.isEmpty then none
  let (e, r) := (Json.exponent? r).getD (0, r)
  if !r.isEmpty then none
  return Binary64.ofDecimal (isNegative s) (Json.digitsValue (whole ++ fraction))
    (e - fraction.length)

def wordNumber? (s : List CodePoint) : Option Binary64 :=
  if isOneOf ["inf", "infinity"] (dropSign s) then some (.infinite (isNegative s))
  else if isOneOf ["nan"] (dropSign s) then some .nan
  else none

def decimalOf (s : List CodePoint) : Except Misread Binary64 :=
  let numeral := numeralOf s
  match (decimal? numeral).or (wordNumber? numeral) with
  | some x => .ok x
  | none => .error (.defect (.decimal (Text.ofList s)))

/-- A power of sixty as a floating point number. -/
def weightOf (weight : Nat) : Except Misread Binary64 :=
  match Binary64.ofDecimal false weight 0 with
  | .infinite _ => .error (.defect .tooLarge)
  | x => .ok x

/-- Adds parts, the lowest first, to a sum. Each is multiplied by its power of
sixty, and every step is rounded. -/
def sexagesimalSum : List Binary64 → Nat → Binary64 → Except Misread Binary64
  | [], _, sum => .ok sum
  | x :: xs, weight, sum => do
      let w ← weightOf weight
      sexagesimalSum xs (60 * weight) (sum.add (x.mul w))

/-- The text of a number in small letters and without underscores. -/
def floatText (text : Text) : List CodePoint :=
  Text.lower (text.toList.filter (· != CodePoint.char '_'))

/-- Whether a text is the word for what is not a number. -/
def isNanWord (text : Text) : Bool := dropSign (floatText text) == Text.toList ".nan"

def floatOf (text : Text) : Except Misread Binary64 :=
  let s := floatText text
  let t := dropSign s
  let signed (x : Binary64) : Binary64 := if isNegative s then x.neg else x
  if s.isEmpty then .error (.defect .emptyNumber)
  else if isNanWord text then .ok .nan
  else if t == Text.toList ".inf" then .ok (signed (.infinite false))
  else if t.contains ':' then do
    let parts ← (colonParts t).mapM decimalOf
    let sum ← sexagesimalSum parts.reverse 1 (Binary64.zero false)
    return signed sum
  else (decimalOf t).map signed

end DeviceTypings.Yaml
