namespace DeviceTypings

/-!
# Binary floating point numbers

Numbers with 53 significant bits, kept as exact values. Every operation is
exact rational arithmetic followed by one rounding to the nearest number, a
tie going to the even significand.
-/

inductive Binary64
  | nan
  | infinite (negative : Bool)
  /-- The number `significand * 2 ^ exponent`. A significand below `2 ^ 52` only comes
  with the least exponent, so each number has one form. -/
  | finite (negative : Bool) (significand : Nat) (exponent : Int)
deriving DecidableEq

namespace Binary64

def minExponent : Int := -1074

def maxExponent : Int := 971

def zero (negative : Bool) : Binary64 := finite negative 0 minExponent

/-- The nearest integer to `num / den`, the even one of two that are equally
near. -/
def roundDiv (num den : Nat) : Nat :=
  let q := num / den
  let r := num % den
  if 2 * r < den then q
  else if den < 2 * r then q + 1
  else if q % 2 = 0 then q else q + 1

/-- The fraction `num / den` divided by a power of two. -/
def unscale (num den : Nat) (e : Int) : Nat × Nat :=
  if e < 0 then (num * Nat.pow 2 (-e).toNat, den) else (num, den * Nat.pow 2 e.toNat)

/-- The exponent of the number nearest to `num / den`, before rounding. -/
def exponentFor (num den : Nat) : Int :=
  let e := (num.log2 : Int) - den.log2 - 52
  let (n, d) := unscale num den e
  max minExponent (if n / d < Nat.pow 2 52 then e - 1 else e)

/-- The number nearest to `num / den`. -/
def ofRatio (negative : Bool) (num den : Nat) : Binary64 :=
  if num = 0 then zero negative
  else
    let e := exponentFor num den
    let (n, d) := unscale num den e
    let m := roundDiv n d
    let (m, e) := if m = Nat.pow 2 53 then (Nat.pow 2 52, e + 1) else (m, e)
    if maxExponent < e then infinite negative else finite negative m e

/-- The number nearest to `digits * 10 ^ exponent`. Exponents out of reach of
every number are settled before the power is taken. -/
def ofDecimal (negative : Bool) (digits : Nat) (exponent : Int) : Binary64 :=
  if digits = 0 then zero negative
  else if 400 < exponent then infinite negative
  else if exponent + digits.log2 + 1 < -400 then zero negative
  else if exponent < 0 then ofRatio negative digits (Nat.pow 10 (-exponent).toNat)
  else ofRatio negative (digits * Nat.pow 10 exponent.toNat) 1

/-- The number nearest to `n * 2 ^ exponent`. -/
def ofScaled (n exponent : Int) : Binary64 :=
  if exponent < 0 then ofRatio (n < 0) n.natAbs (Nat.pow 2 (-exponent).toNat)
  else ofRatio (n < 0) (n.natAbs * Nat.pow 2 exponent.toNat) 1

def signed (negative : Bool) (m : Nat) : Int := if negative then -(m : Int) else m

def neg : Binary64 → Binary64
  | nan => nan
  | infinite s => infinite (!s)
  | finite s m e => finite (!s) m e

def add : Binary64 → Binary64 → Binary64
  | nan, _ => nan
  | _, nan => nan
  | infinite s, infinite t => if s = t then infinite s else nan
  | infinite s, _ => infinite s
  | _, infinite t => infinite t
  | finite s m e, finite t n f =>
      let g := min e f
      let total := signed s m * Nat.pow 2 (e - g).toNat + signed t n * Nat.pow 2 (f - g).toNat
      if total = 0 then zero (s && t) else ofScaled total g

def mul : Binary64 → Binary64 → Binary64
  | nan, _ => nan
  | _, nan => nan
  | infinite s, infinite t => infinite (s != t)
  | infinite s, finite t n _ => if n = 0 then nan else infinite (s != t)
  | finite s m _, infinite t => if m = 0 then nan else infinite (s != t)
  | finite s m e, finite t n f =>
      if m * n = 0 then zero (s != t)
      else ofScaled (signed (s != t) (m * n)) (e + f)

def isZero : Binary64 → Bool
  | finite _ m _ => m = 0
  | _ => false

/-- The integer that a number is equal to, if there is one. -/
def toInt? : Binary64 → Option Int
  | finite s m e =>
      if e < 0 then
        if m % Nat.pow 2 (-e).toNat = 0 then some (signed s (m / Nat.pow 2 (-e).toNat)) else none
      else some (signed s (m * Nat.pow 2 e.toNat))
  | _ => none

/-- Equality of values: the two zeros are equal and not a number is not equal
to itself. -/
def sameValue (x y : Binary64) : Bool :=
  x != nan && (x == y || (x.isZero && y.isZero))

end Binary64

end DeviceTypings
