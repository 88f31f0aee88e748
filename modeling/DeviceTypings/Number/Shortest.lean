import DeviceTypings.Number.Binary64

namespace DeviceTypings.Number

/-!
# Shortest decimals

The fewest decimal digits that lie nearer to a given binary number than to any
other, and of several such decimals the one nearest to it.
-/

/-- A positive decimal, `digits * 10 ^ exponent`. -/
structure Decimal where
  digits : Nat
  exponent : Int
deriving DecidableEq

/-- A positive fraction `num / den`. -/
structure Fraction where
  num : Nat
  den : Nat

namespace Fraction

/-- The fraction `n * 2 ^ e`. -/
def scaled (n : Nat) (e : Int) : Fraction :=
  if e < 0 then ⟨n, Nat.pow 2 (-e).toNat⟩ else ⟨n * Nat.pow 2 e.toNat, 1⟩

/-- The fraction `n * 10 ^ e`. -/
def decimal (n : Nat) (e : Int) : Fraction :=
  if e < 0 then ⟨n, Nat.pow 10 (-e).toNat⟩ else ⟨n * Nat.pow 10 e.toNat, 1⟩

def lt (x y : Fraction) : Bool := x.num * y.den < y.num * x.den

def le (x y : Fraction) : Bool := x.num * y.den ≤ y.num * x.den

/-- The whole part of `x / 10 ^ e`. -/
def floorAt (x : Fraction) (e : Int) : Nat :=
  if e < 0 then x.num * Nat.pow 10 (-e).toNat / x.den else x.num / (x.den * Nat.pow 10 e.toNat)

end Fraction

/-- The decimals that round to a binary number: those between two bounds, which
themselves belong to it if its significand is even. -/
structure Interval where
  low : Fraction
  high : Fraction
  closed : Bool

namespace Interval

/-- The gap below a power of two is half as wide as the gap above it, save at
the least exponent. -/
def of (m : Nat) (e : Int) : Interval where
  low := if m = Nat.pow 2 52 ∧ Binary64.minExponent < e then Fraction.scaled (4 * m - 1) (e - 2)
    else Fraction.scaled (2 * m - 1) (e - 1)
  high := Fraction.scaled (2 * m + 1) (e - 1)
  closed := m % 2 = 0

def contains (i : Interval) (x : Fraction) : Bool :=
  if i.closed then i.low.le x && x.le i.high else i.low.lt x && x.lt i.high

end Interval

/-- The least `k` from `start` on with `x < 10 ^ k`, among the next `fuel`. -/
def magnitudeFrom (x : Fraction) : Nat → Int → Int
  | 0, k => k
  | fuel + 1, k => if x.lt (Fraction.decimal 1 k) then k else magnitudeFrom x fuel (k + 1)

/-- The number of digits before the point: `10 ^ (k - 1) ≤ x < 10 ^ k`. The
binary logarithms give a start that is too low by three at most. -/
def magnitude (x : Fraction) : Int :=
  let log2 : Int := (x.num.log2 : Int) - x.den.log2
  magnitudeFrom x 8 (Int.fdiv ((log2 - 1) * 30103) 100000 - 1)

/-- Which of the grid points `n` and `n + 1` at `10 ^ e` stands for `x`: one
that lies in the interval, the nearer of two, the even one of two equally near. -/
def pick (i : Interval) (x : Fraction) (n : Nat) (e : Int) : Option Nat :=
  let below := 0 < n && i.contains (Fraction.decimal n e)
  let above := i.contains (Fraction.decimal (n + 1) e)
  let middle := Fraction.decimal (10 * n + 5) (e - 1)
  match below, above with
  | false, false => none
  | true, false => some n
  | false, true => some (n + 1)
  | true, true =>
      if x.lt middle then some n
      else if middle.lt x then some (n + 1)
      else if n % 2 = 0 then some n else some (n + 1)

/-- Tries grids of more and more digits. -/
def search (i : Interval) (x : Fraction) (k : Int) : Nat → Nat → Decimal
  | 0, width => ⟨x.floorAt (k - width), k - width⟩
  | fuel + 1, width =>
      match pick i x (x.floorAt (k - width)) (k - width) with
      | some n => ⟨n, k - width⟩
      | none => search i x k fuel (width + 1)

/-- The shortest decimal of `m * 2 ^ e`, for a positive `m`. Seventeen digits
are always enough. -/
def shortest (m : Nat) (e : Int) : Decimal :=
  let x := Fraction.scaled m e
  search (Interval.of m e) x (magnitude x) 17 1

end DeviceTypings.Number
