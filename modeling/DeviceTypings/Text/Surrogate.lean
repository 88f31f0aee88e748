import DeviceTypings.Text.Basic

namespace DeviceTypings.Text

/-!
# Surrogates

A character above U+FFFF can be spelled by two UTF-16 units, a high and a low surrogate. Any
other unit spells a code point of its own.
-/

def isHigh (n : Nat) : Bool := 0xD800 ≤ n && n < 0xDC00

def isLow (n : Nat) : Bool := 0xDC00 ≤ n && n < 0xE000

/-- Joins pairs of surrogates. -/
def joinPoints : List Nat → List Nat
  | [] => []
  | [n] => [n]
  | n :: m :: r =>
      if isHigh n && isLow m then (0x10000 + (n - 0xD800) * 0x400 + (m - 0xDC00)) :: joinPoints r
      else n :: joinPoints (m :: r)

/-- The code points that UTF-16 units spell. -/
def joinUnits (ns : List Nat) : List CodePoint := (joinPoints ns).map CodePoint.ofNat

end DeviceTypings.Text
