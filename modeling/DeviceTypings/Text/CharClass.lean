import DeviceTypings.Text.Basic

namespace DeviceTypings.Text

/-!
# Classes of characters

A class is a list of strides of code points. A stride of step two covers one
case of an alphabet whose capital and small letters alternate.
-/

/-- The code points `first`, `first + step`, and so on up to `last`. -/
structure Stride where
  first : Nat
  last : Nat
  step : Nat := 1

namespace Stride

def contains (s : Stride) (n : Nat) : Bool :=
  decide (s.first ≤ n) && decide (n ≤ s.last) && (n - s.first) % s.step == 0

end Stride

abbrev CharClass := List Stride

namespace CharClass

def contains (k : CharClass) (c : CodePoint) : Bool := k.any (·.contains c.toNat)

@[simp] theorem contains_nil (c : CodePoint) : contains [] c = false := rfl

@[simp] theorem contains_cons (s : Stride) (k : CharClass) (c : CodePoint) :
    contains (s :: k) c = (s.contains c.toNat || contains k c) := rfl

end CharClass

end DeviceTypings.Text
