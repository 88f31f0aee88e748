import DeviceTypings.Text.Basic

namespace DeviceTypings.Text

/-!
# Base 64

Octets written with 64 characters that hold six bits each. Other characters are
passed over.
-/

/-- The position of a character in the alphabet of base 64. -/
def sextet? (c : CodePoint) : Option Nat :=
  if c.isUpper then some (c.toNat - 'A'.toNat)
  else if c.isLower then some (c.toNat - 'a'.toNat + 26)
  else if c.isDigit then some (c.toNat - '0'.toNat + 52)
  else if c == '+' then some 62
  else if c == '/' then some 63
  else none

/-- The octets of a text. `held` counts the sextets of the unfinished group,
whose bits are `bits`, and `pads` the padding since the last of them. Padding
that completes a group ends the data. -/
def octetsFrom? : List CodePoint → Nat → Nat → Nat → Option (List UInt8)
  | [], held, _, _ => if held = 0 then some [] else none
  | c :: r, held, bits, pads =>
      if c == '=' then
        if 2 ≤ held && 4 ≤ held + pads + 1 then some []
        else octetsFrom? r held bits (if 2 ≤ held then pads + 1 else pads)
      else match sextet? c with
        | none => octetsFrom? r held bits pads
        | some n =>
            let bits := 64 * bits + n
            match held with
            | 0 => octetsFrom? r 1 n 0
            | 1 => (octetsFrom? r 2 (bits % 16) 0).map (UInt8.ofNat (bits / 16) :: ·)
            | 2 => (octetsFrom? r 3 (bits % 4) 0).map (UInt8.ofNat (bits / 4) :: ·)
            | _ => (octetsFrom? r 0 0 0).map (UInt8.ofNat bits :: ·)

def octets? (s : List CodePoint) : Option (List UInt8) := octetsFrom? s 0 0 0

end DeviceTypings.Text
