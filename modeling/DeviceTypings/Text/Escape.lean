import DeviceTypings.Text.Basic

namespace DeviceTypings.Text

/-!
# Escapes inside quotes

Two ways to write a code point between double quotes. The short way escapes
only the quote, the backslash and the control characters below U+0020; the
ASCII way also escapes all that lies outside U+0020 to U+007E, by UTF-16 units.
-/

def hexDigit (n : Nat) : CodePoint := .char (Nat.digitChar n)

/-- The last `width` hexadecimal digits of `n`, in small letters. -/
def hex (width n : Nat) : List CodePoint :=
  (List.range width).reverse.map fun i => hexDigit (n / Nat.pow 16 i % 16)

/-- The letter after the backslash, for characters that have a short escape. -/
def shortEscape : CodePoint → Option CodePoint
  | .char '"' => some '"'
  | .char '\\' => some '\\'
  | .char '\n' => some 'n'
  | .char '\r' => some 'r'
  | .char '\t' => some 't'
  | .char '\x08' => some 'b'
  | .char '\x0c' => some 'f'
  | _ => none

def unitEscape (n : Nat) : List CodePoint := '\\' :: 'u' :: hex 4 n

/-- The UTF-16 units of a code point. A surrogate is a unit itself. -/
def units (c : CodePoint) : List Nat :=
  if c.toNat < 0x10000 then [c.toNat]
  else [0xD800 + (c.toNat - 0x10000) / 0x400, 0xDC00 + (c.toNat - 0x10000) % 0x400]

def escapeShort (c : CodePoint) : List CodePoint :=
  match shortEscape c with
  | some d => ['\\', d]
  | none => if c.toNat < 0x20 then unitEscape c.toNat else [c]

def escapeAscii (c : CodePoint) : List CodePoint :=
  match shortEscape c with
  | some d => ['\\', d]
  | none =>
      if 0x20 ≤ c.toNat ∧ c.toNat ≤ 0x7E then [c] else (units c).flatMap unitEscape

theorem hex_length (width n : Nat) : (hex width n).length = width := by simp [hex]

theorem hex_four (n : Nat) : hex 4 n = [hexDigit (n / 4096 % 16), hexDigit (n / 256 % 16),
    hexDigit (n / 16 % 16), hexDigit (n % 16)] := by
  simp [hex, List.range_succ]

end DeviceTypings.Text
