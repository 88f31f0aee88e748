import DeviceTypings.Number.Numeral
import DeviceTypings.Text.Surrogate
import DeviceTypings.Value.Basic

namespace DeviceTypings.Json

/-!
# The tokens of JSON

Brackets, commas, colons and scalars. A scalar is read as far as it goes, so
two scalars without a separator are two tokens, which no document allows.
Nothing is read after an integer that is too long.
-/

inductive Token
  | openList
  | closeList
  | openMap
  | closeMap
  | comma
  | colon
  | scalar (v : Value)
  /-- An integer of so many digits that it is not read. -/
  | longNumber (digits : Nat)

def isSpace (c : CodePoint) : Bool := c == ' ' || c == '\t' || c == '\n' || c == '\r'

def hexValue? (c : CodePoint) : Option Nat :=
  if c.isDigit then some (c.toNat - '0'.toNat)
  else if 'a' ≤ c ∧ c ≤ 'f' then some (c.toNat - 'a'.toNat + 10)
  else if 'A' ≤ c ∧ c ≤ 'F' then some (c.toNat - 'A'.toNat + 10)
  else none

/-- The number that hexadecimal digits spell. -/
def hexNumber? (cs : List CodePoint) : Option Nat :=
  cs.foldlM (fun n c => (hexValue? c).map (16 * n + ·)) 0

def simpleEscape? : CodePoint → Option CodePoint
  | .char '"' => some '"'
  | .char '\\' => some '\\'
  | .char '/' => some '/'
  | .char 'b' => some '\x08'
  | .char 'f' => some '\x0c'
  | .char 'n' => some '\n'
  | .char 'r' => some '\r'
  | .char 't' => some '\t'
  | _ => none

/-- The UTF-16 units or code points of a string up to its closing quote, and
what follows the quote. -/
def stringUnits : List CodePoint → Option (List Nat × List CodePoint)
  | [] => none
  | .char '"' :: r => some ([], r)
  | .char '\\' :: .char 'u' :: a :: b :: c :: d :: r => do
      let n ← hexNumber? [a, b, c, d]
      let (ns, r) ← stringUnits r
      return (n :: ns, r)
  | .char '\\' :: e :: r => do
      let c ← simpleEscape? e
      let (ns, r) ← stringUnits r
      return (c.toNat :: ns, r)
  | c :: r =>
      if c.toNat < 0x20 then none
      else do
        let (ns, r) ← stringUnits r
        return (c.toNat :: ns, r)

def digitsValue (cs : List CodePoint) : Nat :=
  cs.foldl (fun n c => 10 * n + (c.toNat - '0'.toNat)) 0

/-- The digits that a text starts with. -/
def spanDigits (cs : List CodePoint) : List CodePoint × List CodePoint := cs.span CodePoint.isDigit

/-- The digits before the point: a zero stands alone. -/
def wholeDigits? : List CodePoint → Option (List CodePoint × List CodePoint)
  | .char '0' :: r => some (['0'], r)
  | cs =>
      match spanDigits cs with
      | ([], _) => none
      | (ds, r) => some (ds, r)

/-- The digits after a point, if the point has any. -/
def fractionDigits? : List CodePoint → Option (List CodePoint × List CodePoint)
  | .char '.' :: r =>
      match spanDigits r with
      | ([], _) => none
      | (ds, r) => some (ds, r)
  | _ => none

/-- An exponent with its sign, if the mark is followed by digits. -/
def exponent? : List CodePoint → Option (Int × List CodePoint)
  | c :: r =>
      if c != 'e' && c != 'E' then none
      else
        let (negative, r) := match r with
          | .char '-' :: r => (true, r)
          | .char '+' :: r => (false, r)
          | r => (false, r)
        match spanDigits r with
        | ([], _) => none
        | (ds, r) => some (if negative then -(digitsValue ds : Int) else digitsValue ds, r)
  | [] => none

/-- A number without its sign. One with a point or an exponent is a binary
floating point number, any other an integer. -/
def unsignedNumber? (negative : Bool) (cs : List CodePoint) : Option (Token × List CodePoint) := do
  let (whole, r) ← wholeDigits? cs
  let (fraction, r', hasFraction) := match fractionDigits? r with
    | some (ds, r) => (ds, r, true)
    | none => ([], r, false)
  let (e, r'', hasExponent) := match exponent? r' with
    | some (e, r) => (e, r, true)
    | none => (0, r', false)
  if hasFraction || hasExponent then
    return (.scalar (.float (Binary64.ofDecimal negative (digitsValue (whole ++ fraction))
      (e - fraction.length))), r'')
  else if Number.maxDigits < whole.length then return (.longNumber whole.length, r')
  else
    let n : Int := digitsValue whole
    return (.scalar (.int (if negative then -n else n)), r')

/-- What follows `word` in a text that starts with it. -/
def afterWord? (word : Text) (cs : List CodePoint) : Option (List CodePoint) :=
  if word.toList.isPrefixOf cs then some (cs.drop word.toList.length) else none

def number? (cs : List CodePoint) : Option (Token × List CodePoint) :=
  match cs with
  | .char '-' :: r =>
      match afterWord? "Infinity" r with
      | some r => some (.scalar (.float (.infinite true)), r)
      | none => unsignedNumber? true r
  | cs => unsignedNumber? false cs

def words : List (Text × Value) :=
  [("null", .null), ("true", .bool true), ("false", .bool false), ("NaN", .float .nan),
   ("Infinity", .float (.infinite false))]

def word? (cs : List CodePoint) : Option (Token × List CodePoint) :=
  words.findSome? fun (word, v) => (afterWord? word cs).map fun r => (.scalar v, r)

/-- The first token of a text that does not start with white space. -/
def nextToken? : List CodePoint → Option (Token × List CodePoint)
  | [] => none
  | .char '[' :: r => some (.openList, r)
  | .char ']' :: r => some (.closeList, r)
  | .char '\x7b' :: r => some (.openMap, r)
  | .char '\x7d' :: r => some (.closeMap, r)
  | .char ',' :: r => some (.comma, r)
  | .char ':' :: r => some (.colon, r)
  | .char '"' :: r => do
      let (units, r) ← stringUnits r
      return (.scalar (.text (.ofList (Text.joinUnits units))), r)
  | cs => (word? cs).or (number? cs)

/-- Cuts a text into tokens. Each token takes at least one character, so the
length of the text is fuel enough. -/
def tokensFrom : Nat → List CodePoint → Option (List Token)
  | 0, cs => if cs.all isSpace then some [] else none
  | fuel + 1, cs =>
      match cs.dropWhile isSpace with
      | [] => some []
      | cs => do
          let (t, r) ← nextToken? cs
          match t with
          | .longNumber _ => return [t]
          | _ =>
              let ts ← tokensFrom fuel r
              return t :: ts

def tokens? (s : Text) : Option (List Token) := tokensFrom s.toList.length s.toList

end DeviceTypings.Json
