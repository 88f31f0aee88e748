import DeviceTypings.Number.Notation
import DeviceTypings.Text.Escape
import DeviceTypings.Text.Printable
import DeviceTypings.Value.Basic

namespace DeviceTypings

/-!
# The text of values

Where a schema has some value in the place of a text, its text is taken. The
parts of a collection are written so that text can be told from other values:
in quotes, with escapes. Where a collection comes again inside itself, three
dots stand for it. A few values have no text.
-/

namespace Value

def numeral (n : Nat) : Text := toString n

/-- Numbers with at least `width` digits. -/
def padded (width n : Nat) : Text :=
  String.ofList (Number.padLeft width (Number.natDigits n))

/-- The escape of a code point inside quotes of the kind `quote`. -/
def escapeChar (quote c : CodePoint) : List CodePoint :=
  if c == quote || c == '\\' then ['\\', c]
  else if c == '\n' then ['\\', 'n']
  else if c == '\r' then ['\\', 'r']
  else if c == '\t' then ['\\', 't']
  else if Text.isPrintable c then [c]
  else if c.toNat < 0x100 then '\\' :: 'x' :: Text.hex 2 c.toNat
  else if c.toNat < 0x10000 then '\\' :: 'u' :: Text.hex 4 c.toNat
  else '\\' :: 'U' :: Text.hex 8 c.toNat

/-- Single quotes, or double quotes around a text with single quotes only. -/
def quoteFor (s : List CodePoint) : CodePoint :=
  if s.contains '\'' && !s.contains '"' then '"' else '\''

def quotedText (s : List CodePoint) : Text :=
  let quote := quoteFor s
  Text.ofList (quote :: (s.flatMap (escapeChar quote) ++ [quote]))

/-- Octets in ASCII are shown as characters, all others as numbers. -/
def quotedBytes (octets : List UInt8) : Text :=
  let s := octets.map fun b => CodePoint.ofNat b.toNat
  let quote := quoteFor s
  let escape (c : CodePoint) : List CodePoint :=
    if c == quote || c == '\\' then ['\\', c]
    else if c == '\n' then ['\\', 'n']
    else if c == '\r' then ['\\', 'r']
    else if c == '\t' then ['\\', 't']
    else if 0x20 ≤ c.toNat && c.toNat < 0x7F then [c]
    else '\\' :: 'x' :: Text.hex 2 c.toNat
  Text.ofList ('b' :: quote :: (s.flatMap escape ++ [quote]))

def listed (parts : List Text) : Text := Text.intercalate ", " parts

def dateText (d : Date) : Text :=
  padded 4 d.year ++ "-" ++ padded 2 d.month ++ "-" ++ padded 2 d.day

def offsetText (minutes : Int) : Text :=
  (if minutes < 0 then "-" else "+") ++ padded 2 (minutes.natAbs / 60) ++ ":" ++
    padded 2 (minutes.natAbs % 60)

def instantText (t : Instant) : Text :=
  dateText t.date ++ " " ++ padded 2 t.hour ++ ":" ++ padded 2 t.minute ++ ":" ++
    padded 2 t.second ++
    (if t.microsecond = 0 then ("" : Text) else "." ++ padded 6 t.microsecond) ++
    (match t.offset with
      | none => ""
      | some minutes => offsetText minutes)

/-- A duration of whole days and of seconds within the day. -/
def durationText (seconds : Int) : Text :=
  let days := Int.fdiv seconds 86400
  let rest := Int.fmod seconds 86400
  let part (name : Text) (n : Int) : List Text := if n = 0 then [] else [name ++ "=" ++ toString n]
  let parts := part "days" days ++ part "seconds" rest
  "datetime.timedelta(" ++ (if parts.isEmpty then ("0" : Text) else listed parts) ++ ")"

def quotedDate (d : Date) : Text :=
  "datetime.date(" ++ listed ([d.year, d.month, d.day].map numeral) ++ ")"

def quotedInstant (t : Instant) : Text :=
  let clock := [t.date.year, t.date.month, t.date.day, t.hour, t.minute]
  let clock := if t.second = 0 ∧ t.microsecond = 0 then clock else clock ++ [t.second]
  let clock := if t.microsecond = 0 then clock else clock ++ [t.microsecond]
  let zone : List Text := match t.offset with
    | none => []
    | some 0 => ["tzinfo=datetime.timezone.utc"]
    | some minutes => ["tzinfo=datetime.timezone(" ++ durationText (minutes * 60) ++ ")"]
  "datetime.datetime(" ++ listed (clock.map numeral ++ zone) ++ ")"

/-- What is written for a collection inside itself. -/
def ellipsis : Value → Text
  | list _ => "[...]"
  | tuple _ => "(...)"
  | _ => "\x7b...\x7d"

/-- A tuple of one item keeps its comma. -/
def quotedTuple : List Text → Text
  | [part] => "(" ++ part ++ ",)"
  | parts => "(" ++ listed parts ++ ")"

mutual

/-- The form of a value inside collections, `outer` being the labels of those
that it stands in. -/
def quoted : List Nat → Value → Text
  | _, null => "None"
  | _, bool b => if b then "True" else "False"
  | _, int i => toString i
  | _, float x => Number.text x
  | _, text s => quotedText s.toList
  | _, date d => quotedDate d
  | _, instant t => quotedInstant t
  | _, bytes octets => quotedBytes octets
  | outer, list items => "[" ++ listed (quotedItems outer items) ++ "]"
  | outer, tuple items => quotedTuple (quotedItems outer items)
  | outer, map entries => "\x7b" ++ listed (quotedEntries outer entries) ++ "\x7d"
  | outer, set members =>
      if members.isEmpty then "set()"
      else "\x7b" ++ listed (quotedItems outer members) ++ "\x7d"
  | outer, ring label v => if outer.contains label then v.ellipsis else quoted (label :: outer) v
  | _, endless => ""
termination_by structural _ v => v

def quotedItems : List Nat → List Value → List Text
  | _, [] => []
  | outer, v :: vs => quoted outer v :: quotedItems outer vs
termination_by structural _ vs => vs

def quotedEntries : List Nat → List (Value × Value) → List Text
  | _, [] => []
  | outer, (k, v) :: es => (quoted outer k ++ ": " ++ quoted outer v) :: quotedEntries outer es
termination_by structural _ es => es

end

/-- The text of a value on its own. -/
def toText : Value → Text
  | text s => s
  | date d => dateText d
  | instant t => instantText t
  | v => v.quoted []

@[simp] theorem toText_text (s : Text) : (text s).toText = s := rfl

/-- Why a value has no text. -/
inductive Flaw
  | longNumber
  | endless
deriving DecidableEq

def Flaw.message : Flaw → Text
  | longNumber =>
      "Exceeds the limit (" ++ toString Number.maxDigits ++ " digits) for integer string " ++
        "conversion; use sys.set_int_max_str_digits() to increase the limit"
  | endless => "maximum recursion depth exceeded"

mutual

/-- The first part of a value that has no text, `outer` being the labels of the
collections around it. -/
def flawIn? : List Nat → Value → Option Flaw
  | _, int i => if Number.isLong i then some .longNumber else none
  | outer, list items => flawInItems? outer items
  | outer, tuple items => flawInItems? outer items
  | outer, map entries => flawInEntries? outer entries
  | outer, set members => flawInItems? outer members
  | outer, ring label v => if outer.contains label then none else flawIn? (label :: outer) v
  | _, endless => some .endless
  | _, _ => none
termination_by structural _ v => v

def flawInItems? : List Nat → List Value → Option Flaw
  | _, [] => none
  | outer, v :: vs => (flawIn? outer v).or (flawInItems? outer vs)
termination_by structural _ vs => vs

def flawInEntries? : List Nat → List (Value × Value) → Option Flaw
  | _, [] => none
  | outer, (k, v) :: es =>
      (flawIn? outer k).or ((flawIn? outer v).or (flawInEntries? outer es))
termination_by structural _ es => es

end

/-- What keeps a value from having a text. -/
def flaw? (v : Value) : Option Flaw := v.flawIn? []

@[simp] theorem flaw?_text (s : Text) : (text s).flaw? = none := rfl

end Value

end DeviceTypings
