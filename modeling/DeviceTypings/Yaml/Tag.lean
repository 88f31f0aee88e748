import DeviceTypings.Yaml.Cursor

namespace DeviceTypings.Yaml

/-!
# Tags

The types of nodes. A plain scalar without a tag has the type that its form
tells, and so has every scalar whose tag is a lone exclamation mark. Any other
node without a tag is text, a sequence or a mapping.
-/

inductive Tag
  | null
  | bool
  | int
  | float
  | binary
  | timestamp
  | omap
  | pairs
  | set
  | str
  | seq
  | map
  /-- The key whose mappings are merged into the one around it. -/
  | merge
  /-- The key of the value that stands for a whole mapping. -/
  | value
  | unknown
deriving DecidableEq

namespace Tag

/-- What the names of all known types start with. -/
def core : Text := "tag:yaml.org,2002:"

def names : List (Text × Tag) :=
  [("null", null), ("bool", bool), ("int", int), ("float", float), ("binary", binary),
   ("timestamp", timestamp), ("omap", omap), ("pairs", pairs), ("set", set), ("str", str),
   ("seq", seq), ("map", map), ("merge", merge), ("value", value)]

def ofName (name : Text) : Tag :=
  ((names.find? fun (n, _) => core ++ n == name).map Prod.snd).getD unknown

end Tag

/-! ## The forms of scalars -/

def isSign (c : CodePoint) : Bool := c == '-' || c == '+'

def dropSign : List CodePoint → List CodePoint
  | [] => []
  | c :: r => if isSign c then r else c :: r

def isDigitOrBar (c : CodePoint) : Bool := c.isDigit || c == '_'

/-- A digit, and then digits and underscores. -/
def isDigits : List CodePoint → Bool
  | [] => false
  | c :: r => c.isDigit && r.all isDigitOrBar

/-- One digit, or two of which the first is five at most. -/
def isSixtieth : List CodePoint → Bool
  | [d] => d.isDigit
  | [c, d] => '0' ≤ c && c ≤ '5' && d.isDigit
  | _ => false

/-- The parts of a text between colons. -/
def colonParts : List CodePoint → List (List CodePoint)
  | [] => [[]]
  | c :: r =>
      if c == ':' then [] :: colonParts r
      else match colonParts r with
        | [] => [[c]]
        | p :: ps => (c :: p) :: ps

/-- Digits and at least one sixtieth after a colon. -/
def isSexagesimal (s : List CodePoint) : Bool :=
  match colonParts s with
  | first :: second :: more => isDigits first && (second :: more).all isSixtieth
  | _ => false

def isInt (s : List CodePoint) : Bool :=
  match dropSign s with
  | [] => false
  | [.char '0'] => true
  | .char '0' :: .char 'b' :: r => !r.isEmpty && r.all fun c => c == '0' || c == '1' || c == '_'
  | .char '0' :: .char 'x' :: r => !r.isEmpty && r.all fun c => isHexDigit c || c == '_'
  | .char '0' :: r => r.all fun c => ('0' ≤ c && c ≤ '7') || c == '_'
  | s => isDigits s || isSexagesimal s

/-- Nothing, or an exponent with a sign. -/
def isExponent : List CodePoint → Bool
  | [] => true
  | e :: s :: d :: r => (e == 'e' || e == 'E') && isSign s && (d :: r).all CodePoint.isDigit
  | _ => false

/-- Digits and underscores, and then perhaps an exponent. -/
def isFraction (s : List CodePoint) : Bool := isExponent (s.dropWhile isDigitOrBar)

/-- A number with a point has digits before it, or, if it has no sign, after
it. One in base sixty has no exponent. -/
def isFloat (s : List CodePoint) : Bool :=
  let t := dropSign s
  let whole := t.takeWhile (· != CodePoint.char '.')
  match t.drop whole.length with
  | [] => false
  | _ :: fraction =>
      if whole.isEmpty then
        isOneOf ["inf", "Inf", "INF"] fraction ||
          (t.length == s.length &&
            (isOneOf ["nan", "NaN", "NAN"] fraction ||
              ((fraction.headD '.').isDigit && isFraction fraction)))
      else (isDigits whole && isFraction fraction) ||
        (isSexagesimal whole && fraction.all isDigitOrBar)

def isBool : List CodePoint → Bool :=
  isOneOf ["yes", "Yes", "YES", "no", "No", "NO", "true", "True", "TRUE", "false", "False",
    "FALSE", "on", "On", "ON", "off", "Off", "OFF"]

def isNull : List CodePoint → Bool := isOneOf ["", "~", "null", "Null", "NULL"]

/-- Reads from `least` to `most` digits. -/
def takeDigits? (least most : Nat) (s : List CodePoint) :
    Option (List CodePoint × List CodePoint) :=
  let ds := (s.take most).takeWhile CodePoint.isDigit
  if ds.length < least then none else some (ds, s.drop ds.length)

def expect? (c : CodePoint) : List CodePoint → Option (List CodePoint)
  | [] => none
  | d :: r => if d == c then some r else none

/-- The digits of an hour, a minute, a second and its fraction. -/
abbrev ClockDigits := List CodePoint × List CodePoint × List CodePoint × List CodePoint

/-- `Z`, or a sign with the digits of hours and minutes. -/
abbrev ZoneDigits := Option (CodePoint × List CodePoint × List CodePoint)

/-- The parts of a date, and of a time if one is given. -/
structure TimeParts where
  year : List CodePoint
  month : List CodePoint
  day : List CodePoint
  time : Option ClockDigits
  zone : Option ZoneDigits

/-- The end of a time: nothing, or a zone that spaces may come before. -/
def zone? (s : List CodePoint) : Option (Option ZoneDigits) :=
  match s, s.dropWhile isSpaceOrTab with
  | [], _ => some none
  | _, [.char 'Z'] => some (some none)
  | _, c :: r =>
      if isSign c then do
        let (hours, r) ← takeDigits? 1 2 r
        match r with
        | [] => return some (some (c, hours, []))
        | _ =>
            let r ← expect? ':' r
            let (minutes, r) ← takeDigits? 2 2 r
            if r.isEmpty then return some (some (c, hours, minutes)) else none
      else none
  | _, [] => none

/-- A time after its date: `T` or spaces, hour, minute, second, perhaps a
fraction and a zone. -/
def time? (s : List CodePoint) : Option (ClockDigits × Option ZoneDigits) := do
  let r ← match s with
    | c :: r =>
        if c == 'T' || c == 't' then some r
        else if isSpaceOrTab c then some (r.dropWhile isSpaceOrTab)
        else none
    | [] => none
  let (hour, r) ← takeDigits? 1 2 r
  let r ← expect? ':' r
  let (minute, r) ← takeDigits? 2 2 r
  let r ← expect? ':' r
  let (second, r) ← takeDigits? 2 2 r
  let (fraction, r) := match r with
    | .char '.' :: r => (r.takeWhile CodePoint.isDigit, r.dropWhile CodePoint.isDigit)
    | r => ([], r)
  let zone ← zone? r
  return ((hour, minute, second, fraction), zone)

/-- A date, or a date and a time. -/
def timeParts? (s : List CodePoint) : Option TimeParts := do
  let (year, r) ← takeDigits? 4 4 s
  let r ← expect? '-' r
  let (month, r) ← takeDigits? 1 2 r
  let r ← expect? '-' r
  let (day, r) ← takeDigits? 1 2 r
  match r with
  | [] => return ⟨year, month, day, none, none⟩
  | r =>
      let (time, zone) ← time? r
      return ⟨year, month, day, some time, zone⟩

/-- A date alone has two digits for its month and its day. With a time after it
one digit is enough. -/
def isTimestamp (s : List CodePoint) : Bool :=
  match timeParts? s with
  | some p => p.time.isSome || (p.month.length == 2 && p.day.length == 2)
  | none => false

/-- Drops a line break at the end of a text that has more than that. -/
def dropFinalBreak : List CodePoint → List CodePoint
  | [] => []
  | [c] => [c]
  | c :: .char '\n' :: [] => [c]
  | c :: d :: r => c :: dropFinalBreak (d :: r)

/-- The type that the form of a text tells. A line break at the end makes no
difference. -/
def formTag (text : Text) : Tag :=
  let s := dropFinalBreak text.toList
  if isNull s then .null
  else if isBool s then .bool
  else if isFloat s then .float
  else if isInt s then .int
  else if isOneOf ["<<"] s then .merge
  else if isTimestamp s then .timestamp
  else if isOneOf ["="] s then .value
  else if isOneOf ["!", "&", "*"] s then .unknown
  else .str

end DeviceTypings.Yaml
