import DeviceTypings.Json.Token
import DeviceTypings.Value.Misread

namespace DeviceTypings.Json

/-!
# Reading JSON

One pass over the tokens with a stack of open lists and maps. A key that is
given twice keeps its first place and its last value. Of two errors the first
one counts.
-/

/-- An open collection, the last item first. The key of a map is the one whose
value is being read. -/
inductive Frame
  | items (done : List Value)
  | entries (done : Entries) (key : Text)

/-- What may come next. -/
inductive Mode
  | value
  /-- A value, or the end of the list that was just opened. -/
  | firstItem
  /-- A key, or the end of the map that was just opened. -/
  | firstKey
  | key (done : Entries)
  | colon (done : Entries) (key : Text)
  /-- A value is complete and belongs to the innermost open collection. -/
  | after (v : Value)

/-- A scalar other than text cannot be a key. -/
def Token.text? : Token → Option Text
  | .scalar (.text s) => some s
  | _ => none

/-- The mode after a token, and the stack. -/
def step : Token → Mode → List Frame → Option (Mode × List Frame)
  | .scalar v, .value, stack => some (.after v, stack)
  | .scalar v, .firstItem, stack => some (.after v, .items [] :: stack)
  | .openList, .value, stack => some (.firstItem, stack)
  | .openList, .firstItem, stack => some (.firstItem, .items [] :: stack)
  | .openMap, .value, stack => some (.firstKey, stack)
  | .openMap, .firstItem, stack => some (.firstKey, .items [] :: stack)
  | .closeList, .firstItem, stack => some (.after (.list []), stack)
  | .closeMap, .firstKey, stack => some (.after (.map []), stack)
  | t, .firstKey, stack => t.text?.map fun k => (.colon [] k, stack)
  | t, .key done, stack => t.text?.map fun k => (.colon done k, stack)
  | .colon, .colon done k, stack => some (.value, .entries done k :: stack)
  | .comma, .after v, .items done :: stack => some (.value, .items (v :: done) :: stack)
  | .comma, .after v, .entries done k :: stack =>
      some (.key (Entries.insert (.text k) v done), stack)
  | .closeList, .after v, .items done :: stack =>
      some (.after (.list (v :: done).reverse), stack)
  | .closeMap, .after v, .entries done k :: stack =>
      some (.after (.map (Entries.insert (.text k) v done)), stack)
  | _, _, _ => none

/-- What is wrong with a token that cannot come next. A number that is too long
could have come where a value can. -/
def refusal : Token → Mode → Misread
  | .longNumber digits, .value => .defect (.tooManyDigits digits)
  | .longNumber digits, .firstItem => .defect (.tooManyDigits digits)
  | _, _ => .invalid

def run : List Token → Mode → List Frame → Except Misread Value
  | [], .after v, [] => .ok v
  | [], _, _ => .error .invalid
  | t :: ts, mode, stack =>
      match step t mode stack with
      | some (mode, stack) => run ts mode stack
      | none => .error (refusal t mode)

/-- The value of a JSON text. -/
def parse (s : Text) : Except Misread Value := do
  let ts ← Misread.require (tokens? s)
  run ts .value []

end DeviceTypings.Json
