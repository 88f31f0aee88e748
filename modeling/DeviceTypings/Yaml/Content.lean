import DeviceTypings.Text.Base64
import DeviceTypings.Yaml.Number
import DeviceTypings.Yaml.Time

namespace DeviceTypings.Yaml

/-!
# The content of scalars

What a text stands for as a scalar of a given type. Text of any other type than
a number, a truth value or a timestamp either has a value or is invalid.
-/

def boolOf (text : Text) : Except Misread Value :=
  let word := Text.lower text.toList
  if isOneOf ["yes", "true", "on"] word then .ok (.bool true)
  else if isOneOf ["no", "false", "off"] word then .ok (.bool false)
  else .error (.defect (.truth (.ofList word)))

/-- Octets are written in ASCII. -/
def bytesOf (text : Text) : Except Misread Value :=
  if text.toList.all fun c => c.toNat < 0x80 then
    (Misread.require (Text.octets? text.toList)).map .bytes
  else .error .invalid

/-- The value of a text. There are no scalars of the types of collections, nor of the types
that keys alone can have. -/
def scalarOf (tag : Tag) (text : Text) : Except Misread Value :=
  match tag with
  | .null => .ok .null
  | .bool => boolOf text
  | .int => (intOf text).map .int
  | .float => (floatOf text).map .float
  | .binary => bytesOf text
  | .timestamp => timestampOf text
  | .str => .ok (.text text)
  | _ => .error .invalid

end DeviceTypings.Yaml
