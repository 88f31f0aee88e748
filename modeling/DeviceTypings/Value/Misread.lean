import DeviceTypings.Value.Text

namespace DeviceTypings

/-!
# Misreadings

How reading a value from a text can fail. Most often the text breaks the rules
of its format. A text that follows them can still have a part that looks like a
value and stands for none.
-/

/-- Why a part of a text that looks like a value stands for none. -/
inductive Defect
  /-- A word, in small letters, that is no truth value. -/
  | truth (word : Text)
  | emptyNumber
  | integer (base : Nat) (numeral : Text)
  | decimal (numeral : Text)
  /-- A numeral of more digits than are read. -/
  | tooManyDigits (count : Nat)
  /-- A number beyond all binary floating point numbers. -/
  | tooLarge
  | timestamp
  /-- A mapping in the place of a timestamp. -/
  | timestampMapping
  | year
  | month
  | day
  | hour
  | minute
  | second
  /-- An offset from UTC, in minutes, of a day or more. -/
  | offset (minutes : Int)
  /-- The number of an escape is above all code points. -/
  | codePoint
  /-- The number of an escape does not fit into 31 bits. -/
  | codeNumber
  /-- A mapping stands for its own text. -/
  | endless
deriving DecidableEq

def Defect.message : Defect → Text
  | truth word => Value.quotedText word.toList
  | emptyNumber => "string index out of range"
  | integer base numeral =>
      "invalid literal for int() with base " ++ toString base ++ ": " ++
        Text.ofList ((Value.quotedText numeral.toList).toList.take 200)
  | decimal numeral => "could not convert string to float: " ++ Value.quotedText numeral.toList
  | tooManyDigits count =>
      "Exceeds the limit (" ++ toString Number.maxDigits ++ " digits) for integer string " ++
        "conversion: value has " ++ toString count ++ " digits; use " ++
        "sys.set_int_max_str_digits() to increase the limit"
  | tooLarge => "int too large to convert to float"
  | timestamp => "'NoneType' object has no attribute 'groupdict'"
  | timestampMapping => "expected string or bytes-like object, got 'list'"
  | year => "year 0 is out of range"
  | month => "month must be in 1..12"
  | day => "day is out of range for month"
  | hour => "hour must be in 0..23"
  | minute => "minute must be in 0..59"
  | second => "second must be in 0..59"
  | offset minutes =>
      "offset must be a timedelta strictly between -timedelta(hours=24) and " ++
        "timedelta(hours=24), not " ++ Value.durationText (minutes * 60) ++ "."
  | codePoint => "chr() arg not in range(0x110000)"
  | codeNumber => "Python int too large to convert to C int"
  | endless => Value.Flaw.endless.message

inductive Misread
  /-- The text breaks the rules of its format. -/
  | invalid
  | defect (d : Defect)
deriving DecidableEq

namespace Misread

/-- What has no reading is invalid. -/
def require {α : Type} : Option α → Except Misread α
  | some a => .ok a
  | none => .error .invalid

end Misread

end DeviceTypings
