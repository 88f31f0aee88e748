import DeviceTypings.CommandLine.Failure
import DeviceTypings.Json.Reader
import DeviceTypings.Yaml.Reader

namespace DeviceTypings.CommandLine

/-!
# Schema files

A schema is read from a file whose name tells the format. Line ends of all
kinds are read as line feeds.
-/

/-- Turns every line end into a line feed. -/
def lineFeeds : List CodePoint → List CodePoint
  | [] => []
  | .char '\r' :: .char '\n' :: r => .char '\n' :: lineFeeds r
  | .char '\r' :: r => .char '\n' :: lineFeeds r
  | c :: r => c :: lineFeeds r

/-- The text that octets spell in UTF-8. -/
def textOf? (octets : ByteArray) : Option Text :=
  (String.fromUTF8? octets).map fun s => Text.ofList (lineFeeds (s : Text).toList)

/-- Reads a text in a format. -/
def Format.parse : Format → Text → Except Misread Value
  | .json => Json.parse
  | .yaml => Yaml.parse

/-- The value of a text in a format. `path` is the name of the file. -/
def decode (format : Format) (path text : Text) : Except Failure Value :=
  match format.parse text with
  | .ok v => .ok v
  | .error .invalid => .error (.invalid path format)
  | .error (.defect d) => .error (.noValue d)

def decodeBytes (path : Text) (contents : ByteArray) : Except Failure Value :=
  match textOf? contents with
  | none => .error .notText
  | some text => decode (.ofPath path) path text

/-- The schema in the file at a path. -/
def load (fs : Files) (path : Text) : Except Failure Value :=
  match fs.read path with
  | .error .cut => .error .cutPath
  | .error .unencodable => .error .unencodable
  | .error (.cause cause) => .error (.unreadable path cause)
  | .ok contents => decodeBytes path contents

end DeviceTypings.CommandLine
