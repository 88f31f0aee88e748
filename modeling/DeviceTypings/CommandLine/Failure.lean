import DeviceTypings.CommandLine.Format
import DeviceTypings.Fault
import DeviceTypings.Files.Basic
import DeviceTypings.Value.Misread

namespace DeviceTypings.CommandLine

/-!
# Failures

What keeps a run from its end. A run answers for some failures with a message
and a status; any other failure breaks it off.
-/

inductive Failure
  /-- The schema file cannot be read. -/
  | unreadable (path : Text) (cause : Files.Cause)
  | invalid (path : Text) (format : Format)
  /-- What is to be a text is not UTF-8: the schema file, or what the formatter says. -/
  | notText
  /-- A part of the schema file looks like a value and stands for none. -/
  | noValue (d : Defect)
  /-- A path holds NUL, which the system takes for its end. -/
  | cutPath
  | schema (e : Fault)
  /-- The system does not make or open the output file, breaks off the output, or does not start
  the formatter. -/
  | refused (cause : Files.Cause)
  /-- A path or the declarations hold a surrogate that cannot be encoded. -/
  | unencodable
deriving DecidableEq

namespace Failure

/-- The failure of a run that an obstacle keeps from writing. -/
def ofObstacle : Files.Obstacle → Failure
  | .cut => cutPath
  | .unencodable => unencodable
  | .cause c => refused c

def message : Failure → Text
  | unreadable path cause =>
      "Cannot read schema file '" ++ path ++ "': " ++ cause.text ++ ": " ++
        Value.quotedText path.toList
  | invalid path format => "Invalid " ++ format.name ++ " in schema file '" ++ path ++ "'"
  | notText => "invalid UTF-8"
  | noValue d => d.message
  | cutPath => "embedded null byte"
  | schema e => e.message
  | refused cause => cause.text
  | unencodable => "surrogates not allowed"

/-- Whether a run answers for a failure. -/
def isAnswered : Failure → Bool
  | unreadable _ _ => true
  | invalid _ _ => true
  | schema (.flawed _) => false
  | schema _ => true
  | _ => false

end Failure

end DeviceTypings.CommandLine
