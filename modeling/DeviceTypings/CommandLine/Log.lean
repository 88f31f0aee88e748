import DeviceTypings.Schema.Compile

namespace DeviceTypings.CommandLine

/-!
# The log

What a run reports beside its output. Each message has a level and the part of
the program that it comes from.
-/

inductive Level
  | debug
  | info
  | error
deriving DecidableEq

inductive Origin
  | commandLine
  | run
  | schema
  | document
deriving DecidableEq

structure Message where
  level : Level
  origin : Origin
  text : Text
deriving DecidableEq

namespace Level

def name : Level → Text
  | debug => "DEBUG"
  | info => "INFO"
  | error => "ERROR"

end Level

namespace Origin

def name : Origin → Text
  | commandLine => "xapi_stub_generator.cli"
  | run => "xapi_stub_generator.run"
  | schema => "xapi_stub_generator.parser"
  | document => "xapi_stub_generator.nodes"

end Origin

namespace Message

def render (m : Message) : Text :=
  m.level.name ++ ":" ++ m.origin.name ++ ":" ++ m.text ++ "\n"

/-- Debugging messages are shown on request only. -/
def isShown (verbose : Bool) (m : Message) : Bool := verbose || m.level != .debug

/-- The messages about an entry of a script that took effect. -/
def ofEntry : Schema.Entry → List Message
  | .step (.addInterface name _) => [⟨.debug, .document, "Added interface '" ++ name ++ "'."⟩]
  | .step _ => []
  | .note (.unknownKey key) =>
      [⟨.debug, .schema, "Ignoring unknown top-level key '" ++ key ++ "'."⟩]
  | .note (.repeatedKey key path) =>
      [⟨.debug, .schema,
        "Skipping repeated key '" ++ key ++ "' in " ++ Text.intercalate "." path ++ "."⟩]

/-- The shown messages, each on a line. -/
def renderAll (verbose : Bool) (ms : List Message) : Text :=
  Text.join ((ms.filter (isShown verbose)).map render)

end Message

/-- What the error stream shows of a text, with an escape for each surrogate. -/
def reported (t : Text) : Text :=
  Text.ofList (t.toList.flatMap fun c => if c.isSurrogate then Text.unitEscape c.toNat else [c])

end DeviceTypings.CommandLine
