import DeviceTypings.CommandLine.Word

namespace DeviceTypings.CommandLine

/-!
# Reading the command line

The words are taken from left to right. Flags apply in their order, so that the
last value of a flag counts. The first value that no flag takes is the schema.
-/

/-- What a word with attached text says: flags without a value, and at its end
perhaps a flag with one, a flag whose value is the next word, or text that
belongs to no flag. -/
inductive Ending
  | complete
  | value (flag : Flag) (text : Text)
  | needsValue (flag : Flag)
  | leftover (word : Text)

/-- A flag with attached text. The text after a short flag without a value
starts with further short flags. -/
def attachedText (flag : Flag) (isShort assigned : Bool) :
    List CodePoint → Except UsageFault (List Flag × Ending)
  | [] =>
      if flag.takesValue then .ok ([], .value flag "") else .error (.unexpectedText flag [])
  | c :: r =>
      if flag.takesValue then .ok ([], .value flag (Text.ofList (c :: r)))
      else if !isShort || assigned || c == '-' then .error (.unexpectedText flag (c :: r))
      else match Flag.ofName? (Text.ofList [.char '-', c]), r with
        | none, _ => .ok ([flag], .leftover (Text.ofList (.char '-' :: c :: r)))
        | some next, [] =>
            .ok (if next.takesValue then ([flag], .needsValue next) else ([flag, next], .complete))
        | some next, .char '=' :: r =>
            (attachedText next true true r).map fun (fs, e) => (flag :: fs, e)
        | some next, r => (attachedText next true false r).map fun (fs, e) => (flag :: fs, e)

def FlagWord.expand (w : FlagWord) : Except UsageFault (List Flag × Ending) :=
  match w.attached with
  | some a => attachedText w.flag w.isShort a.assigned a.text
  | none => .ok (if w.flag.takesValue then ([], .needsValue w.flag) else ([w.flag], .complete))

/-- How reading a command line ends without arguments to run with. -/
inductive Stop
  | help
  | fault (e : UsageFault)
deriving DecidableEq

structure Progress where
  arguments : Arguments := {}
  schema : Option Text := none
  extras : List Text := []

namespace Progress

/-- Applies flags that take no value. The flag for help stops at once. -/
def applyAll (p : Progress) : List Flag → Except Stop Progress
  | [] => .ok p
  | .help :: _ => .error .help
  | f :: fs => { p with arguments := f.apply "" p.arguments }.applyAll fs

def set (p : Progress) (f : Flag) (value : Text) : Progress :=
  { p with arguments := f.apply value p.arguments }

def extra (p : Progress) (s : Text) : Progress := { p with extras := p.extras ++ [s] }

end Progress

/-- Takes the words one after the other. The mark belongs to the schema that
comes before or after it, and is left over otherwise. -/
def take (p : Progress) : List Word → Except Stop Progress
  | [] => .ok p
  | .unknown s :: ws => take (p.extra s) ws
  | .value s :: ws =>
      match p.schema, ws with
      | some _, ws => take (p.extra s) ws
      | none, .mark :: ws => take { p with schema := some s } ws
      | none, ws => take { p with schema := some s } ws
  | .mark :: ws =>
      match p.schema, ws with
      | none, .value s :: ws => take { p with schema := some s } ws
      | _, ws => take (p.extra "--") ws
  | .flag w :: ws =>
      match w.expand with
      | .error e => .error (.fault e)
      | .ok (fs, ending) =>
          match ending, ws with
          | .complete, ws => (p.applyAll fs).bind fun p => take p ws
          | .value f s, ws => (p.applyAll fs).bind fun p => take (p.set f s) ws
          | .leftover s, ws => (p.applyAll fs).bind fun p => take (p.extra s) ws
          | .needsValue f, .value s :: ws =>
              (p.applyAll fs).bind fun p => take (p.set f s) ws
          | .needsValue f, _ => .error (.fault (.missingValue f))

/-- The arguments of a command line, which must give a schema and nothing that
is left over. -/
def parse (words : List Text) : Except Stop Arguments :=
  match Word.ofList words with
  | .error e => .error (.fault e)
  | .ok ws => do
      let p ← take {} ws
      match p.schema with
      | none => .error (.fault .missingSchema)
      | some schema =>
          if p.extras.isEmpty then .ok { p.arguments with schema }
          else .error (.fault (.unrecognized p.extras))

/-! ## Help -/

def program : Text := "xapi-stub-generator"

def usage : String :=
  "usage: xapi-stub-generator [-h] [-o OUTPUT] [--xapi-import XAPI_IMPORT]\n" ++
  "                           [--class-name CLASS_NAME] [--base BASE]\n" ++
  "                           [--no-connect] [--format] [-v]\n" ++
  "                           schema\n"

def help : String := usage ++ "\n" ++
  "Generate TypeScript declarations for an xAPI schema.\n" ++
  "\n" ++
  "positional arguments:\n" ++
  "  schema                path to the schema file (*.json, *.yaml or *.yml).\n" ++
  "\n" ++
  "options:\n" ++
  "  -h, --help            show this help message and exit\n" ++
  "  -o OUTPUT, --output OUTPUT\n" ++
  "                        file to write the declarations to; defaults to stdout\n" ++
  "                        if omitted.\n" ++
  "  --xapi-import XAPI_IMPORT\n" ++
  "                        module to import the base class from.\n" ++
  "  --class-name CLASS_NAME\n" ++
  "                        name of the generated class and interface.\n" ++
  "  --base BASE           name of the extended base class.\n" ++
  "  --no-connect          skip generating the connect export.\n" ++
  "  --format              format the output with prettier.\n" ++
  "  -v, --verbose         enable debug logging.\n"

namespace UsageFault

/-- The usage and the reason for a refusal. -/
def report (e : UsageFault) : Text := usage ++ program ++ ": error: " ++ e.message ++ "\n"

end UsageFault

end DeviceTypings.CommandLine
