import DeviceTypings.CommandLine.Log
import DeviceTypings.CommandLine.SchemaFile
import DeviceTypings.CommandLine.Signal
import DeviceTypings.CommandLine.Usage

namespace DeviceTypings.CommandLine

/-!
# Runs of the program

A run reads a schema file, generates its declarations, has them formatted if
that is asked for, and prints them or writes them to a file. The files, the
formatter and what takes the printed text are part of the world that it runs in.
-/

/-- How the formatter ended, and what it wrote. -/
structure Formatting where
  status : Int
  output : ByteArray
  report : ByteArray

inductive Formatter
  | notFound
  /-- The system does not start the program. -/
  | refused (cause : Files.Cause)
  | program (run : ByteArray → Formatting)

structure World where
  /-- The path of the working directory. -/
  root : Text
  root_isAbsolute : Files.isAbsolute root = true := by decide
  files : Files := {}
  formatter : Formatter := .notFound
  /-- Where a text that is printed breaks off. -/
  interruption : ByteArray → Option Files.Interruption := fun _ => none

structure Outcome where
  status : Except Failure Nat
  output : ByteArray := .empty
  /-- What is written to the error stream. -/
  report : Text := ""
  files : Files

namespace World

/-- A path of the command line as seen from the working directory. -/
def path (w : World) (path : Text) : Text := Files.join w.root path

/-- Prints octets, up to an interruption. -/
def print (w : World) (octets : ByteArray) : ByteArray × Option Files.Cause :=
  Files.written octets (w.interruption octets)

end World

/-- The messages about a formatter that failed. -/
def formatterFailed (status : Int) (report : Text) : List Message :=
  [⟨.error, .run, "Prettier formatting failed: " ++
      "Command '['prettier', '--parser', 'typescript']' " ++ ending status⟩,
    ⟨.error, .run, "Stderr: " ++ report⟩]

/-- The formatted declarations, or the declarations themselves if they cannot be formatted. A
formatter must be found before it is given the declarations, encoded. -/
def format (w : World) (declarations : Text) : List Message × Except Failure Text :=
  match w.formatter with
  | .notFound =>
      ([⟨.error, .run,
        "prettier not found. Please install prettier: npm install -g prettier"⟩],
        .ok declarations)
  | .refused cause => ([], .error (.refused cause))
  | .program run =>
      match declarations.encoded? with
      | none => ([], .error .unencodable)
      | some s =>
          let formatting := run s.toUTF8
          match textOf? formatting.output, textOf? formatting.report with
          | some output, some report =>
              if formatting.status = 0 then ([], .ok output)
              else (formatterFailed formatting.status report, .ok declarations)
          | _, _ => ([], .error .notText)

/-- The declarations for a schema file, with the messages on the way. -/
def declarations (w : World) (path : Text) (o : Schema.Options) (formatted : Bool) :
    List Message × Except Failure Text :=
  match load w.files path with
  | .error e => ([], .error e)
  | .ok schema =>
      let loaded : Message := ⟨.debug, .run, "Loaded schema from '" ++ path ++ "'."⟩
      let (entries, r) := Schema.trace o schema
      let log := loaded :: entries.flatMap Message.ofEntry
      match r with
      | .error e => (log, .error (.schema e))
      | .ok d =>
          if formatted then
            let (more, r) := format w d.render
            (log ++ more, r)
          else (log, .ok d.render)

/-- What a part of a run leaves: its messages, the files, what it has printed, and its failure if
it has one. -/
structure Delivery where
  log : List Message := []
  files : Files
  output : ByteArray := .empty
  result : Except Failure Unit

/-- Whether nothing was in the way. -/
def settled : Option Files.Cause → Except Failure Unit
  | none => .ok ()
  | some cause => .error (.refused cause)

/-- Prints the declarations, or writes them to a file if one is named. Only when
the file is open, and so empty, are they encoded. -/
def deliver (w : World) (path declarations : Text) : Delivery :=
  if path = "" then
    match declarations.encoded? with
    | none => { files := w.files, result := .error .unencodable }
    | some s =>
        let (output, cause) := w.print s.toUTF8
        { files := w.files, output, result := settled cause }
  else match w.files.prepare (w.path path) with
    | (files, .error obstacle) => { files, result := .error (.ofObstacle obstacle) }
    | (files, .ok p) =>
        match declarations.encoded? with
        | none => { files, result := .error .unencodable }
        | some s =>
            match files.write p s.toUTF8 with
            | (files, some cause) => { files, result := .error (.refused cause) }
            | (files, none) =>
                { log := [⟨.info, .run, "Wrote declarations to '" ++ w.path path ++ "'."⟩]
                  files
                  result := .ok () }

/-- A run up to its end or its failure. -/
def attempt (w : World) (a : Arguments) : Delivery :=
  let opening : Message :=
    ⟨.debug, .commandLine, "Working from root directory: " ++ w.root⟩
  let (log, r) := declarations w (w.path a.schema) a.options a.format
  match r with
  | .error e => { log := opening :: log, files := w.files, result := .error e }
  | .ok t =>
      let d := deliver w a.output t
      { d with log := opening :: log ++ d.log }

/-- A run with its arguments. Some failures are answered with a status. -/
def runWith (w : World) (a : Arguments) : Outcome :=
  let d := attempt w a
  let outcome (status : Except Failure Nat) (log : List Message) : Outcome :=
    { status, output := d.output, report := reported (Message.renderAll a.verbose log),
      files := d.files }
  match d.result with
  | .ok () => outcome (.ok 0) d.log
  | .error e =>
      if e.isAnswered then
        outcome (.ok 1) (d.log ++ [⟨.error, .commandLine, "Generation failed: " ++ e.message⟩])
      else outcome (.error e) d.log

/-- A run with the words of its command line. -/
def run (w : World) (words : List Text) : Outcome :=
  match parse words with
  | .error .help => { status := .ok 0, output := (w.print help.toUTF8).1, files := w.files }
  | .error (.fault e) => { status := .ok 2, report := reported e.report, files := w.files }
  | .ok a => runWith w a

end DeviceTypings.CommandLine
