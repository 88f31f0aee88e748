import DeviceTypings.CommandLine.Session

namespace DeviceTypings.CommandLine

/-!
# The program

Fetches from the disk what a run can see, and puts there what the run has changed. The run itself
happens between the two. It sees the disk before it starts and no formatter, since this program
starts no other: a run that is asked to format says that there is none, and delivers the
declarations as they are.
-/

/-- The path of a place. Only names in UTF-8 can be looked up on the disk. -/
def diskPath? : Files.Place → Option String
  | [] => some ""
  | name :: p => do return "/" ++ (← String.fromUTF8? ⟨name.toArray⟩) ++ (← diskPath? p)

/-- Adds what the disk holds at a place, without the contents of a file. -/
def observe (fs : Files) (p : Files.Place) : IO Files := do
  let some path := diskPath? p | return fs
  let path := (← IO.currentDir) / path
  if ← path.isDir then return fs.put p .directory
  else if ← path.pathExists then return fs.put p (.file .empty)
  else return fs

/-- Adds what the disk holds along the parts of a path. -/
def observeAlong (fs : Files) (p : Files.Place) : List Files.Part → IO Files
  | [] => return fs
  | .here :: parts => observeAlong fs p parts
  | .up :: parts => observeAlong fs p.dropLast parts
  | .name s :: parts => do observeAlong (← observe fs (p ++ [s])) (p ++ [s]) parts

def observePath (fs : Files) (path : Text) : IO Files :=
  match Files.octets? path with
  | none => return fs
  | some octets => observeAlong fs [] (Files.parts octets)

/-- Reads the file at a path if the path leads to one. -/
def fetch (fs : Files) (path : Text) : IO Files := do
  let .ok p := fs.find path | return fs
  match fs.entry? p, diskPath? p with
  | some (.file _), some path => return fs.put p (.file (← IO.FS.readBinFile path))
  | _, _ => return fs

/-- The world that a run with these words can see. -/
def observeWorld (words : List Text) : IO World := do
  let root : Text := (← IO.currentDir).toString
  if h : Files.isAbsolute root then
    let w : World := { root, root_isAbsolute := h }
    match parse words with
    | .error _ => return w
    | .ok a =>
        let files ← observePath (← observePath {} (w.path a.schema)) (w.path a.output)
        return { w with files := ← fetch files (w.path a.schema) }
  else throw (IO.userError "The path of the working directory is not known.")

/-- Makes the directories that a run has made, and writes the files that it has changed. -/
def store (old new : Files) : IO Unit := do
  for (p, e) in new.entries do
    match e, old.entry? p, diskPath? p with
    | .directory, none, some path => IO.FS.createDirAll path
    | _, _, _ => pure ()
  for (p, contents) in new.changedSince old do
    if let some path := diskPath? p then IO.FS.writeBinFile path contents

/-- Shows a text on the error stream. -/
def tell (t : Text) : IO Unit := IO.eprint ((reported t).encoded?.getD "")

end DeviceTypings.CommandLine

open DeviceTypings DeviceTypings.CommandLine in
def main (words : List String) : IO UInt32 := do
  let words := words.map Text.ofString
  let w ← observeWorld words
  let o := run w words
  store w.files o.files
  (← IO.getStdout).write o.output
  tell o.report
  match o.status with
  | .ok status => return status.toUInt32
  | .error e => do
      tell (e.message ++ "\n")
      return 1
