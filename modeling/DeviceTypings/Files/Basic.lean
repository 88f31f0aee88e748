import DeviceTypings.Files.Path

namespace DeviceTypings

/-!
# Files

The files and directories that a run of the program can see, by their places below the topmost
directory. The system may refuse to open a file or to make a directory, and it may break off what
is written to a file.
-/

namespace Files

/-- The names that lead from the topmost directory to a file or directory. -/
abbrev Place := List Octets

inductive Entry
  | directory
  | file (contents : ByteArray)

/-- Why the system does not do what it is asked for. -/
inductive Cause
  | missing
  | notDirectory
  | isDirectory
  | taken
  /-- A name or a path of more octets than the system takes. -/
  | tooLong
  | other (number : Nat) (wording : Text)
deriving DecidableEq

namespace Cause

/-- The wording of the system, with its number for the cause. -/
def text : Cause → Text
  | missing => "[Errno 2] No such file or directory"
  | taken => "[Errno 17] File exists"
  | notDirectory => "[Errno 20] Not a directory"
  | isDirectory => "[Errno 21] Is a directory"
  | tooLong => "[Errno 36] File name too long"
  | other number wording => "[Errno " ++ toString number ++ "] " ++ wording

end Cause

/-- What keeps a path from being used. -/
inductive Obstacle
  /-- The path holds NUL, which the system takes for its end. -/
  | cut
  /-- The path holds a surrogate that stands for no octet. -/
  | unencodable
  | cause (c : Cause)
deriving DecidableEq

inductive Access
  | read
  | write
  | makeDirectory
deriving DecidableEq

/-- Where writing breaks off: how many octets are written by then, and why. -/
structure Interruption where
  octets : Nat
  cause : Cause

end Files

/-- The topmost directory itself is always there. -/
structure Files where
  entries : List (Files.Place × Files.Entry) := []
  /-- Why an access to a place is refused that is otherwise possible. -/
  refusal : Files.Access → Files.Place → Option Files.Cause := fun _ _ => none
  /-- Where the contents of a file break off. -/
  interruption : Files.Place → ByteArray → Option Files.Interruption := fun _ _ => none

namespace Files

def entry? (fs : Files) (p : Place) : Option Entry :=
  if p = [] then some .directory else fs.entries.lookup p

/-- Gives a place an entry, instead of one that it has. -/
def put (fs : Files) (p : Place) (e : Entry) : Files :=
  { fs with entries := (p, e) :: fs.entries.filter fun x => x.1 != p }

def maxNameOctets : Nat := 255

def maxPathOctets : Nat := 4095

/-- Follows the parts of a path from a directory. The last part may be missing. -/
def locate (fs : Files) (p : Place) : List Part → Except Cause Place
  | [] => .ok p
  | part :: parts =>
      match fs.entry? p with
      | none => .error .missing
      | some (.file _) => .error .notDirectory
      | some .directory =>
          match part with
          | .here => fs.locate p parts
          | .up => fs.locate p.dropLast parts
          | .name s =>
              if maxNameOctets < s.length then .error .tooLong else fs.locate (p ++ [s]) parts

/-- The place that an absolute path leads to. -/
def find (fs : Files) (path : Text) : Except Obstacle Place :=
  match octets? path with
  | none => .error .unencodable
  | some octets =>
      if octets.contains 0 then .error .cut
      else if maxPathOctets < octets.length then .error (.cause .tooLong)
      else (fs.locate [] (parts octets)).mapError .cause

/-! ## Access -/

/-- Grants an access to a place unless the system refuses it. -/
def grant {α : Type} (fs : Files) (access : Access) (p : Place) (a : α) : Except Obstacle α :=
  match fs.refusal access p with
  | some cause => .error (.cause cause)
  | none => .ok a

/-- The contents of the file at a path. -/
def read (fs : Files) (path : Text) : Except Obstacle ByteArray := do
  let p ← fs.find path
  match fs.entry? p with
  | none => .error (.cause .missing)
  | some .directory => .error (.cause .isDirectory)
  | some (.file contents) => fs.grant .read p contents

/-- Whether something is at a path. -/
def isThere (fs : Files) (path : Text) : Bool :=
  match fs.find path with
  | .error _ => false
  | .ok p => (fs.entry? p).isSome

def isDirectory (fs : Files) (path : Text) : Bool :=
  match fs.find path with
  | .error _ => false
  | .ok p => match fs.entry? p with
    | some .directory => true
    | _ => false

def makeDirectory (fs : Files) (path : Text) : Except Obstacle Files := do
  let p ← fs.find path
  match fs.entry? p with
  | some _ => .error (.cause .taken)
  | none => fs.grant .makeDirectory p (fs.put p .directory)

/-- Makes directories one below the other. Nothing is done for one that is there, except that the
last one must be a directory. The others are passed if the system says that they are taken. -/
def makeDirectories (fs : Files) : List Text → Files × Except Obstacle Unit
  | [] => (fs, .ok ())
  | path :: paths =>
      if fs.isThere path && !paths.isEmpty then fs.makeDirectories paths
      else match fs.makeDirectory path with
        | .ok made => made.makeDirectories paths
        | .error obstacle =>
            if fs.isDirectory path || obstacle == .cause .taken && !paths.isEmpty then
              fs.makeDirectories paths
            else (fs, .error obstacle)

/-- Opens the file at a path for writing, which empties it or makes it. -/
def openEmpty (fs : Files) (path : Text) : Except Obstacle (Place × Files) := do
  let p ← fs.find path
  match fs.entry? p with
  | some .directory => .error (.cause .isDirectory)
  | _ => fs.grant .write p (p, fs.put p (.file .empty))

/-- Opens a file for writing after making its directory. The directories that
are made stay, whether or not the file can be opened. -/
def prepare (fs : Files) (path : Text) : Files × Except Obstacle Place :=
  let (fs, made) := fs.makeDirectories (directories path)
  match made.bind fun _ => fs.openEmpty path with
  | .ok (p, fs) => (fs, .ok p)
  | .error obstacle => (fs, .error obstacle)

/-- What is written of some contents, and why no more. -/
def written (contents : ByteArray) : Option Interruption → ByteArray × Option Cause
  | none => (contents, none)
  | some i => (contents.extract 0 i.octets, some i.cause)

/-- Writes to a file that is open and empty. -/
def write (fs : Files) (p : Place) (contents : ByteArray) : Files × Option Cause :=
  let (contents, cause) := written contents (fs.interruption p contents)
  (fs.put p (.file contents), cause)

/-- Adds a file and the directories above it, if that is possible. -/
def add (fs : Files) (path : Text) (contents : ByteArray) : Files :=
  match fs.prepare path with
  | (prepared, .ok p) => prepared.put p (.file contents)
  | (_, .error _) => fs

/-- The files that are not in `old` or have other contents there. -/
def changedSince (fs old : Files) : List (Place × ByteArray) :=
  fs.entries.filterMap fun
    | (p, .file contents) =>
        match old.entry? p with
        | some (.file before) => if before == contents then none else some (p, contents)
        | _ => some (p, contents)
    | _ => none

end Files

end DeviceTypings
