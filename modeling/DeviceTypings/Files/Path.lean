import DeviceTypings.Text.Basic

namespace DeviceTypings.Files

/-!
# Paths

A path is a text with slashes, and the system knows it by its octets. Every slash demands a
directory on its left, so an empty part and a dot both stay where they are and two dots go up.
-/

/-! ## Texts of paths -/

def isAbsolute (path : Text) : Bool := path.toList.head? == some (.char '/')

/-- A path as seen from a directory. An absolute path stays as it is. -/
def join (directory path : Text) : Text :=
  if isAbsolute path then path
  else if directory = "" ∨ directory.toList.getLast? = some (.char '/') then directory ++ path
  else directory ++ "/" ++ path

/-- The directory of a path: all that stands before its last slashes. -/
def directoryOf (path : Text) : Text :=
  Text.ofList ((path.toList.reverse.dropWhile (· != CodePoint.char '/')).dropWhile
    (· == CodePoint.char '/')).reverse

/-- The beginnings of a path that end with one of its names, the shortest first. -/
def beginnings : List CodePoint → List (List CodePoint)
  | [] => []
  | c :: r =>
      let longer := (beginnings r).map (c :: ·)
      if c != .char '/' && r.head?.all (· == .char '/') then [c] :: longer else longer

/-- The directories that a path leads through, the topmost first. -/
def directories (path : Text) : List Text :=
  (beginnings (directoryOf path).toList).map Text.ofList

/-! ## Octets of paths -/

/-- A name or a path as the system knows it. -/
abbrev Octets := List UInt8

/-- The octets of a code point. A surrogate above `0xDC80` stands for one octet that belongs to no
character, and any other surrogate for none. -/
def octetsOf? : CodePoint → Option Octets
  | .char c => some (String.utf8EncodeChar c)
  | .surrogate n =>
      if 0x480 ≤ n.val ∧ n.val < 0x500 then some [UInt8.ofNat (n.val - 0x400)] else none

def octets? (path : Text) : Option Octets := (path.toList.mapM octetsOf?).map List.flatten

/-- The parts of a path between slashes. -/
def slashParts : Octets → List Octets
  | [] => [[]]
  | o :: r =>
      if o = 0x2F then [] :: slashParts r
      else match slashParts r with
        | [] => [[o]]
        | p :: ps => (o :: p) :: ps

inductive Part
  | here
  | up
  | name (s : Octets)
deriving DecidableEq

def Part.of : Octets → Part
  | [] => .here
  | [0x2E] => .here
  | [0x2E, 0x2E] => .up
  | s => .name s

def parts (path : Octets) : List Part := (slashParts path).map Part.of

end DeviceTypings.Files
