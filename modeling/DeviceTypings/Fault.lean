import DeviceTypings.Value.Text

namespace DeviceTypings

/-!
# Faults

The ways in which building a document or compiling a schema can fail. The
wording of each is fixed here and nowhere else.
-/

/-- Why a part of a schema is malformed. The names in it are kinds of values
and of value spaces. -/
inductive Reason
  | notObject (found : Text)
  | notObjectOrArray (found : Text)
  | emptyParameter
  | missingValueSpace
  | missingType
  | notTypeName (found : Text)
  | missingValues (type : Text)
  | unknownType (type : Text)
  /-- A reason in the words of the caller. -/
  | stated (text : Text)
deriving DecidableEq

def Reason.text : Reason → Text
  | notObject found => "expected an object, got " ++ found
  | notObjectOrArray found => "expected an object or an array, got " ++ found
  | emptyParameter => "empty parameter description"
  | missingValueSpace => "command parameter without value space"
  | missingType => "value space without type"
  | notTypeName found => "expected a type name, got " ++ found
  | missingValues type => type ++ " value space without values"
  | unknownType type => "unknown value space type '" ++ type ++ "'"
  | stated text => text

inductive Fault
  /-- The name is declared already. -/
  | duplicate (name : Text)
  /-- The interface extends others that are not declared. -/
  | missingBases (name : Text) (missing : List Text)
  /-- The document has a main class already. -/
  | secondMain (name : Text)
  | notFound (what : Text)
  /-- The schema is malformed at the place that the keys of `path` lead to. -/
  | malformed (path : List Text) (reason : Reason)
  /-- A part of the schema is wanted as a text and has none, or has no end. -/
  | flawed (flaw : Value.Flaw)
deriving DecidableEq

namespace Fault

/-- The stable name of the kind of fault. -/
def kind : Fault → Text
  | duplicate _ => "duplicate-declaration"
  | missingBases _ _ => "missing-base"
  | secondMain _ => "single-instance-violation"
  | notFound _ => "not-found"
  | malformed _ _ => "schema-shape"
  | flawed _ => "no-text"

/-- A place in a schema; the empty path is the schema itself. -/
def location (path : List Text) : Text :=
  if path.isEmpty then "<schema>" else Text.intercalate "." path

def message : Fault → Text
  | duplicate name => "Interface already exists: " ++ name
  | missingBases name missing =>
      "Cannot add interface " ++ name ++ " due to missing interfaces: " ++
        Text.intercalate ", " missing
  | secondMain name => "Main class already defined, cannot add " ++ name
  | notFound what => "No " ++ what ++ " defined"
  | malformed path reason => "Invalid schema at " ++ location path ++ ": " ++ reason.text
  | flawed flaw => flaw.message

/-- The fault of a value that is not of the kind that its place wants. -/
def misplaced (path : List Text) (reason : Text → Reason) : Value → Fault
  | .endless => flawed .endless
  | v => malformed path (reason v.kind)

/-- The text of a value that has one. -/
def textOf (v : Value) : Except Fault Text :=
  match v.flaw? with
  | none => .ok v.toText
  | some flaw => .error (flawed flaw)

@[simp] theorem textOf_text (s : Text) : textOf (.text s) = .ok s := rfl

end Fault

end DeviceTypings
