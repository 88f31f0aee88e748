import DeviceTypings.Schema.Compile

namespace DeviceTypings.CommandLine

/-!
# Flags

The options of the command line, their names, and what they set.
-/

structure Arguments where
  schema : Text := ""
  output : Text := ""
  library : Text := defaultLibrary
  className : Text := defaultMainName
  base : Text := defaultBaseName
  withConnect : Bool := true
  format : Bool := false
  verbose : Bool := false
deriving DecidableEq

inductive Flag
  | help
  | output
  | library
  | className
  | base
  | noConnect
  | format
  | verbose
deriving DecidableEq

namespace Flag

def all : List Flag := [help, output, library, className, base, noConnect, format, verbose]

/-- The names of a flag, the short one first. -/
def names : Flag → List Text
  | help => ["-h", "--help"]
  | output => ["-o", "--output"]
  | library => ["--xapi-import"]
  | className => ["--class-name"]
  | base => ["--base"]
  | noConnect => ["--no-connect"]
  | format => ["--format"]
  | verbose => ["-v", "--verbose"]

def takesValue : Flag → Bool
  | output => true
  | library => true
  | className => true
  | base => true
  | _ => false

/-- How messages call a flag. -/
def title (f : Flag) : Text := Text.intercalate "/" f.names

/-- Applies a flag. A flag without a value ignores it. -/
def apply (f : Flag) (value : Text) (a : Arguments) : Arguments :=
  match f with
  | help => a
  | output => { a with output := value }
  | library => { a with library := value }
  | className => { a with className := value }
  | base => { a with base := value }
  | noConnect => { a with withConnect := false }
  | format => { a with format := true }
  | verbose => { a with verbose := true }

/-- All names with their flags, in order. -/
def table : List (Text × Flag) := all.flatMap fun f => f.names.map (·, f)

def ofName? (name : Text) : Option Flag := table.lookup name

theorem ofName?_of_mem {f : Flag} {name : Text} (h : name ∈ f.names) :
    ofName? name = some f := by
  cases f <;> simp only [names, List.mem_cons, List.not_mem_nil, or_false] at h <;>
    rcases h with rfl | rfl <;> decide

end Flag

namespace Arguments

def options (a : Arguments) : Schema.Options :=
  { library := a.library, className := a.className, base := a.base, withConnect := a.withConnect }

end Arguments

end DeviceTypings.CommandLine
