import DeviceTypings.TypeExpr

namespace DeviceTypings

/-!
# Members of interfaces

What an interface or object type holds: fields, callable commands and nested
trees. A command may take its arguments as an interface, which in turn has
members, so interfaces are defined over the type of their members.
-/

/-- A named field. -/
structure Member where
  name : Text
  type : TypeExpr
  required : Bool := true
  docstring : Option Text := none

/-- An interface whose members are of the type `ν`. -/
structure InterfaceOf (ν : Type) where
  name : Text
  bases : List Text := []
  children : List ν := []

/-- A callable command. Its answer has the type `returnType` unless the caller
asks for another; `multiline` commands take a text body after their arguments. -/
structure CommandOf (ν : Type) where
  name : Text
  args : Option (InterfaceOf ν) := none
  returnType : Text := "any"
  docstring : Option Text := none
  multiline : Bool := false

/-- Whether a tree comes from an object of the schema or from a keyed array.
Both are written the same way. -/
inductive TreeKind
  | object
  | collection
deriving DecidableEq

inductive Node
  | member (m : Member)
  | command (c : CommandOf Node)
  | tree (kind : TreeKind) (name : Text) (children : List Node)

abbrev Interface := InterfaceOf Node

abbrev Command := CommandOf Node

namespace Node

def name : Node → Text
  | member m => m.name
  | command c => c.name
  | tree _ name _ => name

def children : Node → List Node
  | tree _ _ children => children
  | _ => []

def isOptional : Node → Bool
  | member m => !m.required
  | _ => false

@[simp] theorem name_member (m : Member) : (member m).name = m.name := rfl

@[simp] theorem name_command (c : Command) : (command c).name = c.name := rfl

@[simp] theorem name_tree (k : TreeKind) (n : Text) (cs : List Node) :
    (tree k n cs).name = n := rfl

end Node

/-- Appends to a list of members, or to the tree below it that the positions
in `path` lead to. -/
def extendNodes : List Nat → List Node → List Node → Option (List Node)
  | [], new, ns => some (ns ++ new)
  | i :: path, new, ns =>
      match ns[i]? with
      | some (.tree k n cs) => (extendNodes path new cs).map fun cs => ns.set i (.tree k n cs)
      | _ => none

@[simp] theorem extendNodes_nil (new ns : List Node) : extendNodes [] new ns = some (ns ++ new) :=
  rfl

namespace CommandOf

/-- The arguments may be left out if every member of their interface is
optional, unless a body follows them. -/
def argsOptional (c : Command) : Bool :=
  match c.args with
  | some i => !c.multiline && i.children.all Node.isOptional
  | none => false

end CommandOf

end DeviceTypings
