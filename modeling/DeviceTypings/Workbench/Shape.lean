import DeviceTypings.Document.Basic
import DeviceTypings.Value.Text

namespace DeviceTypings.Workbench

/-!
# Shapes

One layer of a node or type: its fields, with its parts given in some other
form. With positions in a store for parts it is a node that can be shared and
changed; with sketches for parts it is a whole tree. Sketches come from outside,
so anything may stand where a type or a node is wanted, also a value that is
neither.
-/

inductive Shape (κ : Type)
  | plain (name : Text)
  | literal (value : Text) (others : List Text)
  | list (element : κ)
  | generic (wrapper interface : Text)
  | member (name : Text) (type : κ) (required : Bool) (docstring : Option Text)
  | command (name : Text) (args : Option κ) (returnType : Text) (docstring : Option Text)
      (multiline : Bool)
  | tree (kind : TreeKind) (name : Text) (children : List κ)
  | interface (name : Text) (bases : List Text) (children : List κ)
  | main (name base : Text) (withConnect withDefault : Bool) (children : List κ)
  | imports (i : ImportStatement)
  | builtins
  | document (library : Text) (children : List κ)
  | foreign (v : Value)

inductive Sketch
  | of (shape : Shape Sketch)

/-- Why something cannot be done with a sketch. -/
inductive SketchFault
  | emptyLiteral
  /-- What is of this kind is no node. -/
  | notNode (kind : Text)
  /-- What is of this kind is no type. -/
  | notType (kind : Text)
  /-- A child that cannot be part of a body. -/
  | notInBody
  /-- What is of this kind has no part of this name. -/
  | noPart (kind name : Text)
  /-- Types cannot be changed. -/
  | fixed (field : Text)
deriving DecidableEq

namespace SketchFault

def message : SketchFault → Text
  | emptyLiteral => "A literal type needs at least one value."
  | notNode kind => "Cannot render node of type " ++ kind ++ "."
  | notType kind => "Cannot render type of type " ++ kind ++ "."
  | notInBody => "list index out of range"
  | noPart kind name => "'" ++ kind ++ "' object has no attribute '" ++ name ++ "'"
  | fixed field => "cannot assign to field '" ++ field ++ "'"

end SketchFault

namespace Shape

variable {κ ι : Type}

def literalOf (values : List Text) : Except SketchFault (Shape κ) :=
  match values with
  | [] => .error .emptyLiteral
  | v :: vs => .ok (literal v vs)

/-- The short name of what a shape is. -/
def label : Shape κ → Text
  | plain _ => "plain"
  | literal .. => "literal"
  | list _ => "list"
  | generic .. => "generic"
  | member .. => "member"
  | command .. => "command"
  | tree .object .. => "tree"
  | tree .collection .. => "array_tree"
  | interface .. => "interface"
  | main .. => "main"
  | imports _ => "import"
  | builtins => "builtins"
  | document .. => "root"
  | foreign _ => "foreign"

/-- The name of what a shape is, as messages give it. -/
def kind : Shape κ → Text
  | plain _ => "Plain"
  | literal .. => "Literal"
  | list _ => "List"
  | generic .. => "Generic"
  | member .. => "Member"
  | command .. => "Command"
  | tree .object .. => "Tree"
  | tree .collection .. => "ArrayTree"
  | interface .. => "Interface"
  | main .. => "MainClass"
  | imports _ => "ImportStatement"
  | builtins => "Builtins"
  | document .. => "Root"
  | foreign v => v.kind

def isType : Shape κ → Bool
  | plain _ => true
  | literal .. => true
  | list _ => true
  | generic .. => true
  | _ => false

def name? : Shape κ → Option Text
  | member name .. => some name
  | command name .. => some name
  | tree _ name _ => some name
  | interface name .. => some name
  | main name .. => some name
  | _ => none

def children : Shape κ → List κ
  | tree _ _ cs => cs
  | interface _ _ cs => cs
  | main _ _ _ _ cs => cs
  | document _ cs => cs
  | _ => []

/-- Whether children can be added. -/
def isContainer : Shape κ → Bool
  | tree .. => true
  | interface .. => true
  | main .. => true
  | _ => false

/-- Replaces the children of a shape that can have any. -/
def withChildren (cs : List κ) : Shape κ → Shape κ
  | tree kind name _ => tree kind name cs
  | interface name bases _ => interface name bases cs
  | main name base connect default _ => main name base connect default cs
  | document library _ => document library cs
  | s => s

def mapParts (f : κ → ι) : Shape κ → Shape ι
  | plain name => plain name
  | literal v vs => literal v vs
  | list element => list (f element)
  | generic wrapper i => generic wrapper i
  | member name type required docstring => member name (f type) required docstring
  | command name args returnType docstring multiline =>
      command name (args.map f) returnType docstring multiline
  | tree kind name cs => tree kind name (cs.map f)
  | interface name bases cs => interface name bases (cs.map f)
  | main name base connect default cs => main name base connect default (cs.map f)
  | imports i => imports i
  | builtins => builtins
  | document library cs => document library (cs.map f)
  | foreign v => foreign v

/-- Whether a node is an optional field. -/
def isOptional : Shape κ → Bool
  | member _ _ required _ => !required
  | _ => false

end Shape

namespace Sketch

def shape : Sketch → Shape Sketch
  | of s => s

def label (s : Sketch) : Text := s.shape.label

/-- Whether the arguments of a command may be left out. -/
def argsOptional (s : Sketch) : Except SketchFault Bool :=
  match s.shape with
  | .command _ (some args) _ _ multiline =>
      .ok (!multiline && args.shape.children.all (·.shape.isOptional))
  | .command .. => .ok false
  | t => .error (.noPart t.kind "optional_args")

end Sketch

end DeviceTypings.Workbench
