import DeviceTypings.Render.Document
import DeviceTypings.Workbench.Shape

namespace DeviceTypings.Workbench

/-!
# Printing sketches

A sketch prints as the node or type that it sketches. What stands in the place
of a type or a node and is none is a fault, of which the first in printing order
counts.
-/

namespace Sketch

/-- The optional fields among the arguments of a command decide whether the
arguments may be left out. Nothing else of them shows in its signature. -/
def argument (s : Sketch) : Node :=
  .member { name := "", type := .plain "", required := !s.shape.isOptional }

/-- The interface that a command takes its arguments as. -/
def arguments (s : Sketch) : Interface :=
  { name := s.shape.name?.getD "", children := s.shape.children.map argument }

mutual

/-- The type that a sketch stands for. -/
def type : Sketch → Except SketchFault TypeExpr
  | of s => shapeType s
termination_by structural s => s

def shapeType : Shape Sketch → Except SketchFault TypeExpr
  | .plain name => .ok (.plain name)
  | .literal v vs => .ok (.literal v vs)
  | .list element => (type element).map TypeExpr.list
  | .generic wrapper interface => .ok (.generic wrapper interface)
  | s => .error (.notType s.kind)
termination_by structural s => s

end

mutual

/-- The member of an interface that a sketch stands for. -/
def node : Sketch → Except SketchFault Node
  | of s => shapeNode s
termination_by structural s => s

def shapeNode : Shape Sketch → Except SketchFault Node
  | .member name t required docstring =>
      (type t).map fun type => .member { name, type, required, docstring }
  | .command name args returnType docstring multiline =>
      .ok (.command { name, args := args.map arguments, returnType, docstring, multiline })
  | .tree kind name cs => (nodes cs).map (.tree kind name)
  | _ => .error .notInBody
termination_by structural s => s

def nodes : List Sketch → Except SketchFault (List Node)
  | [] => .ok []
  | s :: ss => do
      let n ← node s
      let ns ← nodes ss
      return n :: ns
termination_by structural ss => ss

end

def declaration (s : Sketch) : Except SketchFault Declaration :=
  match s.shape with
  | .interface name bases cs =>
      (nodes cs).map fun children => .interface { name, bases, children }
  | .main name base withConnect withDefault cs =>
      (nodes cs).map fun children => .main { name, base, withConnect, withDefault, children }
  | .builtins => .ok .builtins
  | s => .error (.notNode s.kind)

def isMain (s : Sketch) : Bool :=
  match s.shape with
  | .main .. => true
  | _ => false

/-- A document whose first child is its import. -/
def document (library : Text) : List Sketch → Except SketchFault Document
  | of (.imports imports) :: ss => do
      let others ← (ss.filter (!·.isMain)).mapM declaration
      let mains ← (ss.filter (·.isMain)).mapM declaration
      return { library, imports, declarations := others ++ mains }
  | _ => .ok { library }

def print (s : Sketch) : Except SketchFault Text :=
  match s.shape with
  | .imports i => .ok i.render
  | .document library cs => (document library cs).map Document.render
  | .member .. => s.node.map Node.render
  | .command .. => s.node.map Node.render
  | .tree .. => s.node.map Node.render
  | t => if t.isType then s.type.map TypeExpr.render else s.declaration.map Declaration.render

end Sketch

end DeviceTypings.Workbench
