import DeviceTypings.Workbench.Shape

namespace DeviceTypings.Workbench

/-!
# Sketches of documents

The sketch of a document, which shows all of its nodes in one form.
-/

namespace Sketch

def ofType : TypeExpr → Sketch
  | .plain name => of (.plain name)
  | .literal v vs => of (.literal v vs)
  | .list element => of (.list (ofType element))
  | .generic wrapper interface => of (.generic wrapper interface)

mutual

def ofNode : Node → Sketch
  | .member m => of (.member m.name (ofType m.type) m.required m.docstring)
  | .command c => ofCommand c
  | .tree kind name children => of (.tree kind name (ofNodes children))
termination_by structural n => n

def ofCommand : CommandOf Node → Sketch
  | ⟨name, args, returnType, docstring, multiline⟩ =>
      of (.command name (ofArgs args) returnType docstring multiline)
termination_by structural c => c

def ofArgs : Option (InterfaceOf Node) → Option Sketch
  | none => none
  | some i => some (ofInterface i)
termination_by structural a => a

def ofInterface : InterfaceOf Node → Sketch
  | ⟨name, bases, children⟩ => of (.interface name bases (ofNodes children))
termination_by structural i => i

def ofNodes : List Node → List Sketch
  | [] => []
  | n :: ns => ofNode n :: ofNodes ns
termination_by structural ns => ns

end

def ofDeclaration : Declaration → Sketch
  | .interface i => ofInterface i
  | .main m => of (.main m.name m.base m.withConnect m.withDefault (ofNodes m.children))
  | .builtins => of .builtins

def ofDocument (d : Document) : Sketch :=
  of (.document d.library (of (.imports d.imports) :: d.declarations.map ofDeclaration))

end Sketch

end DeviceTypings.Workbench
