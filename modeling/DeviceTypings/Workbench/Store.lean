import DeviceTypings.Workbench.Print

namespace DeviceTypings

/-!
# The workbench

A document under construction whose nodes are shared: a node that is attached
in two places is one node, and a change to it shows in both. Nodes are known by
their positions in a store that only grows.
-/

namespace Workbench

abbrev NodeId := Nat

/-- Fields that can be given another value. The names in use at the top level
and the import do not follow such a change. -/
inductive Change
  | name (s : Text)
  | type (id : NodeId)
  | required (b : Bool)
  | docstring (s : Option Text)
  | args (id : Option NodeId)
  | returnType (s : Text)
  | multiline (b : Bool)
  | bases (names : List Text)
  | base (s : Text)
  | withConnect (b : Bool)
  | withDefault (b : Bool)
  | source (s : Text)
  | imported (names : List Text)
  | library (s : Text)

namespace Change

/-- The name of the field, as messages give it. -/
def field : Change → Text
  | name _ => "name"
  | type _ => "type"
  | required _ => "required"
  | docstring _ => "docstring"
  | args _ => "args"
  | returnType _ => "return_type"
  | multiline _ => "multiline"
  | bases _ => "bases"
  | base _ => "base"
  | withConnect _ => "with_connect"
  | withDefault _ => "with_default"
  | source _ => "module"
  | imported _ => "names"
  | library _ => "lib_name"

/-- A field that the node does not have changes nothing. -/
def apply : Change → Shape NodeId → Shape NodeId
  | name n, .member _ t r d => .member n t r d
  | name n, .command _ a r d m => .command n a r d m
  | name n, .tree k _ cs => .tree k n cs
  | name n, .interface _ bs cs => .interface n bs cs
  | name n, .main _ b c d cs => .main n b c d cs
  | type t, .member n _ r d => .member n t r d
  | required r, .member n t _ d => .member n t r d
  | docstring d, .member n t r _ => .member n t r d
  | docstring d, .command n a r _ m => .command n a r d m
  | args a, .command n _ r d m => .command n a r d m
  | returnType r, .command n a _ d m => .command n a r d m
  | multiline m, .command n a r d _ => .command n a r d m
  | bases bs, .interface n _ cs => .interface n bs cs
  | base b, .main n _ c d cs => .main n b c d cs
  | withConnect c, .main n b _ d cs => .main n b c d cs
  | withDefault d, .main n b c _ cs => .main n b c d cs
  | source s, .imports i => .imports { i with source := s }
  | imported names, .imports i => .imports { i with names }
  | library l, .document _ cs => .document l cs
  | _, s => s

end Change

end Workbench

open Workbench in
/-- Position `0` is the document and position `1` its import. -/
structure Workbench where
  shapes : Array (Shape NodeId)
  registered : List (Text × NodeId) := []
  main : Option NodeId := none

namespace Workbench

def rootId : NodeId := 0

def importId : NodeId := 1

def empty (library : Text) : Workbench :=
  { shapes := #[.document library [importId],
      .imports { source := library, names := [defaultBaseName, connectGenerator] }] }

def shape (w : Workbench) (id : NodeId) : Shape NodeId := w.shapes.getD id .builtins

def name (w : Workbench) (id : NodeId) : Text := (w.shape id).name?.getD ""

/-- Adds a node that is not attached anywhere. -/
def add (w : Workbench) (s : Shape NodeId) : Workbench × NodeId :=
  ({ w with shapes := w.shapes.push s }, w.shapes.size)

def put (w : Workbench) (id : NodeId) (s : Shape NodeId) : Workbench :=
  { w with shapes := w.shapes.setIfInBounds id s }

def update (w : Workbench) (id : NodeId) (c : Change) : Workbench := w.put id (c.apply (w.shape id))

/-- Changes a field of a node. The fields of types cannot be changed. -/
def change (w : Workbench) (id : NodeId) (c : Change) : Except SketchFault Workbench :=
  if (w.shape id).isType then .error (.fixed c.field) else .ok (w.update id c)

/-- What is taken as a type where one is wanted: the type that a text or an
interface names, and anything else as it is. -/
def asType (w : Workbench) (id : NodeId) : Workbench × NodeId :=
  match w.shape id with
  | .foreign (.text s) => w.add (.plain s)
  | .interface name _ _ => w.add (.plain name)
  | _ => (w, id)

/-- Attaches nodes after the children that a node has. -/
def attach (w : Workbench) (id : NodeId) (children : List NodeId) : Workbench :=
  let s := w.shape id
  w.put id (s.withChildren (s.children ++ children))

def registeredNames (w : Workbench) : List Text := w.registered.map Prod.fst

def importedNames (w : Workbench) : List Text :=
  match w.shape importId with
  | .imports i => i.names
  | _ => []

/-- The name of the main class is looked up, since it may have changed. -/
def scope (w : Workbench) : Scope := ⟨w.registeredNames, w.main.map w.name⟩

def register (w : Workbench) (name : Text) (id : NodeId) : Workbench :=
  { w with registered := w.registered ++ [(name, id)] }

def interface? (w : Workbench) (name : Text) : Option NodeId := w.registered.lookup name

def getMain (w : Workbench) : Except Fault NodeId :=
  match w.main with
  | some id => .ok id
  | none => .error (.notFound "main class")

/-- Puts a node right after the import. -/
def attachFirst (w : Workbench) (id : NodeId) : Workbench :=
  let s := w.shape rootId
  w.put rootId (s.withChildren (s.children.take 1 ++ id :: s.children.drop 1))

/-! ## Operations -/

/-- What is done to a workbench. What was written before a fault came up stays written. -/
abbrev Operation (ε α : Type) := EStateM ε Workbench α

/-- Makes a node that is not attached anywhere. -/
def make {ε : Type} (s : Shape NodeId) : Operation ε NodeId :=
  modifyGet fun w => ((w.add s).2, (w.add s).1)

/-- Makes an interface and registers it. -/
def enroll {ε : Type} (name : Text) (bases : List Text) : Operation ε NodeId := do
  let id ← make (.interface name bases [])
  modify (·.register name id)
  return id

def requireFree (name : Text) : Operation Fault Unit := do
  if (← get).scope.declares name then throw (.duplicate name)

def addInterface (name : Text) (bases : List Text) : Operation Fault NodeId := do
  requireFree name
  let missing := (← get).scope.missing bases
  if missing ≠ [] then throw (.missingBases name missing)
  let id ← enroll name bases
  modify (·.attach rootId [id])
  return id

def addMain (name base : Text) (withConnect : Bool) : Operation Fault NodeId := do
  if (← get).main.isSome then throw (.secondMain name)
  requireFree name
  let id ← make (.main name base withConnect true [])
  modify fun w => { w with main := some id }
  modify (·.attach rootId [id])
  modify (·.update importId (.imported (base :: if withConnect then [connectGenerator] else [])))
  return id

/-- The builtin interfaces are registered without being children. -/
def addBuiltins : Operation Fault NodeId := do
  forM builtinNames requireFree
  forM builtinNames fun name => do discard (enroll name [])
  let id ← make .builtins
  modify (·.attachFirst id)
  return id

/-- Adds children to a container by an operation of the given name. -/
def extend (operation : Text) (id : NodeId) (children : List NodeId) :
    Operation SketchFault Unit := do
  let s := (← get).shape id
  if !s.isContainer then throw (.noPart s.kind operation)
  modify (·.attach id children)

/-! ## Sketches and listings -/

/-- The tree below a node, as deep as there are nodes. -/
def unfold (w : Workbench) : Nat → NodeId → Sketch
  | 0, _ => .of .builtins
  | fuel + 1, id => .of ((w.shape id).mapParts (w.unfold fuel))

def sketch (w : Workbench) (id : NodeId) : Sketch := w.unfold w.shapes.size id

/-- How a child of the document is listed: its kind and, if it has one, its
name. -/
def listing (w : Workbench) (id : NodeId) : Text :=
  let s := w.shape id
  match s.name? with
  | some name => s.label ++ ":" ++ name
  | none => s.label

def listings (w : Workbench) : List Text := (w.shape rootId).children.map w.listing

end Workbench

end DeviceTypings
