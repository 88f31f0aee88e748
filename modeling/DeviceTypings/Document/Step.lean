import DeviceTypings.Document.Basic

namespace DeviceTypings

/-!
# Building documents

A document is built by steps. Each step either does all of its work or fails
and leaves the document as it was.
-/

/-- Whose members a step extends. -/
inductive Owner
  | main
  | interface (name : Text)
deriving DecidableEq

/-- The members of the owner, or of the tree that the positions in `path` lead
to from there. -/
structure Place where
  owner : Owner
  path : List Nat := []
deriving DecidableEq

inductive Step
  | addInterface (name : Text) (bases : List Text)
  | addMain (name base : Text) (withConnect : Bool)
  | addBuiltins
  | extend (place : Place) (nodes : List Node)

namespace Owner

def describe : Owner → Text
  | main => "main class"
  | interface name => "interface " ++ name

/-- Applies `f` to the members of a declaration if it is the owner's. -/
def update? (f : List Node → Option (List Node)) : Owner → Declaration → Option Declaration
  | main, .main m => (f m.children).map fun children => .main { m with children }
  | interface name, .interface i =>
      if i.name = name then (f i.children).map fun children => .interface { i with children }
      else none
  | _, _ => none

/-- Applies `f` to the members of the owner's declaration. -/
def updateFirst? (o : Owner) (f : List Node → Option (List Node)) :
    List Declaration → Option (List Declaration)
  | [] => none
  | d :: ds =>
      match o.update? f d with
      | some d => some (d :: ds)
      | none => (o.updateFirst? f ds).map (d :: ·)

/-- A map of declarations that commutes with the update of one commutes with the update of
the owner's. -/
theorem updateFirst?_map {φ : Declaration → Declaration} {f g : List Node → Option (List Node)}
    {o : Owner} (h : ∀ x, o.update? g (φ x) = (o.update? f x).map φ) (xs : List Declaration) :
    o.updateFirst? g (xs.map φ) = (o.updateFirst? f xs).map (List.map φ) := by
  induction xs with
  | nil => rfl
  | cons x xs ih =>
      rw [List.map_cons, updateFirst?, updateFirst?, h, ih]
      cases o.update? f x with
      | some y => rfl
      | none => cases o.updateFirst? f xs <;> rfl

end Owner

namespace Document

def addInterface (d : Document) (name : Text) (bases : List Text) : Except Fault Document :=
  (d.scope.checkInterface name bases).map fun _ =>
    { d with
      declarations := d.declarations ++ [.interface { name, bases }]
      registered := d.registered ++ [name] }

/-- The import names the base class, and the connect generator if it is used. -/
def addMain (d : Document) (name base : Text) (withConnect : Bool) : Except Fault Document :=
  (d.scope.checkMain name).map fun _ =>
    { d with
      declarations := d.declarations ++ [.main { name, base, withConnect }]
      imports := { d.imports with
        names := base :: if withConnect then [connectGenerator] else [] } }

/-- The builtins come right after the import. -/
def addBuiltins (d : Document) : Except Fault Document :=
  d.scope.checkBuiltins.map fun _ =>
    { d with
      declarations := .builtins :: d.declarations
      registered := d.registered ++ builtinNames }

def extend (d : Document) (place : Place) (nodes : List Node) : Except Fault Document :=
  match place.owner.updateFirst? (extendNodes place.path nodes) d.declarations with
  | some declarations => .ok { d with declarations }
  | none => .error (.notFound place.owner.describe)

def step (d : Document) : Step → Except Fault Document
  | .addInterface name bases => d.addInterface name bases
  | .addMain name base withConnect => d.addMain name base withConnect
  | .addBuiltins => d.addBuiltins
  | .extend place nodes => d.extend place nodes

/-- Runs steps until one fails. -/
def steps : Document → List Step → Except Fault Document
  | d, [] => .ok d
  | d, s :: ss =>
      match d.step s with
      | .ok d => d.steps ss
      | .error e => .error e

/-- Runs all steps, passing over those that fail. -/
def tolerate (d : Document) (ss : List Step) : Document :=
  ss.foldl (fun d s => (d.step s).toOption.getD d) d

@[simp] theorem steps_nil (d : Document) : d.steps [] = .ok d := rfl

theorem steps_cons (d : Document) (s : Step) (ss : List Step) :
    d.steps (s :: ss) = (d.step s).bind (·.steps ss) := by
  rw [steps]
  cases d.step s <;> rfl

theorem steps_append (d : Document) (ss ts : List Step) :
    d.steps (ss ++ ts) = (d.steps ss).bind (·.steps ts) := by
  induction ss generalizing d with
  | nil => rfl
  | cons s ss ih =>
      rw [List.cons_append, steps_cons, steps_cons]
      cases d.step s with
      | error e => rfl
      | ok d => exact ih d

end Document

end DeviceTypings
