import DeviceTypings.Yaml.Tag

namespace DeviceTypings.Yaml

/-!
# Graphs of nodes

The nodes of a document, each with a number. A collection holds the numbers of
its nodes, so that one node can stand in many places, and also inside itself.
-/

abbrev Pair := Nat × Nat

inductive Cell
  | scalar (tag : Tag) (text : Text)
  | sequence (tag : Tag) (items : List Nat)
  | mapping (tag : Tag) (pairs : List Pair)

def Cell.tag : Cell → Tag
  | scalar t _ => t
  | sequence t _ => t
  | mapping t _ => t

/-- A node that is not written at all. -/
def Cell.absent : Cell := scalar .null ""

structure Graph where
  cells : Array Cell := #[]

namespace Graph

def size (g : Graph) : Nat := g.cells.size

def get (g : Graph) (id : Nat) : Cell := g.cells.getD id .absent

/-- Adds a node, whose number is the size so far. -/
def add (g : Graph) (c : Cell) : Graph := ⟨g.cells.push c⟩

def set (g : Graph) (id : Nat) (c : Cell) : Graph := ⟨g.cells.setIfInBounds id c⟩

def tag (g : Graph) (id : Nat) : Tag := (g.get id).tag

def isMapping (g : Graph) (id : Nat) : Bool :=
  match g.get id with
  | .mapping _ _ => true
  | _ => false

/-- The pairs of a mapping. -/
def pairs (g : Graph) (id : Nat) : List Pair :=
  match g.get id with
  | .mapping _ ps => ps
  | _ => []

def setPairs (g : Graph) (id : Nat) (ps : List Pair) : Graph := g.set id (.mapping (g.tag id) ps)

/-- The number of items and pairs of all collections. -/
def linkCount (g : Graph) : Nat :=
  g.cells.foldl (fun n c =>
    match c with
    | .scalar _ _ => n
    | .sequence _ items => n + items.length
    | .mapping _ ps => n + ps.length) 0

end Graph

end DeviceTypings.Yaml
