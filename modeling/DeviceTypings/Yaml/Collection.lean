import DeviceTypings.Value.Object
import DeviceTypings.Yaml.Content
import DeviceTypings.Yaml.Merge

namespace DeviceTypings.Yaml

/-!
# The objects of a graph

Every node becomes one object. Scalars are read when they are met. Collections
wait for their turn in the order in which they are met, so that of two faults
the one that is less deep comes first.
-/

/-- A key with what tells it from others: two keys that are not numbers are the
same only if they are one node, or if both are the word for that. -/
structure Key where
  value : Value
  node : Option Nat

def Key.same (a b : Key) : Bool := a.node == b.node || a.value.sameKey b.value

/-- Gives a key a part. A key that is there already keeps its place. -/
def insertEntry (key : Key) (part : Nat) : List (Key × Nat) → List (Key × Nat)
  | [] => [(key, part)]
  | (k, i) :: es => if k.same key then (k, part) :: es else (k, i) :: insertEntry key part es

def integer? : Value → Option Int
  | .int i => some i
  | _ => none

/-- The members of a set in order. Integers ascend, and other members keep the
order in which they are written. -/
def ordered (members : List Value) : List Value :=
  match members.mapM integer? with
  | some numbers => (numbers.mergeSort fun i j => i ≤ j).map .int
  | none => members

/-- The objects of the nodes that have been met, followed by those of no node.
A collection stands in the queue and is empty until its turn has come. -/
structure Building where
  graph : Graph
  objects : Array (Option Object)
  queue : Array Nat := #[]
  /-- A bound for the depth of merging. -/
  fuel : Nat

abbrev Build := StateT Building (Except Misread)

namespace Build

def refuse {α : Type} : Build α := throw .invalid

def setObject (id : Nat) (o : Object) : Build Unit :=
  modify fun s => { s with objects := s.objects.setIfInBounds id (some o) }

/-- Adds an object that belongs to no node. -/
def addObject (o : Object) : Build Nat := do
  let s ← get
  set { s with objects := s.objects.push (some o) }
  return s.objects.size

def enqueue (id : Nat) (o : Object) : Build Unit := do
  setObject id o
  modify fun s => { s with queue := s.queue.push id }

/-- The text of a node in the place of a scalar. For a mapping that is the one
under its value key. A chain of more mappings than there are has no end. -/
def text (g : Graph) : Nat → Nat → Except Misread Text
  | 0, _ => .error (.defect .endless)
  | fuel + 1, id =>
      match g.get id with
      | .scalar _ text => .ok text
      | .sequence _ _ => .error .invalid
      | .mapping _ ps =>
          match ps.find? fun p => g.tag p.1 == .value with
          | some (_, v) => text g fuel v
          | none => .error .invalid

/-- The value of a node as a scalar. A mapping has no timestamp of its own. -/
def scalar (g : Graph) (id : Nat) : Except Misread Value :=
  match g.tag id with
  | .unknown => .error .invalid
  | .merge => .error .invalid
  | .value => .error .invalid
  | tag => do
      let text ← text g (g.size + 1) id
      if tag == .timestamp && g.isMapping id then throw (.defect .timestampMapping)
      scalarOf tag text

/-- Meets a node. -/
def visit (id : Nat) : Build Unit := do
  let s ← get
  if (s.objects.getD id none).isSome then return ()
  else match s.graph.tag id with
    | .seq => enqueue id (.list [])
    | .omap => enqueue id (.list [])
    | .pairs => enqueue id (.list [])
    | .map => enqueue id (.map [])
    | .set => enqueue id (.map [])
    | _ => do
        let v ← liftM (scalar s.graph id)
        setObject id (.settled v)

/-- Meets a node that is a key. Collections cannot be keys. -/
def visitKey (id : Nat) : Build Key := do
  visit id
  let s ← get
  match s.objects.getD id none with
  | some (.settled (.set _)) => refuse
  | some (.settled (.float .nan)) => do
      let word ← liftM (text s.graph (s.graph.size + 1) id)
      return ⟨.float .nan, if isNanWord word then none else some id⟩
  | some (.settled v) => return ⟨v, some id⟩
  | _ => refuse

def visitPairs : List Pair → List (Key × Nat) → Build (List (Key × Nat))
  | [], es => return es
  | (k, v) :: ps, es => do
      let key ← visitKey k
      visit v
      visitPairs ps (insertEntry key v es)

/-- The entries of a mapping after merging. -/
def entries (id : Nat) : Build (List (Key × Nat)) := do
  let s ← get
  let g ← liftM (merge s.fuel id s.graph)
  set { s with graph := g }
  visitPairs (g.pairs id) []

/-- The object of a mapping of one pair: its key and its value. -/
def singlePair (id : Nat) : Build Nat := do
  match (← get).graph.get id with
  | .mapping _ [(k, v)] =>
      visit k
      visit v
      addObject (.tuple [k, v])
  | _ => refuse

/-- Fills a collection whose turn has come. -/
def fill (id : Nat) : Build Unit := do
  match (← get).graph.get id with
  | .sequence .seq items =>
      items.forM visit
      setObject id (.list items)
  | .sequence .omap items => setObject id (.list (← items.mapM singlePair))
  | .sequence .pairs items => setObject id (.list (← items.mapM singlePair))
  | .mapping .map _ =>
      let es ← entries id
      setObject id (.map (es.map fun (k, i) => (k.value, i)))
  | .mapping .set _ =>
      let es ← entries id
      setObject id (.settled (.set (ordered (es.map fun (k, _) => k.value))))
  | _ => refuse

/-- Fills the collections of the queue from a position on. -/
def run : Nat → Nat → Build Unit
  | 0, _ => pure ()
  | fuel + 1, i => do
      match (← get).queue[i]? with
      | none => return ()
      | some id =>
          fill id
          run fuel (i + 1)

end Build

/-- Fills everything below a node. Every node is enqueued once at most. -/
def Build.all (root : Nat) : Build Unit := do
  visit root
  run ((← get).graph.size + 1) 0

/-- The value of a node of a graph. -/
def Graph.value (g : Graph) (root : Nat) : Except Misread Value :=
  let start : Building :=
    { graph := g, objects := Array.replicate g.size none, fuel := mergeFuel g }
  (StateT.run (Build.all root) start).map fun (_, s) =>
    Objects.value (s.objects.map fun o => o.getD (.settled .null)) root

end DeviceTypings.Yaml
