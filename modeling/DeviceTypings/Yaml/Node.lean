import DeviceTypings.Value.Misread
import DeviceTypings.Yaml.Graph
import DeviceTypings.Yaml.Lexer

namespace DeviceTypings.Yaml

/-!
# From tokens to nodes

A document is a graph of tagged nodes. An alias stands for the node with its
anchor itself, which may be a collection around it that is not complete yet.
-/

/-- What is left to read, the nodes so far, those that have an anchor, and the
handles of tags. -/
structure Reading where
  stream : Stream
  graph : Graph := {}
  anchors : List (Text × Nat) := []
  handles : List (Text × Text) := [("!", "!"), ("!!", Tag.core)]

abbrev Read := StateT Reading (Except Misread)

namespace Read

def refuse {α : Type} : Read α := throw .invalid

/-- The next token, which stays. -/
def peek : Read (Option Token) := fun s =>
  match s.stream.tokens, s.stream.ending with
  | [], some e => .error e
  | ts, _ => .ok (ts.head?, s)

def skip : Read Unit :=
  modify fun s => { s with stream := { s.stream with tokens := s.stream.tokens.drop 1 } }

/-- The full name of a tag. A single exclamation mark is no name: it says that
the form tells the type. -/
def tagName (t : WrittenTag) : Read (Option Text) := do
  let name ← match t.handle with
    | none => pure t.suffix
    | some h =>
        match (← get).handles.lookup h with
        | some expansion => pure (expansion ++ t.suffix)
        | none => refuse
  return if name == "!" then none else some name

/-- The name of an anchor must be new. -/
def checkAnchor : Option Text → Read Unit
  | none => pure ()
  | some name => do if ((← get).anchors.lookup name).isSome then refuse

/-- Adds a node under its anchor. -/
def create (anchor : Option Text) (c : Cell) : Read Nat := do
  let s ← get
  let id := s.graph.size
  set { s with
    graph := s.graph.add c
    anchors := match anchor with
      | some name => (name, id) :: s.anchors
      | none => s.anchors }
  return id

/-- Gives a collection its nodes. -/
def fill (id : Nat) (c : Cell) : Read Nat := do
  modify fun s => { s with graph := s.graph.set id c }
  return id

def absent : Read Nat := create none .absent

def aliased (name : Text) : Read Nat := do
  match (← get).anchors.lookup name with
  | some id => return id
  | none => refuse

end Read

/-- The anchor and the tag of a node, in either order. -/
structure Properties where
  anchor : Option Text := none
  tag : Option WrittenTag := none

def properties : Read Properties := do
  match ← Read.peek with
  | some (.anchor name) =>
      Read.skip
      match ← Read.peek with
      | some (.tag t) =>
          Read.skip
          return ⟨some name, some t⟩
      | _ => return ⟨some name, none⟩
  | some (.tag t) =>
      Read.skip
      match ← Read.peek with
      | some (.anchor name) =>
          Read.skip
          return ⟨some name, some t⟩
      | _ => return ⟨none, some t⟩
  | _ => return {}

/-- The tag that a written name gives, and otherwise `default`. -/
def tagOr (name : Option Text) (default : Tag) : Tag :=
  match name with
  | some name => Tag.ofName name
  | none => default

/-- The tokens that show that a node is left out. -/
def Token.endsBlockItem : Option Token → Bool
  | some .item => true
  | some .blockEnd => true
  | _ => false

def Token.endsBlockPart : Option Token → Bool
  | some .key => true
  | some .value => true
  | some .blockEnd => true
  | _ => false

def Token.endsFlowItem : Option Token → Bool
  | some .separator => true
  | some .flowSequenceEnd => true
  | _ => false

def Token.endsFlowPart : Option Token → Bool
  | some .separator => true
  | some .flowMappingEnd => true
  | _ => false

def Token.isValue : Option Token → Bool
  | some .value => true
  | _ => false

/-- Where a node stands: inside a flow collection, in a block collection, or in
a mapping, where a sequence needs no indentation of its own. -/
inductive Position
  | flow
  | block
  | blockPart
deriving DecidableEq

mutual

/-- One node. -/
def node (position : Position) : Nat → Read Nat
  | 0 => Read.refuse
  | fuel + 1 => do
      match ← Read.peek with
      | some (.reference name) =>
          Read.skip
          Read.aliased name
      | _ =>
          let p ← properties
          let name ← match p.tag with
            | some t => Read.tagName t
            | none => pure none
          content position p name fuel

/-- A node after its properties, `name` being the name of its tag. -/
def content (position : Position) (p : Properties) (name : Option Text) : Nat → Read Nat
  | 0 => Read.refuse
  | fuel + 1 => do
      let t ← Read.peek
      Read.checkAnchor p.anchor
      match t, position with
      | some .item, .blockPart =>
          let tag := tagOr name .seq
          let id ← Read.create p.anchor (.sequence tag [])
          Read.fill id (.sequence tag (← looseItems fuel))
      | some (.scalar text isPlain), _ =>
          Read.skip
          let default := if isPlain || p.tag.isSome then formTag text else .str
          Read.create p.anchor (.scalar (tagOr name default) text)
      | some .flowSequenceStart, _ =>
          Read.skip
          let tag := tagOr name .seq
          let id ← Read.create p.anchor (.sequence tag [])
          Read.fill id (.sequence tag (← flowItems true fuel))
      | some .flowMappingStart, _ =>
          Read.skip
          let tag := tagOr name .map
          let id ← Read.create p.anchor (.mapping tag [])
          Read.fill id (.mapping tag (← flowPairs true fuel))
      | some .sequenceStart, .flow => Read.refuse
      | some .mappingStart, .flow => Read.refuse
      | some .sequenceStart, _ =>
          Read.skip
          let tag := tagOr name .seq
          let id ← Read.create p.anchor (.sequence tag [])
          Read.fill id (.sequence tag (← blockItems fuel))
      | some .mappingStart, _ =>
          Read.skip
          let tag := tagOr name .map
          let id ← Read.create p.anchor (.mapping tag [])
          Read.fill id (.mapping tag (← blockPairs fuel))
      | _, _ =>
          if p.anchor.isSome || p.tag.isSome then
            Read.create p.anchor (.scalar (tagOr name .null) "")
          else Read.refuse

/-- The items of a block sequence, up to its end. -/
def blockItems : Nat → Read (List Nat)
  | 0 => Read.refuse
  | fuel + 1 => do
      match ← Read.peek with
      | some .item =>
          Read.skip
          let n ← if Token.endsBlockItem (← Read.peek) then Read.absent else node .block fuel
          return n :: (← blockItems fuel)
      | some .blockEnd =>
          Read.skip
          return []
      | _ => Read.refuse

/-- The items of a sequence that is not indented, up to what cannot be one. -/
def looseItems : Nat → Read (List Nat)
  | 0 => Read.refuse
  | fuel + 1 => do
      match ← Read.peek with
      | some .item =>
          Read.skip
          let t ← Read.peek
          let n ← if Token.endsBlockItem t || Token.endsBlockPart t then Read.absent
            else node .block fuel
          return n :: (← looseItems fuel)
      | _ => return []

/-- A key or value of a block mapping, unless it is left out. -/
def blockPart : Nat → Read Nat
  | 0 => Read.refuse
  | fuel + 1 => do
      if Token.endsBlockPart (← Read.peek) then Read.absent else node .blockPart fuel

/-- The pairs of a block mapping, up to its end. -/
def blockPairs : Nat → Read (List Pair)
  | 0 => Read.refuse
  | fuel + 1 => do
      match ← Read.peek with
      | some .key =>
          Read.skip
          let k ← blockPart fuel
          let v ← if Token.isValue (← Read.peek) then do
              Read.skip
              blockPart fuel
            else Read.absent
          return (k, v) :: (← blockPairs fuel)
      | some .blockEnd =>
          Read.skip
          return []
      | _ => Read.refuse

/-- The items of a flow sequence. A pair among them is a mapping of its own. -/
def flowItems (isFirst : Bool) : Nat → Read (List Nat)
  | 0 => Read.refuse
  | fuel + 1 => do
      let separated ← match ← Read.peek with
        | some .separator => do
            if !isFirst then Read.skip
            pure true
        | _ => pure isFirst
      match ← Read.peek with
      | some .flowSequenceEnd =>
          Read.skip
          return []
      | t =>
          if !separated then Read.refuse
          else match t with
            | some .key =>
                let id ← Read.create none (.mapping .map [])
                Read.skip
                let t ← Read.peek
                let k ← if Token.isValue t || Token.endsFlowItem t then Read.absent
                  else node .flow fuel
                let v ← if Token.isValue (← Read.peek) then do
                    Read.skip
                    if Token.endsFlowItem (← Read.peek) then Read.absent else node .flow fuel
                  else Read.absent
                let n ← Read.fill id (.mapping .map [(k, v)])
                return n :: (← flowItems false fuel)
            | _ =>
                let n ← node .flow fuel
                return n :: (← flowItems false fuel)

/-- The pairs of a flow mapping. A key without a value has none. -/
def flowPairs (isFirst : Bool) : Nat → Read (List Pair)
  | 0 => Read.refuse
  | fuel + 1 => do
      let separated ← match ← Read.peek with
        | some .separator => do
            if !isFirst then Read.skip
            pure true
        | _ => pure isFirst
      match ← Read.peek with
      | some .flowMappingEnd =>
          Read.skip
          return []
      | t =>
          if !separated then Read.refuse
          else match t with
            | some .key =>
                Read.skip
                let t ← Read.peek
                let k ← if Token.isValue t || Token.endsFlowPart t then Read.absent
                  else node .flow fuel
                let v ← if Token.isValue (← Read.peek) then do
                    Read.skip
                    if Token.endsFlowPart (← Read.peek) then Read.absent else node .flow fuel
                  else Read.absent
                return (k, v) :: (← flowPairs false fuel)
            | _ =>
                let k ← node .flow fuel
                let v ← Read.absent
                return (k, v) :: (← flowPairs false fuel)

end

/-- Reads the directives before a document. There is at most one version, whose
first part is one, and one tag directive for a handle. -/
def directives : Nat → Bool → List (Text × Text) → Read (List (Text × Text))
  | 0, _, _ => Read.refuse
  | fuel + 1, hasVersion, handles => do
      match ← Read.peek with
      | some (.directive d) =>
          Read.skip
          match d with
          | .version major _ =>
              if hasVersion || major != 1 then Read.refuse else directives fuel true handles
          | .tag handle expansion =>
              if (handles.lookup handle).isSome then Read.refuse
              else directives fuel hasVersion ((handle, expansion) :: handles)
          | .reserved => directives fuel hasVersion handles
      | _ => return handles

def skipDocumentEnds : Nat → Read Unit
  | 0 => pure ()
  | fuel + 1 => do
      match ← Read.peek with
      | some .documentEnd =>
          Read.skip
          skipDocumentEnds fuel
      | _ => pure ()

def endsDocument : Option Token → Bool
  | none => true
  | some (.directive _) => true
  | some .documentStart => true
  | some .documentEnd => true
  | _ => false

/-- The only document of a text, if the text is not empty. A document without a
marker cannot have directives. -/
def onlyDocument (fuel : Nat) : Read (Option Nat) := do
  let first ← Read.peek
  let startsAtOnce := match first with
    | none => false
    | some (.directive _) => false
    | some .documentStart => false
    | _ => true
  if first.isNone then return none
  let n ← if startsAtOnce then node .block fuel
    else do
      let handles ← directives fuel false []
      match ← Read.peek with
      | some .documentStart =>
          Read.skip
          modify fun s => { s with handles := handles ++ s.handles }
          if endsDocument (← Read.peek) then Read.absent else node .block fuel
      | _ => Read.refuse
  skipDocumentEnds fuel
  if (← Read.peek).isSome then
    let _ ← directives fuel false []
    Read.refuse
  else return some n

/-- A graph with the node that is the whole document. -/
structure RootedGraph where
  graph : Graph
  root : Nat

/-- The document of a text, if the text is not empty. -/
def RootedGraph.ofStream? (s : Stream) : Except Misread (Option RootedGraph) :=
  ((onlyDocument (3 * s.tokens.length + 3)).run { stream := s }).map fun (root, r) =>
    root.map fun root => ⟨r.graph, root⟩

end DeviceTypings.Yaml
