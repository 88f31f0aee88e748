import DeviceTypings.Schema.Script
import DeviceTypings.Schema.ValueSpace

namespace DeviceTypings.Schema

/-!
# The outline of a family

Below a family, objects and arrays describe commands, leaves, trees and keyed
arrays. Each becomes a member of the interface of its family. The arguments of
a command become an interface of their own, declared before they are read.
-/

def misplaced {α : Type} (path : List Text) (reason : Text → Reason) (v : Value) : Script α :=
  .fail (.misplaced path reason v)

/-- The name of the interface for the arguments of the command at `path`. -/
def argsName (path : List Text) : Text :=
  Text.join (path.map Text.sanitize) ++ "Args"

/-- A leaf with the descriptor `space`. -/
def leaf (path : List Text) (key : Text) (es : Entries) (space : Value) :
    Except Fault Member := do
  let type ← inferType path space
  let docstring ← docstring es
  return { name := key, type, required := !isUnset (Entries.lookup requiredKey es), docstring }

/-- What an array-valued parameter is described by: its first element. -/
def describedBy (v : Value) : Except Reason Value :=
  match v.bare with
  | .list [] => .error .emptyParameter
  | .list (v :: _) => .ok v
  | _ => .ok v

def parameterAt (path : List Text) (key : Text) (v : Value) : Except Fault Member :=
  match v.bare with
  | .map es =>
      match Entries.lookup valueSpaceKey es with
      | some space => leaf path key es space
      | none => .error (.malformed path .missingValueSpace)
  | v => .error (.misplaced path .notObject v)

def parameter (path : List Text) (key : Text) (v : Value) : Except Fault Member :=
  match describedBy v with
  | .ok v => parameterAt path key v
  | .error reason => .error (.malformed path reason)

/-- The parameters of the command at `path`, until one is malformed. -/
def parameters (path : List Text) : List (Text × Value) → Except Fault (List Member)
  | [] => .ok []
  | (key, v) :: ps => do
      let m ← parameter (path ++ [key]) key v
      let ms ← parameters path ps
      return m :: ms

/-- The interface of the parameters, if there are any. -/
def arguments (path : List Text) : List (Text × Value) → Script (Option Interface)
  | [] => pure none
  | ps => do
      let name := argsName path
      .step (.addInterface name [])
      let ms ← .ofExcept (parameters path ps)
      let children := ms.map Node.member
      .step (.extend { owner := .interface name } children)
      return some { name, children }

def command (path : List Text) (key : Text) (es : Entries) : Script Node := do
  let args ← arguments path (structuralEntries es)
  let docstring ← .ofExcept (docstring es)
  return .command
    { name := key, args, docstring, multiline := isSet (Entries.lookup multilineKey es) }

/-- An array of leaf descriptors is described by the first of them. -/
def leadingLeaf? : List Value → Option (Entries × Value)
  | [] => none
  | v :: _ =>
      match v.bare with
      | .map es => (Entries.lookup valueSpaceKey es).map (es, ·)
      | _ => none

mutual

/-- The member for the value under a structural key, `path` being the keys down
to it. -/
def outline (path : List Text) (key : Text) : Value → Script Node
  | .map es =>
      if isSet (Entries.lookup commandKey es) then command path key es
      else match Entries.lookup valueSpaceKey es with
        | some space => .ofExcept ((leaf path key es space).map Node.member)
        | none => Node.tree .object key <$> outlineEntries path es
  | .list vs =>
      match leadingLeaf? vs with
      | some (es, space) => .ofExcept ((leaf path key es space).map Node.member)
      | none => Node.tree .collection key <$> outlineElements path 0 [] vs
  | .ring _ v => outline path key v
  | v => misplaced path .notObjectOrArray v
termination_by structural v => v

/-- The members for the structural entries of an object. -/
def outlineEntries (path : List Text) : List (Value × Value) → Script (List Node)
  | [] => pure []
  | (k, v) :: es =>
      match structuralKey? k with
      | none => outlineEntries path es
      | some key => do
          let n ← outline (path ++ [key]) key v
          let ns ← outlineEntries path es
          return n :: ns
termination_by structural es => es

/-- The members for the elements of a keyed array from position `index` on. The
names in `taken` are those of the members before them. -/
def outlineElements (path : List Text) (index : Nat) (taken : List Text) :
    List Value → Script (List Node)
  | [] => pure []
  | v :: vs => do
      let fresh ← outlineElement path index taken v
      let ns ← outlineElements path (index + 1) (fresh.map Node.name ++ taken) vs
      return fresh ++ ns
termination_by structural vs => vs

/-- The members for one element. If it has an id it is a tree of that name. The
entries of any other element are members of the array itself, unless their names
are taken. -/
def outlineElement (path : List Text) (index : Nat) (taken : List Text) :
    Value → Script (List Node)
  | .map es =>
      match Entries.lookup idKey es with
      | some v => do
          let id ← .ofExcept (Fault.textOf v)
          let children ← outlineEntries (path ++ [id]) es
          return [.tree .object id children]
      | none => outlineFresh path taken es
  | .ring _ v => outlineElement path index taken v
  | v => misplaced (path ++ [Value.numeral index]) .notObject v
termination_by structural v => v

/-- The members for the structural entries whose keys are not taken. -/
def outlineFresh (path taken : List Text) : List (Value × Value) → Script (List Node)
  | [] => pure []
  | (k, v) :: es =>
      match structuralKey? k with
      | none => outlineFresh path taken es
      | some key =>
          if taken.contains key then do
            .note (.repeatedKey key path)
            outlineFresh path taken es
          else do
            let n ← outline (path ++ [key]) key v
            let ns ← outlineFresh path (key :: taken) es
            return n :: ns
termination_by structural es => es

end

end DeviceTypings.Schema
