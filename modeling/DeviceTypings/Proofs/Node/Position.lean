import DeviceTypings.Proofs.Node.Commands

namespace DeviceTypings

/-!
# Positions

The members below a point of a tree, in preorder, each by the names that lead to
it and by its kind. The arguments of a command are no members below it. Their
interface is shown by its name, with the names and kinds of its own members.
-/

inductive Kind
  | member
  | command
  | tree (kind : TreeKind)
deriving DecidableEq

structure Position where
  path : List Text
  kind : Kind
  arguments : Option (Text × List (Text × Kind)) := none
deriving DecidableEq

namespace Node

def kind : Node → Kind
  | member _ => .member
  | command _ => .command
  | tree kind _ _ => .tree kind

/-- The interface of arguments as a position shows it. -/
def showArguments (i : Interface) : Text × List (Text × Kind) :=
  (i.name, i.children.map fun n => (n.name, n.kind))

mutual

/-- The positions of a member and of all the members below it, `above` being
the names that lead to it. -/
def positions (above : List Text) : Node → List Position
  | member m => [{ path := above ++ [m.name], kind := .member }]
  | command c =>
      [{ path := above ++ [c.name], kind := .command, arguments := c.args.map showArguments }]
  | tree kind name children =>
      { path := above ++ [name], kind := .tree kind } ::
        positionsIn (above ++ [name]) children
termination_by structural n => n

def positionsIn (above : List Text) : List Node → List Position
  | [] => []
  | n :: ns => positions above n ++ positionsIn above ns
termination_by structural ns => ns

end

@[simp] theorem positionsIn_nil (above : List Text) : positionsIn above [] = [] := rfl

theorem positionsIn_cons (above : List Text) (n : Node) (ns : List Node) :
    positionsIn above (n :: ns) = n.positions above ++ positionsIn above ns := rfl

@[simp] theorem positionsIn_append (above : List Text) (ns ms : List Node) :
    positionsIn above (ns ++ ms) = positionsIn above ns ++ positionsIn above ms := by
  induction ns with
  | nil => rfl
  | cons n ns ih => rw [List.cons_append, positionsIn_cons, positionsIn_cons, ih, List.append_assoc]

mutual

/-- The positions show the interface of each command's arguments once. -/
theorem argumentNames_positions (above : List Text) (n : Node) :
    ((n.positions above).filterMap fun q => q.arguments.map Prod.fst) =
      (argumentsIn [n]).map InterfaceOf.name := by
  cases n with
  | member m => rfl
  | command c => cases h : c.args <;> simp [positions, showArguments, h]
  | tree kind name ns =>
      rw [positions, List.filterMap_cons_none rfl, argumentsIn_tree]
      exact argumentNames_positionsIn (above ++ [name]) ns
termination_by structural n

theorem argumentNames_positionsIn (above : List Text) (ns : List Node) :
    ((positionsIn above ns).filterMap fun q => q.arguments.map Prod.fst) =
      (argumentsIn ns).map InterfaceOf.name := by
  cases ns with
  | nil => rfl
  | cons n ns =>
      rw [positionsIn_cons, List.filterMap_append, argumentNames_positions above n,
        argumentNames_positionsIn above ns, ← List.map_append, ← argumentsIn_cons]
termination_by structural ns

end

end Node

end DeviceTypings
