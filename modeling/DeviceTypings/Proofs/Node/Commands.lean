import DeviceTypings.Node

namespace DeviceTypings

/-!
# Commands in a tree

The commands below a list of members, in the order in which they are written,
and the interfaces that they take their arguments as.
-/

namespace Node

mutual

/-- The commands of a member and of all the members below it. -/
def commands : Node → List Command
  | member _ => []
  | command c => [c]
  | tree _ _ children => commandsIn children
termination_by structural n => n

def commandsIn : List Node → List Command
  | [] => []
  | n :: ns => commands n ++ commandsIn ns
termination_by structural ns => ns

end

/-- The interfaces that the commands among members take their arguments as. -/
def argumentsIn (ns : List Node) : List Interface := (commandsIn ns).filterMap CommandOf.args

def isMember : Node → Bool
  | member _ => true
  | _ => false

theorem commandsIn_eq_flatMap (ns : List Node) : commandsIn ns = ns.flatMap commands := by
  induction ns with
  | nil => rfl
  | cons n ns ih => rw [commandsIn, List.flatMap_cons, ih]

@[simp] theorem commandsIn_append (ns ms : List Node) :
    commandsIn (ns ++ ms) = commandsIn ns ++ commandsIn ms := by
  simp [commandsIn_eq_flatMap]

@[simp] theorem argumentsIn_nil : argumentsIn [] = [] := rfl

@[simp] theorem argumentsIn_append (ns ms : List Node) :
    argumentsIn (ns ++ ms) = argumentsIn ns ++ argumentsIn ms := by
  simp [argumentsIn]

theorem argumentsIn_cons (n : Node) (ns : List Node) :
    argumentsIn (n :: ns) = argumentsIn [n] ++ argumentsIn ns :=
  argumentsIn_append [n] ns

theorem argumentsIn_eq_flatMap (ns : List Node) :
    argumentsIn ns = ns.flatMap fun n => argumentsIn [n] := by
  induction ns with
  | nil => rfl
  | cons n ns ih => rw [argumentsIn_cons, ih, List.flatMap_cons]

@[simp] theorem argumentsIn_member (m : Member) : argumentsIn [member m] = [] := rfl

@[simp] theorem argumentsIn_command (c : Command) :
    argumentsIn [command c] = c.args.toList := by
  cases h : c.args <;> simp [argumentsIn, commandsIn, commands, h]

@[simp] theorem argumentsIn_tree (k : TreeKind) (name : Text) (ns : List Node) :
    argumentsIn [tree k name ns] = argumentsIn ns := by
  simp [argumentsIn, commandsIn, commands]

/-- Plain members hold no commands. -/
theorem commandsIn_of_isMember {ns : List Node} (h : ∀ n ∈ ns, n.isMember = true) :
    commandsIn ns = [] := by
  rw [commandsIn_eq_flatMap, List.flatMap_eq_nil_iff]
  intro n hn
  cases n with
  | member m => rfl
  | command c => simpa [isMember] using h _ hn
  | tree k name ns => simpa [isMember] using h _ hn

end Node

end DeviceTypings
