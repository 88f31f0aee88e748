import DeviceTypings.Document.Step
import DeviceTypings.Proofs.Outcome

namespace DeviceTypings

/-!
# Documents without docstrings

A document that has lost all docstrings, at any depth, is otherwise the same. It is
built by the same steps without their docstrings, and with the same faults.
-/

def Member.undocumented (m : Member) : Member := { m with docstring := none }

mutual

def Node.undocumented : Node → Node
  | .member m => .member m.undocumented
  | .command ⟨name, none, returnType, _, multiline⟩ =>
      .command ⟨name, none, returnType, none, multiline⟩
  | .command ⟨name, some i, returnType, _, multiline⟩ =>
      .command ⟨name, some i.undocumented, returnType, none, multiline⟩
  | .tree kind name ns => .tree kind name (Node.allUndocumented ns)
termination_by structural n => n

def InterfaceOf.undocumented : Interface → Interface
  | ⟨name, bases, ns⟩ => ⟨name, bases, Node.allUndocumented ns⟩
termination_by structural i => i

def Node.allUndocumented : List Node → List Node
  | [] => []
  | n :: ns => n.undocumented :: Node.allUndocumented ns
termination_by structural ns => ns

end

namespace Declaration

def undocumented : Declaration → Declaration
  | interface i => interface i.undocumented
  | main m => main { m with children := Node.allUndocumented m.children }
  | builtins => builtins

end Declaration

def Document.undocumented (d : Document) : Document :=
  { d with declarations := d.declarations.map Declaration.undocumented }

def Step.undocumented : Step → Step
  | extend place ns => extend place (Node.allUndocumented ns)
  | s => s

theorem Node.allUndocumented_eq_map (ns : List Node) :
    allUndocumented ns = ns.map undocumented := by
  induction ns with
  | nil => rfl
  | cons n ns ih => rw [allUndocumented, ih, List.map_cons]

@[simp] theorem Node.undocumented_member (m : Member) :
    (member m).undocumented = member m.undocumented := rfl

@[simp] theorem Node.undocumented_command (c : Command) : (command c).undocumented =
    command { c with args := c.args.map InterfaceOf.undocumented, docstring := none } := by
  obtain ⟨_, args, _, _, _⟩ := c
  cases args <;> rfl

@[simp] theorem Node.undocumented_tree (kind : TreeKind) (name : Text) (ns : List Node) :
    (tree kind name ns).undocumented = tree kind name (ns.map undocumented) := by
  rw [undocumented, allUndocumented_eq_map]

@[simp] theorem Node.name_undocumented (n : Node) : n.undocumented.name = n.name := by
  cases n <;> simp [Member.undocumented]

@[simp] theorem Node.isOptional_undocumented (n : Node) :
    n.undocumented.isOptional = n.isOptional := by
  cases n <;> simp [Member.undocumented, isOptional]

theorem InterfaceOf.undocumented_eq (i : Interface) :
    i.undocumented = { i with children := i.children.map Node.undocumented } := by
  obtain ⟨name, bases, ns⟩ := i
  rw [undocumented, Node.allUndocumented_eq_map]

/-! ## Steps -/

theorem extendNodes_undocumented (path : List Nat) (new ns : List Node) :
    extendNodes path (new.map Node.undocumented) (ns.map Node.undocumented) =
      (extendNodes path new ns).map (List.map Node.undocumented) := by
  induction path generalizing ns with
  | nil => simp
  | cons i path ih =>
      rw [extendNodes, extendNodes, List.getElem?_map]
      cases ns[i]? with
      | none => rfl
      | some n =>
          cases n with
          | member m => rfl
          | command c =>
              rw [Option.map_some, Node.undocumented_command]
              rfl
          | tree kind name cs =>
              simp only [Option.map_some, Node.undocumented_tree, ih, Option.map_map]
              congr 1
              funext ds
              simp [List.map_set]

namespace Owner

variable {f g : List Node → Option (List Node)}

theorem update?_undocumented
    (h : ∀ ns, g (ns.map Node.undocumented) = (f ns).map (List.map Node.undocumented))
    (o : Owner) (x : Declaration) :
    o.update? g x.undocumented = (o.update? f x).map Declaration.undocumented := by
  cases o with
  | main =>
      cases x with
      | main m =>
          simp only [Declaration.undocumented, update?, Node.allUndocumented_eq_map, h,
            Option.map_map, Function.comp_def]
      | _ => rfl
  | interface name =>
      cases x with
      | interface i =>
          simp only [Declaration.undocumented, update?, InterfaceOf.undocumented_eq, h,
            apply_ite (Option.map Declaration.undocumented), Option.map_map, Option.map_none,
            Function.comp_def]
      | _ => rfl

end Owner

namespace Document

theorem scope_undocumented (d : Document) : d.undocumented.scope = d.scope := by
  have hmain : d.undocumented.main?.map MainClass.name = d.main?.map MainClass.name := by
    simp only [undocumented, main?, List.findSome?_map, List.map_findSome?]
    congr 1
    funext x
    cases x <;> rfl
  rw [scope, scope, hmain]
  rfl

theorem step_undocumented (d : Document) (s : Step) :
    d.undocumented.step s.undocumented = (d.step s).map undocumented := by
  cases s with
  | addInterface name bases =>
      simp only [Step.undocumented, step, addInterface, scope_undocumented]
      cases d.scope.checkInterface name bases with
      | error e => rfl
      | ok u => simp [Except.map, undocumented, Declaration.undocumented, InterfaceOf.undocumented_eq]
  | addMain name base withConnect =>
      simp only [Step.undocumented, step, addMain, scope_undocumented]
      cases d.scope.checkMain name with
      | error e => rfl
      | ok u => simp [Except.map, undocumented, Declaration.undocumented, Node.allUndocumented]
  | addBuiltins =>
      simp only [Step.undocumented, step, addBuiltins, scope_undocumented]
      cases d.scope.checkBuiltins with
      | error e => rfl
      | ok u => simp [Except.map, undocumented, Declaration.undocumented]
  | extend place ns =>
      simp only [Step.undocumented, step, extend, Node.allUndocumented_eq_map]
      rw [undocumented, Owner.updateFirst?_map
        (Owner.update?_undocumented (extendNodes_undocumented place.path ns) place.owner)]
      cases place.owner.updateFirst? (extendNodes place.path ns) d.declarations <;> rfl

theorem steps_undocumented (d : Document) (ss : List Step) :
    d.undocumented.steps (ss.map Step.undocumented) = (d.steps ss).map undocumented := by
  induction ss generalizing d with
  | nil => rfl
  | cons s ss ih =>
      rw [List.map_cons, steps_cons, steps_cons, step_undocumented]
      cases d.step s with
      | error e => rfl
      | ok c => exact ih c

end Document

end DeviceTypings
