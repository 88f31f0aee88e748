import DeviceTypings.Document.Basic
import DeviceTypings.Proofs.Induction
import DeviceTypings.Proofs.Node.Commands
import DeviceTypings.Proofs.Shuffled

namespace DeviceTypings

/-!
# Documents up to order

Two members are the same up to order if one comes from the other by putting the
members of trees and of arguments in another order, at any depth. In a document
the interfaces may also change their places among each other. All else keeps its
place.
-/

mutual

inductive Node.Rearranged : Node → Node → Prop
  | refl (n : Node) : Node.Rearranged n n
  | command {c : Command} {args : Option Interface}
      (h : Option.Rel InterfaceOf.Rearranged c.args args) :
      Node.Rearranged (.command c) (.command { c with args })
  | tree (kind : TreeKind) (name : Text) {ns ms : List Node}
      (h : Shuffled Node.Rearranged ns ms) :
      Node.Rearranged (.tree kind name ns) (.tree kind name ms)

inductive InterfaceOf.Rearranged : Interface → Interface → Prop
  | mk {name : Text} {bases : List Text} {ns ms : List Node}
      (h : Shuffled Node.Rearranged ns ms) :
      InterfaceOf.Rearranged { name, bases, children := ns } { name, bases, children := ms }

end

/-- Declarations in one place of two documents. Interfaces are compared apart. -/
inductive Declaration.InPlace : Declaration → Declaration → Prop
  | interface (i j : Interface) : Declaration.InPlace (.interface i) (.interface j)
  | main {m : MainClass} {ns : List Node} (h : Shuffled Node.Rearranged m.children ns) :
      Declaration.InPlace (.main m) (.main { m with children := ns })
  | builtins : Declaration.InPlace .builtins .builtins

structure Document.Rearranged (d e : Document) : Prop where
  library_eq : d.library = e.library
  imports_eq : d.imports = e.imports
  inPlace : List.Forall₂ Declaration.InPlace d.declarations e.declarations
  interfaces : Shuffled InterfaceOf.Rearranged d.interfaces e.interfaces
  registered_perm : d.registered.Perm e.registered
  found : ∀ name, Option.Rel InterfaceOf.Rearranged (d.interface? name) (e.interface? name)

theorem Declaration.inPlace_interfaces {is js : List Interface} (h : is.length = js.length) :
    List.Forall₂ InPlace (is.map interface) (js.map interface) := by
  rw [List.forall₂_map_left_iff, List.forall₂_map_right_iff]
  induction is generalizing js with
  | nil =>
      rw [List.length_eq_zero_iff.1 h.symm]
      exact .nil
  | cons i is ih =>
      obtain ⟨j, js, rfl⟩ := List.exists_cons_of_length_eq_add_one h.symm
      exact .cons (.interface i j) (ih (Nat.succ.inj h))

theorem InterfaceOf.Rearranged.name_eq {i j : Interface} (h : i.Rearranged j) :
    i.name = j.name := by
  cases h
  rfl

namespace Node

theorem rearranged_refl (ns : List Node) : Shuffled Rearranged ns ns := .refl .refl ns

theorem Rearranged.name_eq {n m : Node} (h : n.Rearranged m) : n.name = m.name := by
  cases h <;> rfl

theorem interface_rearranged_refl (is : List Interface) :
    Shuffled InterfaceOf.Rearranged is is :=
  .refl (fun ⟨_, _, ns⟩ => .mk (rearranged_refl ns)) is

/-- Commands that change places take their arguments along. -/
theorem Rearranged.argumentsIn (n : Node) {m : Node} (h : n.Rearranged m) :
    Shuffled InterfaceOf.Rearranged (argumentsIn [n]) (argumentsIn [m]) := by
  induction n using treeInduction generalizing m with
  | member p =>
      cases h
      exact .nil
  | command c =>
      cases h with
      | refl => exact interface_rearranged_refl _
      | command h =>
          obtain ⟨_, args, _, _, _⟩ := c
          rw [argumentsIn_command, argumentsIn_command]
          cases h with
          | none => exact .nil
          | some hij => exact .cons hij .nil
  | tree kind name ns ih =>
      cases h with
      | refl => exact interface_rearranged_refl _
      | tree _ _ h =>
          rw [argumentsIn_tree, argumentsIn_tree, argumentsIn_eq_flatMap,
            argumentsIn_eq_flatMap]
          exact (h.imp_of_mem (T := fun n m => Shuffled InterfaceOf.Rearranged
            (Node.argumentsIn [n]) (Node.argumentsIn [m])) fun n hn m hnm => ih n hn hnm).flatMap
              fun _ _ => id

theorem argumentsIn_shuffled {ns ms : List Node} (h : Shuffled Rearranged ns ms) :
    Shuffled InterfaceOf.Rearranged (argumentsIn ns) (argumentsIn ms) := by
  rw [argumentsIn_eq_flatMap, argumentsIn_eq_flatMap ms]
  exact h.flatMap fun n m hnm => hnm.argumentsIn n

end Node

end DeviceTypings
