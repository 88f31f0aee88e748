import DeviceTypings.Node
import DeviceTypings.Value.Basic

namespace DeviceTypings

/-!
# Induction over values and members

A collection is reached from what it holds, and a tree from its members. With the
hypothesis for all that a list holds, a proof may go through the list in its own
way, and carry along what the recursion over the list carries along.
-/

namespace Value

/-- Whether a value may hold other values that a schema is read through. -/
def isNested : Value → Bool
  | list _ => true
  | map _ => true
  | ring _ _ => true
  | _ => false

theorem nestedInduction {P : Value → Prop} (map : ∀ es : Entries, (∀ e ∈ es, P e.2) → P (.map es))
    (list : ∀ vs, (∀ v ∈ vs, P v) → P (.list vs)) (ring : ∀ label v, P v → P (.ring label v))
    (scalar : ∀ v, v.isNested = false → P v) (v : Value) : P v := by
  cases v with
  | map es =>
      refine map es fun (k, w) hw => ?_
      have hlt := List.sizeOf_lt_of_mem hw
      exact nestedInduction map list ring scalar w
  | list vs =>
      refine list vs fun w hw => ?_
      have hlt := List.sizeOf_lt_of_mem hw
      exact nestedInduction map list ring scalar w
  | ring label w => exact ring label w (nestedInduction map list ring scalar w)
  | _ => exact scalar _ rfl
termination_by sizeOf v
decreasing_by
  all_goals simp_all <;> omega

end Value

namespace Node

theorem treeInduction {P : Node → Prop} (member : ∀ m, P (.member m))
    (command : ∀ c, P (.command c))
    (tree : ∀ kind name ns, (∀ n ∈ ns, P n) → P (.tree kind name ns)) (n : Node) : P n := by
  cases n with
  | member m => exact member m
  | command c => exact command c
  | tree kind name ns =>
      refine tree kind name ns fun m hm => ?_
      have hlt := List.sizeOf_lt_of_mem hm
      exact treeInduction member command tree m
termination_by sizeOf n
decreasing_by
  simp_all
  omega

end Node

end DeviceTypings
