import DeviceTypings.Proofs.Induction
import DeviceTypings.Proofs.Node.Commands

namespace DeviceTypings

/-!
# Members with different names

No object type has two members of the same name: neither an interface, nor a tree at
any depth of it, nor the interface that a command takes its arguments as.
-/

mutual

inductive Node.Distinct : Node → Prop
  | member (m : Member) : Node.Distinct (.member m)
  | command {c : Command} (h : ∀ i ∈ c.args, InterfaceOf.Distinct i) : Node.Distinct (.command c)
  | tree (kind : TreeKind) (name : Text) {ns : List Node} (hnames : (ns.map Node.name).Nodup)
      (h : ∀ n ∈ ns, Node.Distinct n) : Node.Distinct (.tree kind name ns)

inductive InterfaceOf.Distinct : Interface → Prop
  | mk {i : Interface} (hnames : (i.children.map Node.name).Nodup)
      (h : ∀ n ∈ i.children, Node.Distinct n) : InterfaceOf.Distinct i

end

theorem InterfaceOf.distinct_iff {i : Interface} : i.Distinct ↔
    (i.children.map Node.name).Nodup ∧ ∀ n ∈ i.children, n.Distinct := by
  constructor
  · rintro ⟨hnames, h⟩
    exact ⟨hnames, h⟩
  · rintro ⟨hnames, h⟩
    exact .mk hnames h

namespace Node

variable {taken : List Text} {ns ms : List Node}

theorem distinct_tree {kind : TreeKind} {name : Text} : (tree kind name ns).Distinct ↔
    (ns.map Node.name).Nodup ∧ ∀ n ∈ ns, n.Distinct := by
  constructor
  · intro h
    cases h with
    | tree _ _ hnames h => exact ⟨hnames, h⟩
  · rintro ⟨hnames, h⟩
    exact .tree kind name hnames h

/-- The arguments of commands have different names as well. -/
theorem distinct_argumentsIn (h : ∀ n ∈ ns, n.Distinct) : ∀ i ∈ argumentsIn ns, i.Distinct := by
  suffices hone : ∀ n : Node, n.Distinct → ∀ i ∈ argumentsIn [n], i.Distinct by
    intro i hi
    rw [argumentsIn_eq_flatMap] at hi
    obtain ⟨n, hn, hi⟩ := List.mem_flatMap.1 hi
    exact hone n (h n hn) i hi
  clear h
  intro n hn i hi
  induction n using treeInduction with
  | member m => simp at hi
  | command c =>
      cases hn with
      | command h => exact h i (by simpa using hi)
  | tree kind name ns ih =>
      rw [argumentsIn_tree, argumentsIn_eq_flatMap] at hi
      obtain ⟨n, hn', hi⟩ := List.mem_flatMap.1 hi
      exact ih n hn' ((distinct_tree.1 hn).2 n hn') hi

/-- Members that can join others whose names are taken. -/
structure Fits (taken : List Text) (ns : List Node) : Prop where
  notMem : ∀ n ∈ ns, n.name ∉ taken
  nodup : (ns.map Node.name).Nodup
  distinct : ∀ n ∈ ns, n.Distinct

theorem fits_nil (taken : List Text) : Fits taken [] := ⟨by simp, by simp, by simp⟩

theorem fits_append : Fits taken (ns ++ ms) ↔
    Fits taken ns ∧ Fits (ns.map Node.name ++ taken) ms := by
  constructor
  · rintro ⟨hnotMem, hnodup, hdistinct⟩
    rw [List.map_append, List.nodup_append] at hnodup
    obtain ⟨hns, hms, hne⟩ := hnodup
    refine ⟨⟨?_, hns, ?_⟩, ?_, hms, ?_⟩
    · exact fun n hn => hnotMem n (List.mem_append_left _ hn)
    · exact fun n hn => hdistinct n (List.mem_append_left _ hn)
    · intro m hm hmem
      rcases List.mem_append.1 hmem with hmem | hmem
      · exact hne _ hmem _ (List.mem_map_of_mem hm) rfl
      · exact hnotMem m (List.mem_append_right _ hm) hmem
    · exact fun m hm => hdistinct m (List.mem_append_right _ hm)
  · rintro ⟨hns, hms⟩
    refine ⟨?_, ?_, ?_⟩
    · intro n hn
      rcases List.mem_append.1 hn with hn | hn
      · exact hns.notMem n hn
      · exact fun hmem => hms.notMem n hn (List.mem_append_right _ hmem)
    · rw [List.map_append, List.nodup_append]
      refine ⟨hns.nodup, hms.nodup, ?_⟩
      rintro a ha b hb rfl
      obtain ⟨m, hm, rfl⟩ := List.mem_map.1 hb
      exact hms.notMem m hm (List.mem_append_left _ ha)
    · intro n hn
      rcases List.mem_append.1 hn with hn | hn
      · exact hns.distinct n hn
      · exact hms.distinct n hn

theorem fits_nil_iff : Fits [] ns ↔ (ns.map Node.name).Nodup ∧ ∀ n ∈ ns, n.Distinct := by
  constructor
  · rintro ⟨-, hnodup, hdistinct⟩
    exact ⟨hnodup, hdistinct⟩
  · rintro ⟨hnodup, hdistinct⟩
    exact ⟨by simp, hnodup, hdistinct⟩

end Node

end DeviceTypings
