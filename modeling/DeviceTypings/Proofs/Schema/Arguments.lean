import DeviceTypings.Proofs.Node.Commands
import DeviceTypings.Proofs.Schema.Rules

namespace DeviceTypings.Schema

/-!
# What an outline declares

The steps of an outline declare the interfaces of the arguments of its
commands, in the order in which the commands are written, and nothing else. So
the members that come out of an outline fix the steps that it has written.
-/

/-- The steps that declare an interface and fill it. -/
def declare (i : Interface) : List Step :=
  [.addInterface i.name [], .extend { owner := .interface i.name } i.children]

def declareAll (is : List Interface) : List Step := is.flatMap declare

@[simp] theorem declareAll_nil : declareAll [] = [] := rfl

@[simp] theorem declareAll_append (is js : List Interface) :
    declareAll (is ++ js) = declareAll is ++ declareAll js := List.flatMap_append

/-- The interface of the arguments of a command below `path`. -/
structure IsArguments (path : List Text) (i : Interface) : Prop where
  bases_eq : i.bases = []
  isMember : ∀ n ∈ i.children, n.isMember = true
  name_eq : ∃ keys, i.name = argsName (path ++ keys)

theorem IsArguments.of_append {path keys : List Text} {i : Interface}
    (h : IsArguments (path ++ keys) i) : IsArguments path i := by
  obtain ⟨rest, hrest⟩ := h.name_eq
  exact ⟨h.bases_eq, h.isMember, keys ++ rest, by rw [hrest, List.append_assoc]⟩

/-- The steps `ts` declare the arguments of the commands among the members. -/
structure Declares (path : List Text) (ns : List Node) (ts : List Step) : Prop where
  steps_eq : ts = declareAll (Node.argumentsIn ns)
  isArguments : ∀ i ∈ Node.argumentsIn ns, IsArguments path i

namespace Declares

variable {path keys : List Text} {ns ms : List Node} {ts us : List Step}

theorem nil : Declares path [] [] := ⟨rfl, by simp⟩

theorem member (m : Member) : Declares path [.member m] [] := ⟨rfl, by simp⟩

theorem append (hn : Declares path ns ts) (hm : Declares path ms us) :
    Declares path (ns ++ ms) (ts ++ us) := by
  constructor
  · simp [hn.steps_eq, hm.steps_eq]
  · intro i hi
    rw [Node.argumentsIn_append] at hi
    exact (List.mem_append.1 hi).elim (hn.isArguments i) (hm.isArguments i)

theorem of_append (h : Declares (path ++ keys) ns ts) : Declares path ns ts :=
  ⟨h.steps_eq, fun i hi => (h.isArguments i hi).of_append⟩

theorem tree (kind : TreeKind) (name : Text) (h : Declares path ns ts) :
    Declares path [.tree kind name ns] ts :=
  ⟨by simpa using h.steps_eq, by simpa using h.isArguments⟩

end Declares

theorem arguments_declares {path : List Text} {ps : List (Text × Value)}
    {args : Option Interface} {ts : List Step} (h : (arguments path ps).Yields args ts) :
    ts = declareAll args.toList ∧ ∀ i ∈ args, IsArguments path i := by
  cases ps with
  | nil =>
      obtain ⟨rfl, rfl⟩ := arguments_nil_yields.1 h
      simp
  | cons p ps =>
      obtain ⟨ms, -, rfl, rfl⟩ := arguments_cons_yields.1 h
      refine ⟨rfl, ?_⟩
      intro i hi
      obtain rfl := Option.some.inj hi
      exact ⟨rfl, by simp [Node.isMember], [], by simp⟩

theorem command_declares {path : List Text} {key : Text} {es : Entries} {n : Node}
    {ts : List Step} (h : (command path key es).Yields n ts) : Declares path [n] ts := by
  obtain ⟨args, doc, hargs, -, rfl⟩ := command_yields.1 h
  obtain ⟨rfl, hi⟩ := arguments_declares hargs
  exact ⟨by simp, by simpa using hi⟩

theorem leaf_declares {path : List Text} {key : Text} {es : Entries} {space : Value}
    {n : Node} {ts : List Step}
    (h : (Script.ofExcept ((leaf path key es space).map Node.member)).Yields n ts) :
    Declares path [n] ts := by
  obtain ⟨m, -, rfl, rfl⟩ := leaf_yields.1 h
  exact .member m

mutual

theorem outline_declares {path : List Text} {key : Text} (v : Value) {n : Node}
    {ts : List Step} (h : (outline path key v).Yields n ts) : Declares path [n] ts := by
  cases v with
  | map es =>
      rw [outline] at h
      split at h
      · exact command_declares h
      · split at h
        · exact leaf_declares h
        · obtain ⟨ns, hns, rfl⟩ := Script.yields_map.1 h
          exact (outlineEntries_declares es hns).tree .object key
  | list vs =>
      rw [outline] at h
      split at h
      · exact leaf_declares h
      · obtain ⟨ns, hns, rfl⟩ := Script.yields_map.1 h
        exact (outlineElements_declares vs hns).tree .collection key
  | ring _ v => exact outline_declares v (by rwa [outline] at h)
  | _ => simp [outline, misplaced] at h
termination_by structural v

theorem outlineEntries_declares {path : List Text} (es : List (Value × Value)) {ns : List Node}
    {ts : List Step} (h : (outlineEntries path es).Yields ns ts) : Declares path ns ts := by
  cases es with
  | nil =>
      obtain ⟨rfl, rfl⟩ := Script.yields_pure.1 h
      exact .nil
  | cons e es =>
      obtain ⟨k, v⟩ := e
      cases hk : structuralKey? k with
      | none =>
          rw [outlineEntries_cons_none hk] at h
          exact outlineEntries_declares es h
      | some key =>
          obtain ⟨n, us, ms, vs, hn, hms, rfl, rfl⟩ := (outlineEntries_cons_some hk).1 h
          -- What is declared below the longer path is also declared below this one.
          exact (outline_declares v hn).of_append.append (outlineEntries_declares es hms)
termination_by structural es

theorem outlineElements_declares {path : List Text} {index : Nat} {taken : List Text}
    (vs : List Value) {ns : List Node} {ts : List Step}
    (h : (outlineElements path index taken vs).Yields ns ts) : Declares path ns ts := by
  cases vs with
  | nil =>
      obtain ⟨rfl, rfl⟩ := Script.yields_pure.1 h
      exact .nil
  | cons v vs =>
      obtain ⟨fresh, us, ms, ws, hv, hms, rfl, rfl⟩ := outlineElements_cons.1 h
      exact (outlineElement_declares v hv).append (outlineElements_declares vs hms)
termination_by structural vs

theorem outlineElement_declares {path : List Text} {index : Nat} {taken : List Text}
    (v : Value) {ns : List Node} {ts : List Step}
    (h : (outlineElement path index taken v).Yields ns ts) : Declares path ns ts := by
  cases v with
  | map es =>
      cases hid : Entries.lookup idKey es with
      | some id =>
          obtain ⟨text, cs, -, hcs, rfl⟩ := (outlineElement_some hid).1 h
          exact (outlineEntries_declares es hcs).of_append.tree .object text
      | none =>
          rw [outlineElement_none hid] at h
          exact outlineFresh_declares es h
  | ring _ v => exact outlineElement_declares v (by rwa [outlineElement] at h)
  | _ => simp [outlineElement, misplaced] at h
termination_by structural v

theorem outlineFresh_declares {path taken : List Text} (es : List (Value × Value))
    {ns : List Node} {ts : List Step} (h : (outlineFresh path taken es).Yields ns ts) :
    Declares path ns ts := by
  cases es with
  | nil =>
      obtain ⟨rfl, rfl⟩ := Script.yields_pure.1 h
      exact .nil
  | cons e es =>
      obtain ⟨k, v⟩ := e
      cases hk : structuralKey? k with
      | none =>
          rw [outlineFresh_cons_none hk] at h
          exact outlineFresh_declares es h
      | some key =>
          by_cases ht : key ∈ taken
          · exact outlineFresh_declares es ((outlineFresh_cons_mem hk ht).1 h)
          · obtain ⟨n, us, ms, vs, hn, hms, rfl, rfl⟩ := (outlineFresh_cons_notMem hk ht).1 h
            exact (outline_declares v hn).of_append.append (outlineFresh_declares es hms)
termination_by structural es

end

end DeviceTypings.Schema
