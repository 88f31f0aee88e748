import DeviceTypings.Proofs.Induction
import DeviceTypings.Proofs.Schema.Closed
import DeviceTypings.Proofs.Schema.Entrywise

namespace DeviceTypings

/-!
# Value spaces that are read as structure

The key of value spaces starts like a structural key. Under a structural key, an object with
a value space is a leaf, and never entered. But the value of a family and the elements of a
keyed array are entered without a look for that key, so that a value space in one of them is
read like any other entry, and most often makes a tree. An id can give a tree the same name.
Trees of that name come from nowhere else.
-/

/-- A tree of the name is at the node or below it, or below the arguments of a command. -/
inductive Node.HasTree (name : Text) : Node → Prop
  | here (kind : TreeKind) (ns : List Node) : HasTree name (.tree kind name ns)
  | inside (kind : TreeKind) (name' : Text) {ns : List Node} {n : Node} (hn : n ∈ ns)
      (h : HasTree name n) : HasTree name (.tree kind name' ns)
  | arguments {c : Command} {i : Interface} {n : Node} (hi : c.args = some i)
      (hn : n ∈ i.children) (h : HasTree name n) : HasTree name (.command c)

/-- A tree of the name is anywhere in the document. -/
def Document.HasTree (name : Text) (d : Document) : Prop :=
  ∃ n ∈ d.mainMembers ++ d.interfaces.flatMap InterfaceOf.children, n.HasTree name

namespace Node

variable {name : Text}

theorem not_hasTree_of_isMember {n : Node} (hn : n.isMember = true) : ¬ n.HasTree name := by
  intro h
  cases h <;> simp [isMember] at hn

theorem not_hasTree_member (m : Member) : ¬ (member m).HasTree name :=
  not_hasTree_of_isMember rfl

theorem hasTree_tree {kind : TreeKind} {name' : Text} {ns : List Node} :
    (tree kind name' ns).HasTree name ↔ name' = name ∨ ∃ n ∈ ns, n.HasTree name := by
  constructor
  · intro h
    cases h with
    | here => exact .inl rfl
    | inside _ _ hn h => exact .inr ⟨_, hn, h⟩
  · rintro (rfl | ⟨n, hn, h⟩)
    · exact .here kind ns
    · exact .inside kind name' hn h

end Node

namespace Schema

/-- Whether a value under a structural key becomes a tree or a keyed array. -/
def becomesTree : Value → Bool
  | .map es => !isSet (Entries.lookup commandKey es) && (Entries.lookup valueSpaceKey es).isNone
  | .list vs => (leadingLeaf? vs).isNone
  | .ring _ v => becomesTree v
  | _ => false

/-- An object that is entered whether or not it has a value space, with its id and with those
of its structural entries that are read. -/
structure Opened where
  id : Option Text
  entries : List (Text × Value)

mutual

/-- The objects that are opened for the value under a structural key. -/
def opened : Value → List Opened
  | .map es =>
      if isSet (Entries.lookup commandKey es) || (Entries.lookup valueSpaceKey es).isSome then []
      else openedBelow es
  | .list vs => if (leadingLeaf? vs).isSome then [] else openedElements [] vs
  | .ring _ v => opened v
  | _ => []
termination_by structural v => v

def openedBelow : List (Value × Value) → List Opened
  | [] => []
  | (k, v) :: es => (if (structuralKey? k).isSome then opened v else []) ++ openedBelow es
termination_by structural es => es

/-- The elements of a keyed array, after elements that have taken some names, and what is
opened below them. -/
def openedElements (taken : List Text) : List Value → List Opened
  | [] => []
  | v :: vs => openedElement taken v ++ openedElements (taken ++ takenBy v) vs
termination_by structural vs => vs

def openedElement (taken : List Text) : Value → List Opened
  | .map es =>
      match Entries.lookup idKey es with
      | some id => ⟨some id.toText, structuralEntries es⟩ :: openedBelow es
      | none => ⟨none, fresh taken (structuralEntries es)⟩ :: openedFresh taken es
  | .ring _ v => openedElement taken v
  | _ => []
termination_by structural v => v

def openedFresh (taken : List Text) : List (Value × Value) → List Opened
  | [] => []
  | (k, v) :: es =>
      match structuralKey? k with
      | none => openedFresh taken es
      | some key =>
          if taken.contains key then openedFresh taken es
          else opened v ++ openedFresh (key :: taken) es
termination_by structural es => es

end

/-- The value of a family, and what is opened below it. -/
def openedFamily (v : Value) : List Opened :=
  match v.bare with
  | .map es => ⟨none, structuralEntries es⟩ :: openedBelow es
  | _ => []

/-- All objects that are opened in a schema. -/
def openedObjects (s : Value) : List Opened :=
  match s.bare with
  | .map es => (familiesOf es).flatMap fun p => openedFamily p.2
  | _ => []

/-- The object has the key of value spaces for its id, or a value space of its own is read
like a tree. -/
def Opened.Misleads (x : Opened) : Prop :=
  x.id = some valueSpaceKey ∨ ∃ p ∈ x.entries, p.1 = valueSpaceKey ∧ becomesTree p.2 = true

instance : DecidablePred Opened.Misleads := fun _ => inferInstanceAs (Decidable (_ ∨ _))

variable {path taken taken' : List Text} {key : Text} {es : Entries} {n : Node}
  {ns : List Node} {ts : List Step}

theorem openedBelow_eq_flatMap (es : Entries) :
    openedBelow es = (structuralEntries es).flatMap fun p => opened p.2 := by
  induction es with
  | nil => rfl
  | cons e es ih =>
      obtain ⟨k, v⟩ := e
      cases hk : structuralKey? k with
      | none => simp [openedBelow, hk, structuralEntries_cons_none hk, ih]
      | some key => simp [openedBelow, hk, structuralEntries_cons_some hk, ih]

theorem openedFresh_eq_flatMap (taken : List Text) (es : Entries) :
    openedFresh taken es = (fresh taken (structuralEntries es)).flatMap fun p => opened p.2 := by
  induction es generalizing taken with
  | nil => rfl
  | cons e es ih =>
      obtain ⟨k, v⟩ := e
      cases hk : structuralKey? k with
      | none => simp [openedFresh, hk, structuralEntries_cons_none hk, ih]
      | some key =>
          rw [structuralEntries_cons_some hk]
          by_cases ht : key ∈ taken
          · simp [openedFresh, hk, fresh_cons_mem (p := (key, v)) ht, ht, ih]
          · simp [openedFresh, hk, fresh_cons_notMem (p := (key, v)) ht, ht, ih]

/-! ## Commands and leaves -/

theorem not_hasTree_command {name : Text} (h : (command path key es).Yields n ts) :
    ¬ n.HasTree name := by
  obtain ⟨args, doc, hargs, -, rfl⟩ := command_yields.1 h
  obtain ⟨ms, -, rfl⟩ := arguments_iff.1 ⟨ts, hargs⟩
  intro htree
  -- The arguments of a command are fields, whatever stands under its keys.
  cases htree with
  | arguments hi hn h =>
      unfold argumentsOf at hi
      split at hi
      · simp at hi
      · obtain rfl := Option.some.inj hi
        obtain ⟨m, -, rfl⟩ := List.mem_map.1 hn
        exact Node.not_hasTree_member m h

/-! ## Outlines -/

/-- Whether there is a tree with the name of value spaces among the members of a value is
told by the objects that are opened for it. -/
structure OpenedDecide (v : Value) : Prop where
  outline : ∀ {path key n ts}, (outline path key v).Yields n ts →
    (n.HasTree valueSpaceKey ↔
      key = valueSpaceKey ∧ becomesTree v = true ∨ ∃ x ∈ opened v, x.Misleads)
  element : ∀ {path index taken taken' ns ts}, (outlineElement path index taken v).Yields ns ts →
    (∀ key, key ∈ taken ↔ key ∈ taken') →
      ((∃ n ∈ ns, n.HasTree valueSpaceKey) ↔ ∃ x ∈ openedElement taken' v, x.Misleads)

theorem forall₂_hasTree {ps : List (Text × Value)} (hps : ∀ p ∈ ps, OpenedDecide p.2)
    (h : List.Forall₂ (OutlinesEntry path) ps ns) :
    (∃ n ∈ ns, n.HasTree valueSpaceKey) ↔
      (∃ p ∈ ps, p.1 = valueSpaceKey ∧ becomesTree p.2 = true) ∨
        ∃ x ∈ ps.flatMap fun p => opened p.2, x.Misleads := by
  induction h with
  | nil => simp
  | cons hn _ ih =>
      obtain ⟨ts, hts⟩ := hn
      obtain ⟨hp, hps⟩ := List.forall_mem_cons.1 hps
      rw [List.exists_mem_cons_iff, List.exists_mem_cons_iff, hp.outline hts, ih hps,
        List.flatMap_cons]
      simp only [List.mem_append, or_and_right, exists_or]
      exact or_or_or_comm

theorem outlineEntries_hasTree (hes : ∀ e ∈ es, OpenedDecide e.2)
    (h : (outlineEntries path es).Yields ns ts) :
    (∃ n ∈ ns, n.HasTree valueSpaceKey) ↔
      (∃ p ∈ structuralEntries es, p.1 = valueSpaceKey ∧ becomesTree p.2 = true) ∨
        ∃ x ∈ openedBelow es, x.Misleads := by
  rw [openedBelow_eq_flatMap]
  exact forall₂_hasTree (forall_structuralEntries hes) (outlineEntries_iff.1 ⟨ts, h⟩)

theorem outlineFresh_hasTree (hes : ∀ e ∈ es, OpenedDecide e.2)
    (htaken : ∀ key, key ∈ taken ↔ key ∈ taken') (h : (outlineFresh path taken es).Yields ns ts) :
    (∃ n ∈ ns, n.HasTree valueSpaceKey) ↔
      ∃ x ∈ ⟨none, fresh taken' (structuralEntries es)⟩ :: openedFresh taken' es, x.Misleads := by
  have hall := outlineFresh_iff.1 ⟨ts, h⟩
  rw [fresh_congr _ htaken] at hall
  have hps : ∀ p ∈ fresh taken' (structuralEntries es), OpenedDecide p.2 := fun p hp =>
    forall_structuralEntries hes p ((fresh_sublist taken' _).subset hp)
  rw [forall₂_hasTree hps hall, openedFresh_eq_flatMap]
  simp [Opened.Misleads]

theorem outlineElements_hasTree {vs : List Value} (hvs : ∀ v ∈ vs, OpenedDecide v) {index : Nat}
    (htaken : ∀ key, key ∈ taken ↔ key ∈ taken')
    (h : (outlineElements path index taken vs).Yields ns ts) :
    (∃ n ∈ ns, n.HasTree valueSpaceKey) ↔ ∃ x ∈ openedElements taken' vs, x.Misleads := by
  induction vs generalizing index taken taken' ns ts with
  | nil =>
      obtain ⟨rfl, -⟩ := Script.yields_pure.1 h
      simp [openedElements]
  | cons v vs ih =>
      obtain ⟨hv, hvs⟩ := List.forall_mem_cons.1 hvs
      obtain ⟨fresh, us, ms, ws, hfresh, hms, rfl, -⟩ := outlineElements_cons.1 h
      -- The outline and the list of objects collect the same names, but not in the same order.
      have hlater : ∀ key, key ∈ fresh.map Node.name ++ taken ↔ key ∈ taken' ++ takenBy v := by
        intro key
        rw [outlineElement_names v hfresh, List.mem_append, List.mem_append, htaken]
      simp only [openedElements, List.mem_append, or_and_right, exists_or, hv.element hfresh htaken,
        ih hvs hlater hms]

theorem ne_valueSpaceKey (h : Entries.lookup valueSpaceKey es = none) :
    ∀ p ∈ structuralEntries es, p.1 ≠ valueSpaceKey := by
  intro p hp hkey
  obtain ⟨⟨k, v⟩, he, hpair⟩ := List.mem_filterMap.1 hp
  obtain ⟨key, hk, rfl⟩ := Option.map_eq_some_iff.1 hpair
  obtain ⟨rfl, -⟩ := structuralKey?_eq_some.1 hk
  exact Entries.notMem_of_lookup h v (hkey ▸ he)

theorem openedDecide_map (hes : ∀ e ∈ es, OpenedDecide e.2) : OpenedDecide (.map es) where
  outline := by
    intro path key n ts h
    rw [outline] at h
    split at h
    · rename_i hset
      simp [becomesTree, opened, hset, not_hasTree_command h]
    · rename_i hset
      split at h
      · rename_i space hspace
        obtain ⟨m, -, rfl, -⟩ := leaf_yields.1 h
        simp [becomesTree, opened, hspace, Node.not_hasTree_member m]
      · rename_i hspace
        obtain ⟨ns, hns, rfl⟩ := Script.yields_map.1 h
        have hnone : ¬ ∃ p ∈ structuralEntries es,
            p.1 = valueSpaceKey ∧ becomesTree p.2 = true := by
          rintro ⟨p, hp, hkey, -⟩
          exact ne_valueSpaceKey hspace p hp hkey
        rw [Node.hasTree_tree, outlineEntries_hasTree hes hns, or_iff_right hnone]
        simp [becomesTree, opened, hset, hspace]
  element := by
    intro path index taken taken' ns ts h htaken
    cases hid : Entries.lookup idKey es with
    | some id =>
        obtain ⟨text, cs, htext, hcs, rfl⟩ := (outlineElement_some hid).1 h
        obtain ⟨-, rfl⟩ := Fault.textOf_eq_ok.1 htext
        simp [Node.hasTree_tree, outlineEntries_hasTree hes hcs, openedElement, hid,
          Opened.Misleads, or_assoc]
    | none =>
        rw [outlineElement_none hid] at h
        rw [openedElement, hid]
        exact outlineFresh_hasTree hes htaken h

theorem openedDecide_list {vs : List Value} (hvs : ∀ v ∈ vs, OpenedDecide v) :
    OpenedDecide (.list vs) where
  outline := by
    intro path key n ts h
    rw [outline] at h
    split at h
    · rename_i hleaf
      obtain ⟨m, -, rfl, -⟩ := leaf_yields.1 h
      simp [becomesTree, opened, hleaf, Node.not_hasTree_member m]
    · rename_i hleaf
      obtain ⟨ns, hns, rfl⟩ := Script.yields_map.1 h
      rw [Node.hasTree_tree, outlineElements_hasTree hvs (fun _ => .rfl) hns]
      simp [becomesTree, opened, hleaf]
  element := by
    intro path index taken taken' ns ts h
    simp [outlineElement, misplaced] at h

theorem openedDecide (v : Value) : OpenedDecide v := by
  induction v using Value.nestedInduction with
  | map es ih => exact openedDecide_map ih
  | list vs ih => exact openedDecide_list ih
  | ring label v ih =>
      constructor
      · intro path key n ts hy
        rw [outline] at hy
        exact ih.outline hy
      · intro path index taken taken' ns ts hy
        rw [outlineElement] at hy
        exact ih.element hy
  | scalar v hv =>
      constructor
      · intro path key n ts hy
        cases v <;> simp_all [Value.isNested, outline, misplaced]
      · intro path index taken taken' ns ts hy
        cases v <;> simp_all [Value.isNested, outlineElement, misplaced]

/-! ## Schemas -/

variable {o : Options} {cs : List Chapter} {s : Value} {d : Document}

theorem Chapter.Outlines.hasTree_iff {p : Family × Value} {c : Chapter} (h : c.Outlines p) :
    (∃ n ∈ c.nodes, n.HasTree valueSpaceKey) ↔ ∃ x ∈ openedFamily p.2, x.Misleads := by
  obtain ⟨-, es, ts, hes, hy⟩ := h
  rw [outlineEntries_hasTree (fun e _ => openedDecide e.2) hy, openedFamily, hes]
  simp [Opened.Misleads]

theorem exists_hasTree_iff {ps : List (Family × Value)}
    (h : List.Forall₂ Chapter.Outlines ps cs) :
    (∃ c ∈ cs, ∃ n ∈ c.nodes, n.HasTree valueSpaceKey) ↔
      ∃ x ∈ ps.flatMap fun p => openedFamily p.2, x.Misleads := by
  induction h with
  | nil => simp
  | cons hc _ ih =>
      rw [List.flatMap_cons]
      simp only [List.exists_mem_cons_iff, List.mem_append, or_and_right, exists_or,
        hc.hasTree_iff, ih]

/-- The main class and the interfaces of arguments have no trees. -/
theorem document_hasTree_iff {ps : List (Family × Value)} {name : Text}
    (h : List.Forall₂ Chapter.Outlines ps cs) :
    (o.layout.addChapters cs).document.HasTree name ↔
      ∃ c ∈ cs, ∃ n ∈ c.nodes, n.HasTree name := by
  rw [Document.HasTree, mainMembers_chapters, interfaces_chapters]
  constructor
  · rintro ⟨n, hn, htree⟩
    rcases List.mem_append.1 hn with hn | hn
    · obtain ⟨c, -, rfl⟩ := List.mem_map.1 hn
      exact absurd htree (Node.not_hasTree_member _)
    · obtain ⟨i, hi, hn⟩ := List.mem_flatMap.1 hn
      obtain ⟨c, hc, hi⟩ := List.mem_flatMap.1 hi
      rcases List.mem_cons.1 hi with rfl | hi
      · exact ⟨c, hc, n, hn, htree⟩
      · obtain ⟨p, -, hp⟩ := exists_outlines_of_mem h hc
        obtain ⟨ts, hts⟩ := hp.declares
        exact absurd htree (Node.not_hasTree_of_isMember ((hts.isArguments i hi).isMember n hn))
  · rintro ⟨c, hc, n, hn, htree⟩
    have hi : c.interface ∈ cs.flatMap Chapter.interfaces :=
      List.mem_flatMap.2 ⟨c, hc, List.mem_cons_self⟩
    exact ⟨n, List.mem_append_right _ (List.mem_flatMap.2 ⟨_, hi, hn⟩), htree⟩

/-- A document has a tree with the name of value spaces if and only if its schema has an
element with that id, or a value space in the value of a family or in an element of a keyed
array that is read like a tree. -/
theorem compile_hasTree_iff (h : compile o s = .ok d) :
    d.HasTree valueSpaceKey ↔ ∃ x ∈ openedObjects s, x.Misleads := by
  obtain ⟨es, cs, hes, hcs, -, rfl⟩ := compile_eq_ok.1 h
  rw [document_hasTree_iff hcs, exists_hasTree_iff hcs, openedObjects, hes]

theorem not_hasTree_lineSchema : ∃ d, compile {} lineSchema = .ok d ∧
    ¬ d.HasTree valueSpaceKey := by
  obtain ⟨d, hd⟩ := exists_compile_lineSchema
  exact ⟨d, hd, fun htree => absurd ((compile_hasTree_iff hd).1 htree) (by decide)⟩

/-- An element with an id and a value space. -/
def spacedSchema : Value :=
  .map [
    (.text "Command", .map [
      (.text "Line", .list [
        .map [(.text idKey, .int 1)],
        .map [(.text idKey, .int 2),
          (.text valueSpaceKey, .map [(.text typeKey, .text "String")])]])])]

/-- No element of the schema has the key of value spaces for its id. -/
theorem hasTree_spacedSchema : ∃ d, compile {} spacedSchema = .ok d ∧
    d.HasTree valueSpaceKey ∧ ∀ x ∈ openedObjects spacedSchema, x.id ≠ some valueSpaceKey := by
  refine ⟨_, rfl, ⟨_, List.mem_append_right _ List.mem_cons_self, ?_⟩, by decide⟩
  have hsecond : (Node.tree .object "2" [.tree .object valueSpaceKey []]).HasTree valueSpaceKey :=
    .inside _ _ List.mem_cons_self (.here _ _)
  exact .inside _ _ (List.mem_cons_of_mem _ List.mem_cons_self) hsecond

end Schema

end DeviceTypings
