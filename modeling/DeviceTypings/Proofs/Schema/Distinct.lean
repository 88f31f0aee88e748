import DeviceTypings.Proofs.Node.Distinct
import DeviceTypings.Proofs.Schema.Accepted
import DeviceTypings.Proofs.Schema.Closed
import DeviceTypings.Proofs.Schema.Entrywise

namespace DeviceTypings

namespace Value

mutual

/-- Whether in every object that a value holds all keys are different. -/
def isKeyed : Value → Bool
  | list items => areKeyed items
  | map entries => decide (textKeys entries).Nodup && areKeyedEntries entries
  | ring _ v => v.isKeyed
  | _ => true
termination_by structural v => v

def areKeyed : List Value → Bool
  | [] => true
  | v :: vs => v.isKeyed && areKeyed vs
termination_by structural vs => vs

def areKeyedEntries : List (Value × Value) → Bool
  | [] => true
  | (_, v) :: es => v.isKeyed && areKeyedEntries es
termination_by structural es => es

end

theorem areKeyed_iff {vs : List Value} : areKeyed vs = true ↔ ∀ v ∈ vs, v.isKeyed = true := by
  induction vs with
  | nil => simp [areKeyed]
  | cons v vs ih => simp [areKeyed, ih]

theorem areKeyedEntries_iff {es : Entries} :
    areKeyedEntries es = true ↔ ∀ e ∈ es, e.2.isKeyed = true := by
  induction es with
  | nil => simp [areKeyedEntries]
  | cons e es ih => simp [areKeyedEntries, ih]

theorem isKeyed_map {es : Entries} :
    (map es).isKeyed = true ↔ (textKeys es).Nodup ∧ ∀ e ∈ es, e.2.isKeyed = true := by
  rw [isKeyed, Bool.and_eq_true, decide_eq_true_eq, areKeyedEntries_iff]

theorem isKeyed_bare (v : Value) (h : v.isKeyed = true) : v.bare.isKeyed = true := by
  cases v <;> exact h

end Value

namespace Schema

/-!
# Schemas without repeated names

The keys of an object are different, and a key of a keyed array is passed over where its
name is taken. The ids of elements are not compared with anything. So all members of all
object types have different names exactly if every id is new: it is no id of an earlier
element, and no key of one without an id.
-/

mutual

/-- Whether the ids of the elements are new in every keyed array. -/
def hasNewIds : Value → Bool
  | .map es =>
      isSet (Entries.lookup commandKey es) || (Entries.lookup valueSpaceKey es).isSome ||
        entriesHaveNewIds es
  | .list vs => (leadingLeaf? vs).isSome || elementsHaveNewIds [] vs
  | .ring _ v => hasNewIds v
  | _ => true
termination_by structural v => v

def entriesHaveNewIds : List (Value × Value) → Bool
  | [] => true
  | (k, v) :: es => ((structuralKey? k).isNone || hasNewIds v) && entriesHaveNewIds es
termination_by structural es => es

/-- Whether the ids of elements are new after elements that have taken some names. -/
def elementsHaveNewIds (taken : List Text) : List Value → Bool
  | [] => true
  | v :: vs => elementHasNewIds taken v && elementsHaveNewIds (taken ++ takenBy v) vs
termination_by structural vs => vs

def elementHasNewIds (taken : List Text) : Value → Bool
  | .map es =>
      match Entries.lookup idKey es with
      | some id => !taken.contains id.toText && entriesHaveNewIds es
      | none => freshHaveNewIds taken es
  | .ring _ v => elementHasNewIds taken v
  | _ => true
termination_by structural v => v

/-- Entries whose keys are taken are not read. -/
def freshHaveNewIds (taken : List Text) : List (Value × Value) → Bool
  | [] => true
  | (k, v) :: es =>
      (match structuralKey? k with
        | some key => taken.contains key || hasNewIds v
        | none => true) && freshHaveNewIds taken es
termination_by structural es => es

end

def familyHasNewIds (v : Value) : Bool :=
  match v.bare with
  | .map es => entriesHaveNewIds es
  | _ => true

/-- Whether the ids are new in all keyed arrays of all families. -/
def schemaHasNewIds (s : Value) : Bool :=
  match s.bare with
  | .map es => (familiesOf es).all fun p => familyHasNewIds p.2
  | _ => true

variable {path taken taken' : List Text} {key : Text} {es : Entries} {n : Node}
  {ns : List Node} {ts : List Step}

theorem entriesHaveNewIds_iff : entriesHaveNewIds es = true ↔
    ∀ p ∈ structuralEntries es, hasNewIds p.2 = true := by
  induction es with
  | nil => simp [entriesHaveNewIds, structuralEntries]
  | cons e es ih =>
      obtain ⟨k, v⟩ := e
      cases hk : structuralKey? k with
      | none => simp [entriesHaveNewIds, hk, structuralEntries_cons_none hk, ih]
      | some key => simp [entriesHaveNewIds, hk, structuralEntries_cons_some hk, ih]

theorem freshHaveNewIds_iff : freshHaveNewIds taken es = true ↔
    ∀ p ∈ structuralEntries es, p.1 ∉ taken → hasNewIds p.2 = true := by
  induction es with
  | nil => simp [freshHaveNewIds, structuralEntries]
  | cons e es ih =>
      obtain ⟨k, v⟩ := e
      cases hk : structuralKey? k with
      | none => simp [freshHaveNewIds, hk, structuralEntries_cons_none hk, ih]
      | some key =>
          simp only [freshHaveNewIds, hk, structuralEntries_cons_some hk, List.forall_mem_cons,
            Bool.and_eq_true, Bool.or_eq_true, List.contains_iff_mem, ih,
            Classical.or_iff_not_imp_left]

/-! ## Leaves and commands -/

theorem distinct_members {ms : List Member} (h : (ms.map Member.name).Nodup) (name : Text) :
    InterfaceOf.Distinct { name, children := ms.map Node.member } := by
  apply InterfaceOf.distinct_iff.2
  constructor
  · simpa [Function.comp_def] using h
  · intro n hn
    obtain ⟨m, -, rfl⟩ := List.mem_map.1 hn
    exact .member m

/-- The parameters of a command are entries of one object. -/
theorem distinct_command (hkeys : (Value.textKeys es).Nodup)
    (h : (command path key es).Yields n ts) : n.Distinct := by
  obtain ⟨args, doc, hargs, -, rfl⟩ := command_yields.1 h
  obtain ⟨ms, hms, rfl⟩ := arguments_iff.1 ⟨ts, hargs⟩
  have hnames := parameters_names (parameters_iff.2 hms)
  refine .command fun i hi => ?_
  unfold argumentsOf at hi
  split at hi
  · simp at hi
  · obtain rfl := Option.some.inj hi
    apply distinct_members
    rw [hnames]
    exact structuralKeys_nodup hkeys

/-! ## Outlines -/

/-- Whether the members that a value is outlined to have different names is told by its
ids. Names that are taken may be listed in any order. -/
structure IdsDecide (v : Value) : Prop where
  outline : ∀ {path key n ts}, (outline path key v).Yields n ts →
    (n.Distinct ↔ hasNewIds v = true)
  element : ∀ {path index taken taken' ns ts}, (outlineElement path index taken v).Yields ns ts →
    (∀ key, key ∈ taken ↔ key ∈ taken') →
      (Node.Fits taken ns ↔ elementHasNewIds taken' v = true)

theorem forall₂_names {ps : List (Text × Value)} (h : List.Forall₂ (OutlinesEntry path) ps ns) :
    ns.map Node.name = ps.map Prod.fst := by
  induction h with
  | nil => rfl
  | cons hn _ ih =>
      obtain ⟨ts, hts⟩ := hn
      rw [List.map_cons, List.map_cons, outline_name _ hts, ih]

theorem forall₂_distinct {ps : List (Text × Value)} (hps : ∀ p ∈ ps, IdsDecide p.2)
    (h : List.Forall₂ (OutlinesEntry path) ps ns) :
    (∀ n ∈ ns, n.Distinct) ↔ ∀ p ∈ ps, hasNewIds p.2 = true := by
  induction h with
  | nil => simp
  | cons hn _ ih =>
      obtain ⟨ts, hts⟩ := hn
      obtain ⟨hp, hps⟩ := List.forall_mem_cons.1 hps
      rw [List.forall_mem_cons, List.forall_mem_cons, ih hps, hp.outline hts]

theorem outlineEntries_distinct (hkeys : (Value.textKeys es).Nodup)
    (hes : ∀ e ∈ es, IdsDecide e.2) (h : (outlineEntries path es).Yields ns ts) :
    ((ns.map Node.name).Nodup ∧ ∀ n ∈ ns, n.Distinct) ↔ entriesHaveNewIds es = true := by
  have hall := outlineEntries_iff.1 ⟨ts, h⟩
  have hnodup : (ns.map Node.name).Nodup := forall₂_names hall ▸ structuralKeys_nodup hkeys
  rw [forall₂_distinct (forall_structuralEntries hes) hall, entriesHaveNewIds_iff,
    and_iff_right hnodup]

theorem outlineFresh_fits (hkeys : (Value.textKeys es).Nodup) (hes : ∀ e ∈ es, IdsDecide e.2)
    (htaken : ∀ key, key ∈ taken ↔ key ∈ taken') (h : (outlineFresh path taken es).Yields ns ts) :
    Node.Fits taken ns ↔ freshHaveNewIds taken' es = true := by
  have hall := outlineFresh_iff.1 ⟨ts, h⟩
  have hnodup := structuralKeys_nodup hkeys
  rw [fresh_eq_filter hnodup] at hall
  have hnames := forall₂_names hall
  have hps : ∀ p ∈ (structuralEntries es).filter fun p => !taken.contains p.1, IdsDecide p.2 :=
    fun p hp => forall_structuralEntries hes p (List.mem_of_mem_filter hp)
  have hdistinct := forall₂_distinct hps hall
  have hiff : (∀ n ∈ ns, n.Distinct) ↔ freshHaveNewIds taken' es = true := by
    rw [hdistinct, freshHaveNewIds_iff]
    simp [htaken]
  rw [← hiff]
  constructor
  · exact fun hfits => hfits.distinct
  · intro hns
    refine ⟨?_, ?_, hns⟩
    · intro n hn
      have hmem := List.mem_map_of_mem (f := Node.name) hn
      rw [hnames] at hmem
      obtain ⟨p, hp, hname⟩ := List.mem_map.1 hmem
      have hnew := (List.mem_filter.1 hp).2
      rw [← hname]
      simpa using hnew
    · rw [hnames]
      exact hnodup.sublist (List.filter_sublist.map Prod.fst)

theorem outlineElements_fits {vs : List Value} (hvs : ∀ v ∈ vs, IdsDecide v) {index : Nat}
    (htaken : ∀ key, key ∈ taken ↔ key ∈ taken')
    (h : (outlineElements path index taken vs).Yields ns ts) :
    Node.Fits taken ns ↔ elementsHaveNewIds taken' vs = true := by
  induction vs generalizing index taken taken' ns ts with
  | nil =>
      obtain ⟨rfl, -⟩ := Script.yields_pure.1 h
      simp [elementsHaveNewIds, Node.fits_nil]
  | cons v vs ih =>
      obtain ⟨hv, hvs⟩ := List.forall_mem_cons.1 hvs
      obtain ⟨fresh, us, ms, ws, hfresh, hms, rfl, -⟩ := outlineElements_cons.1 h
      have hlater : ∀ key, key ∈ fresh.map Node.name ++ taken ↔ key ∈ taken' ++ takenBy v := by
        intro key
        rw [outlineElement_names v hfresh, List.mem_append, List.mem_append, htaken]
      rw [Node.fits_append, hv.element hfresh htaken, ih hvs hlater hms, elementsHaveNewIds,
        Bool.and_eq_true]

theorem idsDecide_map (hkeys : (Value.textKeys es).Nodup) (hes : ∀ e ∈ es, IdsDecide e.2) :
    IdsDecide (.map es) where
  outline := by
    intro path key n ts h
    rw [outline] at h
    split at h
    · rename_i hset
      simp [hasNewIds, hset, distinct_command hkeys h]
    · rename_i hset
      split at h
      · rename_i space hspace
        obtain ⟨m, -, rfl, -⟩ := leaf_yields.1 h
        simp [hasNewIds, hspace, Node.Distinct.member m]
      · rename_i hspace
        obtain ⟨ns, hns, rfl⟩ := Script.yields_map.1 h
        rw [Node.distinct_tree, outlineEntries_distinct hkeys hes hns]
        simp [hasNewIds, hset, hspace]
  element := by
    intro path index taken taken' ns ts h htaken
    cases hid : Entries.lookup idKey es with
    | some id =>
        obtain ⟨text, cs, htext, hcs, rfl⟩ := (outlineElement_some hid).1 h
        obtain ⟨-, rfl⟩ := Fault.textOf_eq_ok.1 htext
        have htree : (Node.tree .object id.toText cs).Distinct ↔ entriesHaveNewIds es = true :=
          Node.distinct_tree.trans (outlineEntries_distinct hkeys hes hcs)
        simp only [elementHasNewIds, hid, Bool.and_eq_true, Bool.not_eq_true', ← htree]
        constructor
        · intro hfits
          have hnew := hfits.notMem _ List.mem_cons_self
          exact ⟨by simpa [htaken] using hnew, hfits.distinct _ List.mem_cons_self⟩
        · rintro ⟨hnew, hdistinct⟩
          exact ⟨by simpa [htaken] using hnew, by simp, by simpa using hdistinct⟩
    | none =>
        rw [outlineElement_none hid] at h
        rw [elementHasNewIds, hid]
        exact outlineFresh_fits hkeys hes htaken h

theorem idsDecide_list {vs : List Value} (hvs : ∀ v ∈ vs, IdsDecide v) : IdsDecide (.list vs) where
  outline := by
    intro path key n ts h
    rw [outline] at h
    split at h
    · rename_i hleaf
      obtain ⟨m, -, rfl, -⟩ := leaf_yields.1 h
      simp [hasNewIds, hleaf, Node.Distinct.member m]
    · rename_i hleaf
      obtain ⟨ns, hns, rfl⟩ := Script.yields_map.1 h
      rw [Node.distinct_tree, ← Node.fits_nil_iff, outlineElements_fits hvs (fun _ => .rfl) hns]
      simp [hasNewIds, hleaf]
  element := by
    intro path index taken taken' ns ts h
    simp [outlineElement, misplaced] at h

theorem idsDecide (v : Value) (h : v.isKeyed = true) : IdsDecide v := by
  induction v using Value.nestedInduction with
  | map es ih =>
      obtain ⟨hkeys, hes⟩ := Value.isKeyed_map.1 h
      exact idsDecide_map hkeys fun e he => ih e he (hes e he)
  | list vs ih => exact idsDecide_list fun v hv => ih v hv (Value.areKeyed_iff.1 h v hv)
  | ring label v ih =>
      constructor
      · intro path key n ts hy
        rw [outline] at hy
        exact (ih h).outline hy
      · intro path index taken taken' ns ts hy
        rw [outlineElement] at hy
        exact (ih h).element hy
  | scalar v hv =>
      constructor
      · intro path key n ts hy
        cases v <;> simp_all [Value.isNested, outline, misplaced]
      · intro path index taken taken' ns ts hy
        cases v <;> simp_all [Value.isNested, outlineElement, misplaced]

end Schema

/-! ## Documents -/

/-- No object type of the document has two members of the same name. -/
structure Document.Distinct (d : Document) : Prop where
  main_nodup : (d.mainMembers.map Node.name).Nodup
  main_distinct : ∀ n ∈ d.mainMembers, n.Distinct
  interfaces_distinct : ∀ i ∈ d.interfaces, i.Distinct

namespace Schema

variable {o : Options} {cs : List Chapter}

theorem memberName_injective : Function.Injective Family.memberName := by
  intro f g h
  cases f <;> cases g <;> simp_all [Family.memberName]

theorem Chapter.Outlines.distinct_iff {p : Family × Value} {c : Chapter} (h : c.Outlines p)
    (hp : p.2.isKeyed = true) : c.interface.Distinct ↔ familyHasNewIds p.2 = true := by
  obtain ⟨-, es, ts, hes, hy⟩ := h
  have hbare := p.2.isKeyed_bare hp
  rw [hes] at hbare
  obtain ⟨hkeys, hkeyed⟩ := Value.isKeyed_map.1 hbare
  rw [familyHasNewIds, hes, InterfaceOf.distinct_iff]
  exact outlineEntries_distinct hkeys (fun e he => idsDecide e.2 (hkeyed e he)) hy

theorem forall_distinct_iff {ps : List (Family × Value)}
    (h : List.Forall₂ Chapter.Outlines ps cs) (hps : ∀ p ∈ ps, p.2.isKeyed = true) :
    (∀ c ∈ cs, c.interface.Distinct) ↔ ∀ p ∈ ps, familyHasNewIds p.2 = true := by
  induction h with
  | nil => simp
  | cons hc _ ih =>
      obtain ⟨hp, hps⟩ := List.forall_mem_cons.1 hps
      rw [List.forall_mem_cons, List.forall_mem_cons, ih hps, hc.distinct_iff hp]

theorem document_distinct_iff (h : (cs.map Chapter.family).Nodup) :
    (o.layout.addChapters cs).document.Distinct ↔ ∀ c ∈ cs, c.interface.Distinct := by
  have hentries : (cs.map Chapter.entry).map Node.name =
      (cs.map Chapter.family).map Family.memberName := by
    rw [List.map_map, List.map_map]
    rfl
  constructor
  · intro hd c hc
    apply hd.interfaces_distinct
    rw [interfaces_chapters]
    exact List.mem_flatMap.2 ⟨c, hc, List.mem_cons_self⟩
  · intro hcs
    refine ⟨?_, ?_, ?_⟩
    · rw [mainMembers_chapters, hentries]
      exact h.map memberName_injective
    · intro n hn
      rw [mainMembers_chapters] at hn
      obtain ⟨c, -, rfl⟩ := List.mem_map.1 hn
      exact .member _
    · intro i hi
      rw [interfaces_chapters] at hi
      obtain ⟨c, hc, hi⟩ := List.mem_flatMap.1 hi
      rcases List.mem_cons.1 hi with rfl | hi
      · exact hcs c hc
      · exact Node.distinct_argumentsIn (InterfaceOf.distinct_iff.1 (hcs c hc)).2 i hi

/-- The document of a schema has no object type with two members of the same name, if and
only if every id in the schema is new among the elements before it. -/
theorem compile_distinct_iff {s : Value} {d : Document} (hs : s.isKeyed = true)
    (h : compile o s = .ok d) : d.Distinct ↔ schemaHasNewIds s = true := by
  obtain ⟨es, cs, hes, hcs, -, rfl⟩ := compile_eq_ok.1 h
  have hbare := s.isKeyed_bare hs
  rw [hes] at hbare
  obtain ⟨hkeys, hkeyed⟩ := Value.isKeyed_map.1 hbare
  have hps : ∀ p ∈ familiesOf es, p.2.isKeyed = true := by
    intro p hp
    obtain ⟨e, he, heq⟩ := List.mem_filterMap.1 hp
    obtain ⟨f, -, rfl⟩ := Option.map_eq_some_iff.1 heq
    exact hkeyed e he
  have hfamilies : (cs.map Chapter.family).Nodup := families_chapters hcs ▸ families_nodup hkeys
  rw [document_distinct_iff hfamilies, forall_distinct_iff hcs hps, schemaHasNewIds, hes,
    List.all_eq_true]

theorem distinct_lineSchema : lineSchema.isKeyed = true ∧
    ∃ d, compile {} lineSchema = .ok d ∧ d.Distinct := by
  have hkeyed : lineSchema.isKeyed = true := by decide
  obtain ⟨d, hd⟩ := exists_compile_lineSchema
  exact ⟨hkeyed, d, hd, (compile_distinct_iff hkeyed hd).2 (by decide)⟩

/-- Two elements whose ids have the same text. -/
def twinSchema : Value :=
  .map [
    (.text "Command", .map [
      (.text "Line", .list [
        .map [(.text idKey, .int 1)],
        .map [(.text idKey, .text "1")]])])]

theorem not_distinct_twinSchema : ∃ d, compile {} twinSchema = .ok d ∧ ¬ d.Distinct := by
  refine ⟨_, rfl, fun h => ?_⟩
  have hcommand := h.interfaces_distinct _ List.mem_cons_self
  have hline := (InterfaceOf.distinct_iff.1 hcommand).2 _ List.mem_cons_self
  have hnames := (Node.distinct_tree.1 hline).1
  revert hnames
  decide

end Schema

end DeviceTypings
