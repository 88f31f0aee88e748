import DeviceTypings.Proofs.Schema.Grammar

namespace DeviceTypings.Schema

/-!
# Accepted schemas

A JSON value, which is what a JSON text stands for, compiles exactly if the values of
its families have outlines and no name is declared twice. Names of families, of
builtins and of arguments are never the same. So all that can be declared twice is
an interface of arguments, or the name of the main class.
-/

/-- The names of the interfaces of all arguments in a schema. -/
def argumentNames (es : Entries) : List Text :=
  (familiesOf es).flatMap fun p =>
    (familyPositions p).filterMap fun q => q.arguments.map Prod.fst

/-- What the entries of a schema have to be in order to compile. -/
structure IsSchema (o : Options) (es : Entries) : Prop where
  families : ∀ p ∈ familiesOf es, ∃ children, p.2 = .map children ∧
    ∀ q ∈ structuralEntries children, WellFormed q.2
  arguments_nodup : (argumentNames es).Nodup
  className_notMem : o.className ∉ argumentNames es
  className_ne : ∀ p ∈ familiesOf es, o.className ≠ p.1.interfaceName
  className_notMem_builtins : (∃ p ∈ familiesOf es, p.1.wrapper?.isSome = true) →
    o.className ∉ builtinNames

theorem ofKey?_eq_some {k : Value} {f : Family} (h : Family.ofKey? k = some f) :
    k = .text f.key := by
  cases k with
  | text s =>
      have hs := List.find?_some h
      rw [beq_iff_eq] at hs
      rw [hs]
  | _ => simp [Family.ofKey?] at h

theorem families_nodup {es : Entries} (h : (Value.textKeys es).Nodup) :
    ((familiesOf es).map Prod.fst).Nodup := by
  apply List.Nodup.of_map Family.key
  have hkeys : ((familiesOf es).map Prod.fst).map Family.key =
      es.filterMap fun e => (Family.ofKey? e.1).map Family.key := by
    simp [familiesOf, List.map_filterMap, Option.map_map, Function.comp_def]
  rw [hkeys]
  refine Value.filterMap_keys_nodup (f := fun k => (Family.ofKey? k).map Family.key) ?_ h
  intro k key hk
  obtain ⟨f, hf, rfl⟩ := Option.map_eq_some_iff.1 hk
  exact ofKey?_eq_some hf

/-! ## Outlines of families -/

theorem exists_outlines_isJson {p : Family × Value} (hp : p.2.isJson = true) :
    (∃ c : Chapter, c.Outlines p) ↔ ∃ children, p.2 = .map children ∧
      ∀ q ∈ structuralEntries children, WellFormed q.2 := by
  simp only [Chapter.Outlines, Value.bare_of_isJson hp]
  constructor
  · rintro ⟨c, -, es, ts, hes, hy⟩
    have hjson := (Value.isJson_map.1 (hes ▸ hp)).2
    exact ⟨es, hes, (outlineEntries_isJson [p.1.key] es hjson).1 ⟨c.nodes, ts, hy⟩⟩
  · rintro ⟨es, hes, hwell⟩
    have hjson := (Value.isJson_map.1 (hes ▸ hp)).2
    obtain ⟨ns, ts, hy⟩ := (outlineEntries_isJson [p.1.key] es hjson).2 hwell
    exact ⟨⟨p.1, ns⟩, rfl, es, ts, hes, hy⟩

theorem exists_chapters {ps : List (Family × Value)} :
    (∃ cs, List.Forall₂ Chapter.Outlines ps cs) ↔ ∀ p ∈ ps, ∃ c : Chapter, c.Outlines p := by
  induction ps with
  | nil => simp
  | cons p ps ih =>
      simp only [List.forall₂_cons_left_iff, List.forall_mem_cons, ← ih]
      constructor
      · rintro ⟨_, c, cs, hc, hcs, -⟩
        exact ⟨⟨c, hc⟩, cs, hcs⟩
      · rintro ⟨⟨c, hc⟩, cs, hcs⟩
        exact ⟨_, c, cs, hc, hcs, rfl⟩

/-! ## Names of chapters -/

section

variable {ps : List (Family × Value)} {cs : List Chapter}

theorem families_chapters (h : List.Forall₂ Chapter.Outlines ps cs) :
    cs.map Chapter.family = ps.map Prod.fst := by
  induction h with
  | nil => rfl
  | cons hc _ ih => rw [List.map_cons, List.map_cons, hc.1, ih]

theorem interfaceNames_chapters (h : List.Forall₂ Chapter.Outlines ps cs) :
    (cs.map Chapter.interface).map InterfaceOf.name = ps.map fun p => p.1.interfaceName := by
  have hnames := congrArg (List.map Family.interfaceName) (families_chapters h)
  rw [List.map_map, List.map_map] at hnames
  rw [List.map_map]
  exact hnames

theorem argumentNames_chapters (h : List.Forall₂ Chapter.Outlines ps cs) :
    (cs.flatMap Chapter.arguments).map InterfaceOf.name = ps.flatMap fun p =>
      (familyPositions p).filterMap fun q => q.arguments.map Prod.fst := by
  induction h with
  | nil => rfl
  | cons hc _ ih =>
      rw [List.flatMap_cons, List.map_append, ih, List.flatMap_cons, ← hc.positions_eq,
        Node.argumentNames_positionsIn]
      rfl

theorem any_isWrapped_chapters (h : List.Forall₂ Chapter.Outlines ps cs) :
    cs.any Chapter.isWrapped = ps.any fun p => p.1.wrapper?.isSome := by
  have hany := congrArg (List.any · fun f => f.wrapper?.isSome) (families_chapters h)
  rw [List.any_map, List.any_map] at hany
  exact hany

end

/-- The names of the interfaces in a schema, with those of the builtins if a family
needs them. -/
def declaredNames (es : Entries) : List Text :=
  (if (familiesOf es).any fun p => p.1.wrapper?.isSome then builtinNames else []) ++
    ((familiesOf es).map fun p => p.1.interfaceName) ++ argumentNames es

theorem chapterNames_perm_declaredNames {es : Entries} {cs : List Chapter}
    (h : List.Forall₂ Chapter.Outlines (familiesOf es) cs) :
    (chapterNames false cs).Perm (declaredNames es) := by
  have hperm := (interfaces_perm cs).map InterfaceOf.name
  rw [List.map_append, interfaceNames_chapters h, argumentNames_chapters h] at hperm
  have hnames := (chapterNames_perm false cs).trans (hperm.append_left _)
  rwa [any_isWrapped_chapters h, ← List.append_assoc] at hnames

theorem exists_eq_argsName {es : Entries} {cs : List Chapter}
    (h : List.Forall₂ Chapter.Outlines (familiesOf es) cs) {name : Text}
    (hname : name ∈ argumentNames es) : ∃ path, name = argsName path := by
  rw [argumentNames, ← argumentNames_chapters h] at hname
  obtain ⟨i, hi, rfl⟩ := List.mem_map.1 hname
  obtain ⟨c, hc, hi⟩ := List.mem_flatMap.1 hi
  obtain ⟨p, -, hp⟩ := exists_outlines_of_mem h hc
  obtain ⟨keys, hkeys⟩ := hp.exists_name_eq hi
  exact ⟨_, hkeys⟩

/-- Of the names that are declared, only those of arguments can come twice. -/
theorem declaredNames_nodup {es : Entries} (hkeys : (Value.textKeys es).Nodup)
    (hargs : ∀ name ∈ argumentNames es, ∃ path, name = argsName path) :
    (declaredNames es).Nodup ↔ (argumentNames es).Nodup := by
  have hfamilies : ((familiesOf es).map fun p => p.1.interfaceName).Nodup := by
    have h := (families_nodup hkeys).map interfaceName_injective
    rwa [List.map_map] at h
  have hbuiltins (b : Bool) : (if b then builtinNames else []).Nodup := by
    cases b <;> decide
  have hmem (b : Bool) (name : Text) (h : name ∈ if b then builtinNames else []) :
      name ∈ builtinNames := by
    cases b <;> simp_all
  -- Builtins, families and arguments have names of three disjoint forms.
  have hdeclared : ((if (familiesOf es).any fun p => p.1.wrapper?.isSome then builtinNames
      else []) ++ (familiesOf es).map fun p => p.1.interfaceName).Nodup := by
    refine List.nodup_append.2 ⟨hbuiltins _, hfamilies, ?_⟩
    rintro a ha b hb rfl
    obtain ⟨p, -, rfl⟩ := List.mem_map.1 hb
    exact interfaceName_notMem_builtinNames p.1 (hmem _ _ ha)
  rw [declaredNames, List.nodup_append]
  refine ⟨fun h => h.2.1, fun h => ⟨hdeclared, h, ?_⟩⟩
  rintro a ha b hb rfl
  obtain ⟨path, rfl⟩ := hargs a hb
  rcases List.mem_append.1 ha with ha | ha
  · exact argsName_notMem_builtinNames path (hmem _ _ ha)
  · obtain ⟨p, -, hp⟩ := List.mem_map.1 ha
    exact argsName_ne_interfaceName path p.1 hp.symm

theorem notMem_declaredNames {es : Entries} {name : Text} :
    name ∉ declaredNames es ↔
      ((∃ p ∈ familiesOf es, p.1.wrapper?.isSome = true) → name ∉ builtinNames) ∧
        (∀ p ∈ familiesOf es, name ≠ p.1.interfaceName) ∧ name ∉ argumentNames es := by
  have hbuiltins : (name ∉ if (familiesOf es).any fun p => p.1.wrapper?.isSome
      then builtinNames else []) ↔
        ((∃ p ∈ familiesOf es, p.1.wrapper?.isSome = true) → name ∉ builtinNames) := by
    rw [← List.any_eq_true]
    cases (familiesOf es).any fun p => p.1.wrapper?.isSome <;> simp
  simp only [declaredNames, List.mem_append, not_or, hbuiltins, List.mem_map, not_exists, not_and,
    and_assoc]
  simp only [eq_comm]

/-- A JSON value compiles exactly if it is an object whose entries are a schema. -/
theorem exists_compile_eq_ok_iff {o : Options} {s : Value} (h : s.isJson = true) :
    (∃ d, compile o s = .ok d) ↔ ∃ es, s = .map es ∧ IsSchema o es := by
  simp only [compile_eq_ok, Value.bare_of_isJson h]
  constructor
  · rintro ⟨d, es, cs, rfl, hcs, hnames, -⟩
    obtain ⟨hkeys, hes⟩ := Value.isJson_map.1 h
    have hp := chapterNames_perm_declaredNames hcs
    obtain ⟨hname, hnodup⟩ := List.nodup_cons.1 ((hp.cons o.className).nodup_iff.1 hnames)
    obtain ⟨hbuiltins, hfamilies, hargs⟩ := notMem_declaredNames.1 hname
    refine ⟨es, rfl, ?_, ?_, hargs, hfamilies, hbuiltins⟩
    · intro p hp
      exact (exists_outlines_isJson (Value.isJson_of_mem_filterMap hes hp)).1
        (exists_chapters.1 ⟨cs, hcs⟩ p hp)
    · exact (declaredNames_nodup hkeys fun _ => exists_eq_argsName hcs).1 hnodup
  · rintro ⟨es, rfl, hs⟩
    obtain ⟨hkeys, hes⟩ := Value.isJson_map.1 h
    obtain ⟨cs, hcs⟩ : ∃ cs, List.Forall₂ Chapter.Outlines (familiesOf es) cs :=
      exists_chapters.2 fun p hp =>
        (exists_outlines_isJson (Value.isJson_of_mem_filterMap hes hp)).2 (hs.families p hp)
    have hp := chapterNames_perm_declaredNames hcs
    have hnodup := (declaredNames_nodup hkeys fun _ => exists_eq_argsName hcs).2 hs.arguments_nodup
    have hname := notMem_declaredNames.2
      ⟨hs.className_notMem_builtins, hs.className_ne, hs.className_notMem⟩
    exact ⟨_, es, cs, rfl, hcs,
      (hp.cons o.className).nodup_iff.2 (List.nodup_cons.2 ⟨hname, hnodup⟩), rfl⟩

theorem isSchema_lineSchema : lineSchema.isJson = true ∧
    ∃ es, lineSchema = .map es ∧ IsSchema {} es := by
  have hjson : lineSchema.isJson = true := by decide
  exact ⟨hjson, (exists_compile_eq_ok_iff hjson).1 exists_compile_lineSchema⟩

end DeviceTypings.Schema
