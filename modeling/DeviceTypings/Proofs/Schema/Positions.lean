import DeviceTypings.Proofs.Node.Position
import DeviceTypings.Proofs.Schema.Compiled

namespace DeviceTypings.Schema

/-!
# Positions in a schema

The places in the value of a family that call for a member, in the order of the
schema. They are read off the value alone. The members of the interface of a
family have the same positions, so that nothing of the schema is lost, doubled
or moved, and nothing is made up.
-/

/-- The interface of the arguments of a command, if it has parameters. -/
def shownArguments (path : List Text) (es : Entries) : Option (Text × List (Text × Kind)) :=
  match structuralKeys es with
  | [] => none
  | keys => some (argsName path, keys.map (·, .member))

/-- The names that an element of a keyed array takes. -/
def takenBy : Value → List Text
  | .map es =>
      match Entries.lookup idKey es with
      | some id => [id.toText]
      | none => structuralKeys es
  | .ring _ v => takenBy v
  | _ => []

mutual

/-- The positions at `path` and below for the value there. -/
def positions (path : List Text) : Value → List Position
  | .map es =>
      if isSet (Entries.lookup commandKey es) then
        [{ path, kind := .command, arguments := shownArguments path es }]
      else if (Entries.lookup valueSpaceKey es).isSome then [{ path, kind := .member }]
      else { path, kind := .tree .object } :: entryPositions path es
  | .list vs =>
      if (leadingLeaf? vs).isSome then [{ path, kind := .member }]
      else { path, kind := .tree .collection } :: elementPositions path [] vs
  | .ring _ v => positions path v
  | _ => []
termination_by structural v => v

def entryPositions (path : List Text) : List (Value × Value) → List Position
  | [] => []
  | (k, v) :: es =>
      match structuralKey? k with
      | none => entryPositions path es
      | some key => positions (path ++ [key]) v ++ entryPositions path es
termination_by structural es => es

/-- The positions for the elements of a keyed array, after elements that have
taken some names. -/
def elementPositions (path taken : List Text) : List Value → List Position
  | [] => []
  | v :: vs => elementPosition path taken v ++ elementPositions path (taken ++ takenBy v) vs
termination_by structural vs => vs

def elementPosition (path taken : List Text) : Value → List Position
  | .map es =>
      match Entries.lookup idKey es with
      | some id =>
          { path := path ++ [id.toText], kind := .tree .object } ::
            entryPositions (path ++ [id.toText]) es
      | none => freshPositions path taken es
  | .ring _ v => elementPosition path taken v
  | _ => []
termination_by structural v => v

/-- The positions for the entries whose keys are not taken. -/
def freshPositions (path taken : List Text) : List (Value × Value) → List Position
  | [] => []
  | (k, v) :: es =>
      match structuralKey? k with
      | none => freshPositions path taken es
      | some key =>
          if taken.contains key then freshPositions path taken es
          else positions (path ++ [key]) v ++ freshPositions path (key :: taken) es
termination_by structural es => es

end

/-- The positions below the interface of a family. -/
def familyPositions (p : Family × Value) : List Position :=
  match p.2.bare with
  | .map es => entryPositions [p.1.key] es
  | _ => []

/-! ## Which names are taken -/

theorem structuralEntries_cons_none {k v : Value} {es : Entries} (h : structuralKey? k = none) :
    structuralEntries ((k, v) :: es) = structuralEntries es := by
  simp [structuralEntries, h]

theorem structuralEntries_cons_some {k v : Value} {es : Entries} {key : Text}
    (h : structuralKey? k = some key) :
    structuralEntries ((k, v) :: es) = (key, v) :: structuralEntries es := by
  simp [structuralEntries, h]

theorem structuralKeys_cons_none {k v : Value} {es : Entries} (h : structuralKey? k = none) :
    structuralKeys ((k, v) :: es) = structuralKeys es := by
  rw [structuralKeys, structuralEntries_cons_none h, structuralKeys]

theorem structuralKeys_cons_some {k v : Value} {es : Entries} {key : Text}
    (h : structuralKey? k = some key) :
    structuralKeys ((k, v) :: es) = key :: structuralKeys es := by
  rw [structuralKeys, structuralEntries_cons_some h, List.map_cons, structuralKeys]

/-- The order of the taken names is of no account. -/
theorem freshPositions_congr {path taken taken' : List Text} (es : Entries)
    (h : ∀ key, key ∈ taken ↔ key ∈ taken') :
    freshPositions path taken es = freshPositions path taken' es := by
  induction es generalizing taken taken' with
  | nil => rfl
  | cons e es ih =>
      obtain ⟨k, v⟩ := e
      simp only [freshPositions]
      split
      · exact ih h
      · rename_i key _
        have hc : taken.contains key = taken'.contains key := by
          rw [Bool.eq_iff_iff, List.contains_iff_mem, List.contains_iff_mem, h key]
        have hk : ∀ k, k ∈ key :: taken ↔ k ∈ key :: taken' := by simp [h]
        rw [hc, ih h, ih hk]

theorem elementPosition_congr {path taken taken' : List Text} (v : Value)
    (h : ∀ key, key ∈ taken ↔ key ∈ taken') :
    elementPosition path taken v = elementPosition path taken' v := by
  cases v with
  | map es => rw [elementPosition, elementPosition, freshPositions_congr es h]
  | ring _ v => exact elementPosition_congr v h
  | _ => rfl
termination_by structural v

theorem elementPositions_congr {path taken taken' : List Text} (vs : List Value)
    (h : ∀ key, key ∈ taken ↔ key ∈ taken') :
    elementPositions path taken vs = elementPositions path taken' vs := by
  induction vs generalizing taken taken' with
  | nil => rfl
  | cons v vs ih =>
      have ht : ∀ key, key ∈ taken ++ takenBy v ↔ key ∈ taken' ++ takenBy v := by simp [h]
      rw [elementPositions, elementPositions, elementPosition_congr v h, ih ht]

/-! ## The names of outlines -/

theorem leaf_name {path : List Text} {key : Text} {es : Entries} {space : Value} {m : Member}
    (h : leaf path key es space = .ok m) : m.name = key := by
  obtain ⟨type, doc, -, -, rfl⟩ := leaf_eq_ok.1 h
  rfl

theorem parameter_name {path : List Text} {key : Text} {v : Value} {m : Member}
    (h : parameter path key v = .ok m) : m.name = key := by
  unfold parameter at h
  split at h
  · unfold parameterAt at h
    split at h
    · split at h
      · exact leaf_name h
      · simp at h
    · simp at h
  · simp at h

theorem parameters_names {path : List Text} {ps : List (Text × Value)} {ms : List Member}
    (h : parameters path ps = .ok ms) : ms.map Member.name = ps.map Prod.fst := by
  induction ps generalizing ms with
  | nil => simp_all [parameters]
  | cons p ps ih =>
      obtain ⟨m, ms, hm, hms, rfl⟩ := parameters_cons_eq_ok.1 h
      rw [List.map_cons, List.map_cons, parameter_name hm, ih hms]

/-- The members of arguments are named after the parameters, in their order. -/
theorem arguments_shown {path : List Text} {es : Entries} {args : Option Interface}
    {ts : List Step} (h : (arguments path (structuralEntries es)).Yields args ts) :
    args.map Node.showArguments = shownArguments path es := by
  unfold shownArguments structuralKeys
  cases hes : structuralEntries es with
  | nil =>
      rw [hes] at h
      obtain ⟨rfl, -⟩ := arguments_nil_yields.1 h
      rfl
  | cons p ps =>
      rw [hes] at h
      obtain ⟨ms, hms, rfl, -⟩ := arguments_cons_yields.1 h
      have hnames := parameters_names hms
      have hkinds : (ms.map Node.member).map (fun n => (n.name, n.kind)) =
          (ms.map Member.name).map (·, Kind.member) := by
        simp [Node.kind, Function.comp_def]
      simp only [Option.map_some, Node.showArguments, hkinds, hnames]
      rfl

theorem outline_name {path : List Text} {key : Text} (v : Value) {n : Node} {ts : List Step}
    (h : (outline path key v).Yields n ts) : n.name = key := by
  cases v with
  | map es =>
      rw [outline] at h
      split at h
      · obtain ⟨args, doc, -, -, rfl⟩ := command_yields.1 h
        rfl
      · split at h
        · obtain ⟨m, hm, rfl, -⟩ := leaf_yields.1 h
          exact leaf_name hm
        · obtain ⟨ns, -, rfl⟩ := Script.yields_map.1 h
          rfl
  | list vs =>
      rw [outline] at h
      split at h
      · obtain ⟨m, hm, rfl, -⟩ := leaf_yields.1 h
        exact leaf_name hm
      · obtain ⟨ns, -, rfl⟩ := Script.yields_map.1 h
        rfl
  | ring _ v => exact outline_name v (by rwa [outline] at h)
  | _ => simp [outline, misplaced] at h
termination_by structural v

theorem outlineFresh_names {path taken : List Text} {es : Entries} {ns : List Node}
    {ts : List Step} (h : (outlineFresh path taken es).Yields ns ts) (key : Text) :
    key ∈ ns.map Node.name ++ taken ↔ key ∈ taken ++ structuralKeys es := by
  induction es generalizing taken ns ts with
  | nil =>
      obtain ⟨rfl, -⟩ := Script.yields_pure.1 h
      simp [structuralKeys, structuralEntries]
  | cons e es ih =>
      obtain ⟨k, v⟩ := e
      cases hk : structuralKey? k with
      | none =>
          rw [outlineFresh_cons_none hk] at h
          rw [structuralKeys_cons_none hk]
          exact ih h
      | some key' =>
          rw [structuralKeys_cons_some hk]
          by_cases ht : key' ∈ taken
          · rw [ih ((outlineFresh_cons_mem hk ht).1 h)]
            grind
          · obtain ⟨n, us, ms, vs, hn, hms, rfl, -⟩ := (outlineFresh_cons_notMem hk ht).1 h
            have hi := ih hms
            rw [List.map_cons, outline_name v hn]
            grind

theorem outlineElement_names {path : List Text} {index : Nat} {taken : List Text} (v : Value)
    {ns : List Node} {ts : List Step} (h : (outlineElement path index taken v).Yields ns ts)
    (key : Text) : key ∈ ns.map Node.name ++ taken ↔ key ∈ taken ++ takenBy v := by
  cases v with
  | map es =>
      cases hid : Entries.lookup idKey es with
      | some id =>
          obtain ⟨text, cs, htext, -, rfl⟩ := (outlineElement_some hid).1 h
          obtain ⟨-, rfl⟩ := Fault.textOf_eq_ok.1 htext
          simp [takenBy, hid, or_comm]
      | none =>
          rw [outlineElement_none hid] at h
          simpa only [takenBy, hid] using outlineFresh_names h key
  | ring _ v => exact outlineElement_names v (by rwa [outlineElement] at h) key
  | _ => simp [outlineElement, misplaced] at h
termination_by structural v

/-! ## Outlines keep positions -/

mutual

theorem positions_outline {above : List Text} {key : Text} (v : Value) {n : Node}
    {ts : List Step} (h : (outline (above ++ [key]) key v).Yields n ts) :
    n.positions above = positions (above ++ [key]) v := by
  have hname := outline_name v h
  cases v with
  | map es =>
      rw [outline] at h
      rw [positions]
      split at h
      · rename_i hc
        obtain ⟨args, doc, hargs, -, rfl⟩ := command_yields.1 h
        simp [Node.positions, hc, arguments_shown hargs]
      · rename_i hc
        split at h
        · rename_i space hs
          obtain ⟨m, -, rfl, -⟩ := leaf_yields.1 h
          rw [Node.name_member] at hname
          simp [Node.positions, hc, hs, hname]
        · rename_i hs
          obtain ⟨ns, hns, rfl⟩ := Script.yields_map.1 h
          simp [Node.positions, hc, hs, positions_outlineEntries es hns]
  | list vs =>
      rw [outline] at h
      rw [positions]
      split at h
      · rename_i hl
        obtain ⟨m, -, rfl, -⟩ := leaf_yields.1 h
        rw [Node.name_member] at hname
        simp [Node.positions, hl, hname]
      · rename_i hl
        obtain ⟨ns, hns, rfl⟩ := Script.yields_map.1 h
        simp [Node.positions, hl, positions_outlineElements vs hns]
  | ring _ v => exact positions_outline v (by rwa [outline] at h)
  | _ => simp [outline, misplaced] at h
termination_by structural v

theorem positions_outlineEntries {path : List Text} (es : List (Value × Value)) {ns : List Node}
    {ts : List Step} (h : (outlineEntries path es).Yields ns ts) :
    Node.positionsIn path ns = entryPositions path es := by
  cases es with
  | nil =>
      obtain ⟨rfl, -⟩ := Script.yields_pure.1 h
      rfl
  | cons e es =>
      obtain ⟨k, v⟩ := e
      cases hk : structuralKey? k with
      | none =>
          rw [outlineEntries_cons_none hk] at h
          rw [entryPositions, hk]
          exact positions_outlineEntries es h
      | some key =>
          obtain ⟨n, us, ms, vs, hn, hms, rfl, -⟩ := (outlineEntries_cons_some hk).1 h
          rw [entryPositions, hk, Node.positionsIn_cons, positions_outline v hn,
            positions_outlineEntries es hms]
termination_by structural es

theorem positions_outlineElements {path : List Text} {index : Nat} {taken : List Text}
    (vs : List Value) {ns : List Node} {ts : List Step}
    (h : (outlineElements path index taken vs).Yields ns ts) :
    Node.positionsIn path ns = elementPositions path taken vs := by
  cases vs with
  | nil =>
      obtain ⟨rfl, -⟩ := Script.yields_pure.1 h
      rfl
  | cons v vs =>
      obtain ⟨fresh, us, ms, ws, hv, hms, rfl, -⟩ := outlineElements_cons.1 h
      -- The outline takes the names of its members, the positions those of the entries.
      -- They are the same names in another order.
      rw [Node.positionsIn_append, positions_outlineElement v hv, positions_outlineElements vs hms,
        elementPositions, elementPositions_congr vs (outlineElement_names v hv)]
termination_by structural vs

theorem positions_outlineElement {path : List Text} {index : Nat} {taken : List Text}
    (v : Value) {ns : List Node} {ts : List Step}
    (h : (outlineElement path index taken v).Yields ns ts) :
    Node.positionsIn path ns = elementPosition path taken v := by
  cases v with
  | map es =>
      cases hid : Entries.lookup idKey es with
      | some id =>
          obtain ⟨text, cs, htext, hcs, rfl⟩ := (outlineElement_some hid).1 h
          obtain ⟨-, rfl⟩ := Fault.textOf_eq_ok.1 htext
          simp [Node.positionsIn_cons, Node.positions, elementPosition, hid,
            positions_outlineEntries es hcs]
      | none =>
          rw [outlineElement_none hid] at h
          rw [elementPosition, hid]
          exact positions_outlineFresh es h
  | ring _ v => exact positions_outlineElement v (by rwa [outlineElement] at h)
  | _ => simp [outlineElement, misplaced] at h
termination_by structural v

theorem positions_outlineFresh {path taken : List Text} (es : List (Value × Value))
    {ns : List Node} {ts : List Step} (h : (outlineFresh path taken es).Yields ns ts) :
    Node.positionsIn path ns = freshPositions path taken es := by
  cases es with
  | nil =>
      obtain ⟨rfl, -⟩ := Script.yields_pure.1 h
      rfl
  | cons e es =>
      obtain ⟨k, v⟩ := e
      cases hk : structuralKey? k with
      | none =>
          rw [outlineFresh_cons_none hk] at h
          rw [freshPositions, hk]
          exact positions_outlineFresh es h
      | some key =>
          by_cases ht : key ∈ taken
          · simp only [freshPositions, hk, List.contains_iff_mem, ht, if_true]
            exact positions_outlineFresh es ((outlineFresh_cons_mem hk ht).1 h)
          · obtain ⟨n, us, ms, vs, hn, hms, rfl, -⟩ := (outlineFresh_cons_notMem hk ht).1 h
            simp only [freshPositions, hk, List.contains_iff_mem, ht, if_false]
            rw [Node.positionsIn_cons, positions_outline v hn, positions_outlineFresh es hms]
termination_by structural es

end

theorem Chapter.Outlines.positions_eq {p : Family × Value} {c : Chapter} (h : c.Outlines p) :
    Node.positionsIn [p.1.key] c.nodes = familyPositions p := by
  obtain ⟨-, es, ts, hes, hy⟩ := h
  rw [familyPositions, hes]
  exact positions_outlineEntries es hy

/-! ## Documents keep positions -/

/-- The interface of a family has its members in the places that the value of the
family calls for. -/
structure Shows (d : Document) (p : Family × Value) (i : Interface) : Prop where
  name_eq : i.name = p.1.interfaceName
  bases_eq : i.bases = []
  found : d.interface? p.1.interfaceName = some i
  positions_eq : Node.positionsIn [p.1.key] i.children = familyPositions p

/-- A document has what the entries of a schema call for, in their order. -/
structure Mirrors (es : Entries) (d : Document) : Prop where
  members : d.main?.map MainClass.children =
    some ((familiesOf es).map fun p => .member { name := p.1.memberName, type := p.1.type })
  /-- Each family has one interface, followed by those of its arguments. -/
  interfaces : ∃ is, List.Forall₂ (Shows d) (familiesOf es) is ∧
    d.interfaces = is.flatMap fun i => i :: Node.argumentsIn i.children

theorem entries_chapters {ps : List (Family × Value)} {cs : List Chapter}
    (h : List.Forall₂ Chapter.Outlines ps cs) : cs.map Chapter.entry =
      ps.map fun p => .member { name := p.1.memberName, type := p.1.type } := by
  induction h with
  | nil => rfl
  | @cons p c _ _ hc _ ih => rw [List.map_cons, List.map_cons, ih, Chapter.entry, hc.1]

theorem shows_chapters {d : Document} {ps : List (Family × Value)} {cs : List Chapter}
    (hd : ∀ c ∈ cs, d.interface? c.interface.name = some c.interface)
    (h : List.Forall₂ Chapter.Outlines ps cs) :
    List.Forall₂ (Shows d) ps (cs.map Chapter.interface) := by
  induction h with
  | nil => exact .nil
  | @cons p c _ _ hc _ ih =>
      obtain ⟨hfound, hrest⟩ := List.forall_mem_cons.1 hd
      have hname : c.interface.name = p.1.interfaceName := congrArg Family.interfaceName hc.1
      exact .cons ⟨hname, rfl, hname ▸ hfound, hc.positions_eq⟩ (ih hrest)

/-- Compiling a schema keeps all that it describes, once and in its place, and
adds nothing. -/
theorem compile_mirrors {o : Options} {s : Value} {d : Document} (h : compile o s = .ok d) :
    ∃ es, s.bare = .map es ∧ Mirrors es d := by
  obtain ⟨es, cs, hes, hcs, hnames, rfl⟩ := compile_eq_ok.1 h
  have hnodup : ((cs.flatMap Chapter.interfaces).map InterfaceOf.name).Nodup :=
    interfaceNames_nodup (List.nodup_cons.1 hnames).2
  have hfound : ∀ c ∈ cs, (o.layout.addChapters cs).document.interface? c.interface.name =
      some c.interface := by
    intro c hc
    apply interface?_eq_some
    · rwa [interfaces_chapters]
    · rw [interfaces_chapters]
      exact List.mem_flatMap.2 ⟨c, hc, List.mem_cons_self⟩
  refine ⟨es, hes, ?_, cs.map Chapter.interface, shows_chapters hfound hcs, ?_⟩
  · rw [Layout.main?_document, ← entries_chapters hcs]
    simp [Layout.addChapters, Options.layout]
  · rw [interfaces_chapters, List.flatMap_map]
    rfl

theorem mirrors_lineSchema : ∃ d, compile {} lineSchema = .ok d ∧
    ∃ es, lineSchema.bare = .map es ∧ Mirrors es d := by
  obtain ⟨d, hd⟩ := exists_compile_lineSchema
  exact ⟨d, hd, compile_mirrors hd⟩

end DeviceTypings.Schema
