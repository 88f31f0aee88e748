import DeviceTypings.Proofs.Schema.Positions
import DeviceTypings.Proofs.Value.Json

namespace DeviceTypings.Schema

/-!
# The grammar of schemas

Which JSON values may stand under a structural key, said without outlining them.
An array of leaves counts by its first element alone. In any other array a key is
looked at only where it comes first. These are the values that have an outline.
-/

/-- The types that need no constants. -/
def simpleTypes : List Text := ["Integer", "String", "IntegerArray", "StringArray"]

def literalTypes : List Text := ["Literal", "LiteralArray"]

/-- The descriptor of the type of a leaf. -/
inductive IsSpace : Value → Prop
  | simple {es : Entries} {name : Text} (htype : Entries.lookup typeKey es = some (.text name))
      (hname : name ∈ simpleTypes) : IsSpace (.map es)
  | literal {es : Entries} {name : Text} {c : Value} {cs : List Value}
      (htype : Entries.lookup typeKey es = some (.text name)) (hname : name ∈ literalTypes)
      (hvalues : Entries.lookup constantsKey es = some (.list (c :: cs))) : IsSpace (.map es)

/-- An object with the descriptor of a type. -/
inductive IsLeaf : Value → Prop
  | mk {es : Entries} {space : Value} (hlookup : Entries.lookup valueSpaceKey es = some space)
      (hspace : IsSpace space) : IsLeaf (.map es)

/-- What describes a parameter of a command. -/
inductive IsParameter : Value → Prop
  | leaf {es : Entries} (h : IsLeaf (.map es)) : IsParameter (.map es)
  | first {v : Value} {vs : List Value} (h : IsLeaf v) : IsParameter (.list (v :: vs))

/-- What may stand under a structural key. -/
inductive WellFormed : Value → Prop
  | command {es : Entries} (hcommand : isSet (Entries.lookup commandKey es) = true)
      (hparameters : ∀ p ∈ structuralEntries es, IsParameter p.2) : WellFormed (.map es)
  | leaf {es : Entries} (hcommand : isSet (Entries.lookup commandKey es) = false)
      (hleaf : IsLeaf (.map es)) : WellFormed (.map es)
  | tree {es : Entries} (hcommand : isSet (Entries.lookup commandKey es) = false)
      (hspace : Entries.lookup valueSpaceKey es = none)
      (hentries : ∀ p ∈ structuralEntries es, WellFormed p.2) : WellFormed (.map es)
  | leaves {v : Value} {vs : List Value} (h : IsLeaf v) : WellFormed (.list (v :: vs))
  | collection {vs : List Value}
      (hfirst : ∀ es, vs.head? = some (.map es) → Entries.lookup valueSpaceKey es = none)
      (hmaps : ∀ v ∈ vs, ∃ es, v = .map es)
      (hentries : ∀ before es after, vs = before ++ .map es :: after →
        ∀ p ∈ structuralEntries es,
          (Entries.lookup idKey es).isSome = true ∨ p.1 ∉ before.flatMap takenBy →
            WellFormed p.2) : WellFormed (.list vs)

/-! ## Parts of JSON values -/

theorem textOf_isJson {v : Value} (h : v.isJson = true) : Fault.textOf v = .ok v.toText :=
  Fault.textOf_eq_ok.2 ⟨v.flaw?_of_isJson h, rfl⟩

theorem docstring_isJson {es : Entries}
    (hes : Value.areJsonEntries es = true) :
    ∃ r, docstring es = .ok r := by
  unfold docstring
  split
  · rename_i v hv
    split
    · exact ⟨_, rfl⟩
    · exact ⟨_, by rw [textOf_isJson (Value.isJson_of_lookup hes hv)]; rfl⟩
  · exact ⟨_, rfl⟩

/-! ## Leaves -/

theorem union_isJson {v : Value} {vs : List Value} (hv : v.isJson = true)
    (hvs : ∀ w ∈ vs, w.isJson = true) : ∃ t, union v vs = .ok t := by
  have htexts : vs.mapM Fault.textOf = .ok (vs.map Value.toText) := by
    induction vs with
    | nil => rfl
    | cons w ws ih =>
        rw [List.mapM_cons, textOf_isJson (hvs w List.mem_cons_self),
          ih fun x hx => hvs x (List.mem_cons_of_mem _ hx)]
        rfl
  exact ⟨_, by rw [union, textOf_isJson hv, htexts]; rfl⟩

theorem simpleType?_eq_some {name : Text} :
    (∃ t, simpleType? name = some t) ↔ name ∈ simpleTypes := by
  simp only [simpleType?, typeTable, List.lookup_cons, simpleTypes]
  repeat' split
  all_goals simp_all

theorem literalType?_eq_some {name : Text} :
    (∃ w, literalType? name = some w) ↔ name ∈ literalTypes := by
  unfold literalType?
  split_ifs <;> simp_all [literalTypes]

theorem constants?_isJson {v c : Value} {cs : List Value} (hv : v.isJson = true) :
    constants? v = some (c, cs) ↔ v = .list (c :: cs) := by
  unfold constants?
  rw [v.bare_of_isJson hv]
  split <;> simp_all

theorem namedType_isJson {path : List Text} {es : Entries} {name : Text}
    (hes : Value.areJsonEntries es = true) :
    (∃ t, namedType path es name = .ok t) ↔ name ∈ simpleTypes ∨ name ∈ literalTypes ∧
      ∃ c cs, Entries.lookup constantsKey es = some (.list (c :: cs)) := by
  unfold namedType
  split
  · rename_i t ht
    simp [simpleType?_eq_some.1 ⟨t, ht⟩]
  · rename_i ht
    have hname : name ∉ simpleTypes := by simp [← simpleType?_eq_some, ht]
    split
    · rename_i hw
      have hname' : name ∉ literalTypes := by simp [← literalType?_eq_some, hw]
      simp [hname, hname']
    · rename_i wrap hw
      have hname' : name ∈ literalTypes := literalType?_eq_some.1 ⟨wrap, hw⟩
      simp only [hname, hname', false_or, true_and]
      cases hv : Entries.lookup constantsKey es with
      | none => simp
      | some v =>
          have hjson := Value.isJson_of_lookup hes hv
          simp only [Option.bind_some, Option.some.injEq]
          cases hc : constants? v with
          | none =>
              have hlist (c : Value) (cs : List Value) : v ≠ .list (c :: cs) := by
                simp [← constants?_isJson hjson, hc]
              simp [hlist]
          | some p =>
              obtain ⟨c, cs⟩ := p
              have hlist := (constants?_isJson hjson).1 hc
              rw [hlist, Value.isJson_list] at hjson
              obtain ⟨t, ht⟩ := union_isJson (hjson c List.mem_cons_self)
                fun w hw => hjson w (List.mem_cons_of_mem _ hw)
              simp [hlist, ht, Except.map]

theorem isSpace_map {es : Entries} : IsSpace (.map es) ↔
    ∃ name, Entries.lookup typeKey es = some (.text name) ∧
      (name ∈ simpleTypes ∨ name ∈ literalTypes ∧
        ∃ c cs, Entries.lookup constantsKey es = some (.list (c :: cs))) := by
  constructor
  · intro h
    cases h with
    | simple htype hname => exact ⟨_, htype, .inl hname⟩
    | literal htype hname hvalues => exact ⟨_, htype, .inr ⟨hname, _, _, hvalues⟩⟩
  · rintro ⟨name, htype, hname | ⟨hname, c, cs, hvalues⟩⟩
    · exact .simple htype hname
    · exact .literal htype hname hvalues

theorem inferType_isJson {path : List Text} {space : Value} (hs : space.isJson = true) :
    (∃ t, inferType path space = .ok t) ↔ IsSpace space := by
  rw [inferType, spaceType, space.bare_of_isJson hs]
  split
  · rename_i es
    have hes := (Value.isJson_map.1 hs).2
    rw [isSpace_map]
    split
    · rename_i ht
      simp [ht]
    · rename_i ht
      simp [ht]
    · rename_i name ht
      simp [ht, namedType_isJson hes]
    · rename_i v hnull htext ht
      simp only [ht, reduceCtorEq, exists_false, Option.some.injEq, false_iff]
      rintro ⟨name, rfl, -⟩
      exact htext name rfl
  · rename_i v hmap
    simp only [reduceCtorEq, exists_false, false_iff]
    intro h
    cases h with
    | simple => exact hmap _ rfl
    | literal => exact hmap _ rfl

theorem leaf_isJson (path : List Text) (key : Text) {es : Entries} {space : Value}
    (hes : Value.areJsonEntries es = true)
    (hs : space.isJson = true) :
    (∃ m, leaf path key es space = .ok m) ↔ IsSpace space := by
  rw [← inferType_isJson hs]
  obtain ⟨doc, hdoc⟩ := docstring_isJson hes
  constructor
  · rintro ⟨m, hm⟩
    obtain ⟨type, _, htype, -⟩ := leaf_eq_ok.1 hm
    exact ⟨type, htype⟩
  · rintro ⟨type, htype⟩
    exact ⟨_, leaf_eq_ok.2 ⟨type, doc, htype, hdoc, rfl⟩⟩

theorem parameterAt_isJson {path : List Text} {key : Text} {v : Value}
    (hv : v.isJson = true) : (∃ m, parameterAt path key v = .ok m) ↔ IsLeaf v := by
  rw [parameterAt, v.bare_of_isJson hv]
  split
  · rename_i es
    have hes := (Value.isJson_map.1 hv).2
    split
    · rename_i space hs
      rw [leaf_isJson path key hes (Value.isJson_of_lookup hes hs)]
      constructor
      · exact .mk hs
      · rintro ⟨hlookup, hspace⟩
        obtain rfl := Option.some.inj (hs.symm.trans hlookup)
        exact hspace
    · rename_i hs
      simp only [reduceCtorEq, exists_false, false_iff]
      rintro ⟨hlookup, -⟩
      simp [hs] at hlookup
  · rename_i w hmap
    simp only [reduceCtorEq, exists_false, false_iff]
    rintro ⟨-, -⟩
    exact hmap _ rfl

theorem isParameter_iff_isLeaf {v : Value} (h : ∀ vs, v ≠ .list vs) : IsParameter v ↔ IsLeaf v := by
  constructor
  · intro hp
    cases hp with
    | leaf hl => exact hl
    | first => exact absurd rfl (h _)
  · intro hl
    cases hl with
    | mk hlookup hspace => exact .leaf (.mk hlookup hspace)

theorem parameter_isJson (path : List Text) (key : Text) {v : Value} (hv : v.isJson = true) :
    (∃ m, parameter path key v = .ok m) ↔ IsParameter v := by
  unfold parameter describedBy
  rw [v.bare_of_isJson hv]
  cases v with
  | list vs =>
      cases vs with
      | nil =>
          simp only [reduceCtorEq, exists_false, false_iff]
          intro h
          cases h
      | cons w ws =>
          have hw := Value.isJson_list.1 hv w List.mem_cons_self
          rw [parameterAt_isJson hw]
          constructor
          · exact .first
          · intro h
            cases h with
            | first hl => exact hl
  | _ => rw [isParameter_iff_isLeaf (by simp), ← parameterAt_isJson hv]

theorem parameters_isJson (path : List Text) {ps : List (Text × Value)}
    (hps : ∀ p ∈ ps, p.2.isJson = true) :
    (∃ ms, parameters path ps = .ok ms) ↔ ∀ p ∈ ps, IsParameter p.2 := by
  induction ps with
  | nil => simp [parameters]
  | cons p ps ih =>
      obtain ⟨key, v⟩ := p
      have hv := parameter_isJson (path ++ [key]) key (hps _ List.mem_cons_self)
      rw [List.forall_mem_cons, ← ih fun q hq => hps q (List.mem_cons_of_mem _ hq), ← hv]
      simp only [parameters_cons_eq_ok]
      constructor
      · rintro ⟨_, m, ms, hm, hms, -⟩
        exact ⟨⟨m, hm⟩, ms, hms⟩
      · rintro ⟨⟨m, hm⟩, ms, hms⟩
        exact ⟨_, m, ms, hm, hms, rfl⟩

/-! ## Outlines -/

theorem arguments_isJson (path : List Text) {ps : List (Text × Value)}
    (hps : ∀ p ∈ ps, p.2.isJson = true) :
    (∃ args ts, (arguments path ps).Yields args ts) ↔ ∀ p ∈ ps, IsParameter p.2 := by
  rw [← parameters_isJson path hps]
  cases ps with
  | nil => simp [arguments_nil_yields, parameters]
  | cons p ps =>
      simp only [arguments_cons_yields]
      constructor
      · rintro ⟨_, _, ms, hms, -⟩
        exact ⟨ms, hms⟩
      · rintro ⟨ms, hms⟩
        exact ⟨_, _, ms, hms, rfl, rfl⟩

theorem command_isJson {path : List Text} {key : Text} {es : Entries}
    (hes : Value.areJsonEntries es = true) :
    (∃ n ts, (command path key es).Yields n ts) ↔
      ∀ p ∈ structuralEntries es, IsParameter p.2 := by
  obtain ⟨doc, hdoc⟩ := docstring_isJson hes
  have hps : ∀ p ∈ structuralEntries es, p.2.isJson = true := fun p hp =>
    Value.isJson_of_mem_filterMap hes hp
  rw [← arguments_isJson path hps]
  simp only [command_yields]
  constructor
  · rintro ⟨_, ts, args, _, hargs, -⟩
    exact ⟨args, ts, hargs⟩
  · rintro ⟨args, ts, hargs⟩
    exact ⟨_, ts, args, doc, hargs, hdoc, rfl⟩

/-- The demands on an element of a keyed array, after elements that have taken
some names. -/
def ElementOk (taken : List Text) (v : Value) : Prop :=
  ∃ es, v = .map es ∧ ∀ p ∈ structuralEntries es,
    (Entries.lookup idKey es).isSome = true ∨ p.1 ∉ taken → WellFormed p.2

def ElementsOk (taken : List Text) (vs : List Value) : Prop :=
  (∀ v ∈ vs, ∃ es, v = .map es) ∧ ∀ before es after, vs = before ++ .map es :: after →
    ∀ p ∈ structuralEntries es,
      (Entries.lookup idKey es).isSome = true ∨ p.1 ∉ taken ++ before.flatMap takenBy →
        WellFormed p.2

theorem elementOk_map {taken : List Text} {es : Entries} : ElementOk taken (.map es) ↔
    ∀ p ∈ structuralEntries es,
      (Entries.lookup idKey es).isSome = true ∨ p.1 ∉ taken → WellFormed p.2 := by
  simp [ElementOk]

theorem elementsOk_nil (taken : List Text) : ElementsOk taken [] := by
  simp [ElementsOk]

theorem elementsOk_cons {taken : List Text} {v : Value} {vs : List Value} :
    ElementsOk taken (v :: vs) ↔ ElementOk taken v ∧ ElementsOk (taken ++ takenBy v) vs := by
  constructor
  · rintro ⟨hmaps, hentries⟩
    obtain ⟨es, rfl⟩ := hmaps v List.mem_cons_self
    refine ⟨⟨es, rfl, ?_⟩, fun w hw => hmaps w (List.mem_cons_of_mem _ hw), ?_⟩
    · intro p hp hfresh
      exact hentries [] es vs rfl p hp (by simpa using hfresh)
    · rintro before fs after rfl p hp hfresh
      refine hentries (.map es :: before) fs after rfl p hp ?_
      rwa [List.flatMap_cons, ← List.append_assoc]
  · rintro ⟨⟨es, rfl, hes⟩, hmaps, hentries⟩
    refine ⟨List.forall_mem_cons.2 ⟨⟨es, rfl⟩, hmaps⟩, ?_⟩
    intro before fs after heq p hp hfresh
    cases before with
    | nil =>
        obtain ⟨hmap, rfl⟩ := List.cons.inj heq
        obtain rfl := Value.map.inj hmap
        exact hes p hp (by simpa using hfresh)
    | cons w before =>
        obtain ⟨rfl, rfl⟩ := List.cons.inj heq
        refine hentries before fs after rfl p hp ?_
        rwa [List.flatMap_cons, ← List.append_assoc] at hfresh

theorem elementsOk_congr {taken taken' : List Text} {vs : List Value}
    (h : ∀ key, key ∈ taken ↔ key ∈ taken') : ElementsOk taken vs ↔ ElementsOk taken' vs := by
  simp only [ElementsOk, List.mem_append, h]

theorem leadingLeaf?_isJson {vs : List Value} (hvs : ∀ v ∈ vs, v.isJson = true) {es : Entries}
    {space : Value} : leadingLeaf? vs = some (es, space) ↔
      vs.head? = some (.map es) ∧ Entries.lookup valueSpaceKey es = some space := by
  cases vs with
  | nil => simp [leadingLeaf?]
  | cons v vs =>
      simp only [leadingLeaf?, v.bare_of_isJson (hvs v List.mem_cons_self), List.head?_cons,
        Option.some.injEq]
      split
      · rename_i fs
        simp only [Option.map_eq_some_iff, Prod.mk.injEq, Value.map.injEq]
        constructor
        · rintro ⟨_, hlookup, rfl, rfl⟩
          exact ⟨rfl, hlookup⟩
        · rintro ⟨rfl, hlookup⟩
          exact ⟨space, hlookup, rfl, rfl⟩
      · rename_i hmap
        simp only [reduceCtorEq, false_iff, not_and]
        intro hv
        exact absurd hv (hmap es)

theorem wellFormed_leaves {vs : List Value} {es : Entries} {space : Value}
    (hhead : vs.head? = some (.map es)) (hlookup : Entries.lookup valueSpaceKey es = some space) :
    WellFormed (.list vs) ↔ IsSpace space := by
  obtain ⟨ws, rfl⟩ := List.head?_eq_some_iff.1 hhead
  constructor
  · intro h
    cases h with
    | leaves hleaf =>
        obtain ⟨hlookup', hspace⟩ := hleaf
        obtain rfl := Option.some.inj (hlookup.symm.trans hlookup')
        exact hspace
    | collection hfirst => simp [hfirst es rfl] at hlookup
  · intro h
    exact .leaves (.mk hlookup h)

theorem wellFormed_collection {vs : List Value} (hvs : ∀ v ∈ vs, v.isJson = true)
    (h : leadingLeaf? vs = none) : WellFormed (.list vs) ↔ ElementsOk [] vs := by
  -- The two list forms exclude each other by the first element alone.
  have hfirst : ∀ es, vs.head? = some (.map es) → Entries.lookup valueSpaceKey es = none := by
    intro es hes
    cases hlookup : Entries.lookup valueSpaceKey es with
    | none => rfl
    | some space =>
        have hleaf := (leadingLeaf?_isJson hvs).2 ⟨hes, hlookup⟩
        simp [h] at hleaf
  constructor
  · intro hw
    cases hw with
    | leaves hleaf =>
        obtain ⟨hlookup, -⟩ := hleaf
        simp [hfirst _ rfl] at hlookup
    | collection _ hmaps hentries => exact ⟨hmaps, by simpa using hentries⟩
  · rintro ⟨hmaps, hentries⟩
    exact .collection hfirst hmaps (by simpa using hentries)

theorem wellFormed_map {es : Entries} : WellFormed (.map es) ↔
    if isSet (Entries.lookup commandKey es) then ∀ p ∈ structuralEntries es, IsParameter p.2
    else match Entries.lookup valueSpaceKey es with
      | some space => IsSpace space
      | none => ∀ p ∈ structuralEntries es, WellFormed p.2 := by
  constructor
  · intro h
    cases h with
    | command hcommand hparameters => simpa [hcommand] using hparameters
    | leaf hcommand hleaf =>
        obtain ⟨hlookup, hspace⟩ := hleaf
        simpa [hcommand, hlookup] using hspace
    | tree hcommand hspace hentries => simpa [hcommand, hspace] using hentries
  · intro h
    split at h
    · rename_i hcommand
      exact .command hcommand h
    · rename_i hcommand
      have hcommand := Bool.not_eq_true _ ▸ hcommand
      split at h
      · rename_i space hlookup
        exact .leaf hcommand (.mk hlookup h)
      · rename_i hlookup
        exact .tree hcommand hlookup h

theorem leaf_yields_isJson {path : List Text} {key : Text} {es : Entries} {space : Value}
    (hes : Value.areJsonEntries es = true)
    (hs : Entries.lookup valueSpaceKey es = some space) :
    (∃ n ts, (Script.ofExcept ((leaf path key es space).map Node.member)).Yields n ts) ↔
      IsSpace space := by
  rw [← leaf_isJson path key hes (Value.isJson_of_lookup hes hs)]
  simp only [leaf_yields]
  constructor
  · rintro ⟨_, _, m, hm, -⟩
    exact ⟨m, hm⟩
  · rintro ⟨m, hm⟩
    exact ⟨_, _, m, hm, rfl, rfl⟩

theorem exists_yields_map {α β : Type} {s : Script α} {f : α → β} :
    (∃ b ts, (f <$> s).Yields b ts) ↔ ∃ a ts, s.Yields a ts := by
  simp only [Script.yields_map]
  constructor
  · rintro ⟨_, ts, a, ha, -⟩
    exact ⟨a, ts, ha⟩
  · rintro ⟨a, ts, ha⟩
    exact ⟨_, ts, a, ha, rfl⟩

theorem not_wellFormed {v : Value} (hmap : ∀ es, v ≠ .map es) (hlist : ∀ vs, v ≠ .list vs) :
    ¬WellFormed v := by
  intro h
  cases h with
  | leaves | collection => exact hlist _ rfl
  | _ => exact hmap _ rfl

theorem structuralKeys_nodup {es : Entries} (h : (Value.textKeys es).Nodup) :
    (structuralKeys es).Nodup := by
  have hkeys : structuralKeys es = es.filterMap fun e => structuralKey? e.1 := by
    simp [structuralKeys, structuralEntries, List.map_filterMap, Option.map_map,
      Function.comp_def]
  rw [hkeys]
  exact Value.filterMap_keys_nodup (fun k key hk => (structuralKey?_eq_some.1 hk).1) h

mutual

theorem outline_isJson (path : List Text) (key : Text) (v : Value) (hv : v.isJson = true) :
    (∃ n ts, (outline path key v).Yields n ts) ↔ WellFormed v := by
  cases v with
  | map es =>
      have hes := (Value.isJson_map.1 hv).2
      rw [outline, wellFormed_map]
      split
      · exact command_isJson hes
      · cases hs : Entries.lookup valueSpaceKey es with
        | some space => exact leaf_yields_isJson hes hs
        | none =>
            simp only [exists_yields_map]
            exact outlineEntries_isJson path es hes
  | list vs =>
      have hvs := Value.isJson_list.1 hv
      rw [outline]
      split
      · rename_i es space hl
        obtain ⟨hhead, hlookup⟩ := (leadingLeaf?_isJson hvs).1 hl
        have hes := (Value.isJson_map.1 (hvs _ (List.mem_of_mem_head? hhead))).2
        rw [wellFormed_leaves hhead hlookup]
        exact leaf_yields_isJson hes hlookup
      · rename_i hl
        rw [exists_yields_map, wellFormed_collection hvs hl]
        exact outlineElements_isJson path 0 [] vs hvs
  | ring i v => simp [Value.isJson] at hv
  | _ =>
      simp only [outline, misplaced, Script.not_yields_fail, exists_false, false_iff]
      exact not_wellFormed nofun nofun
termination_by structural v

theorem outlineEntries_isJson (path : List Text) (es : List (Value × Value))
    (hes : Value.areJsonEntries es = true) :
    (∃ ns ts, (outlineEntries path es).Yields ns ts) ↔
      ∀ p ∈ structuralEntries es, WellFormed p.2 := by
  cases es with
  | nil => simp [outlineEntries, structuralEntries]
  | cons e es =>
      obtain ⟨k, v⟩ := e
      obtain ⟨hv, hes'⟩ := Value.areJsonEntries_cons hes
      cases hk : structuralKey? k with
      | none =>
          rw [outlineEntries_cons_none hk, structuralEntries_cons_none hk]
          exact outlineEntries_isJson path es hes'
      | some key =>
          rw [structuralEntries_cons_some hk, List.forall_mem_cons,
            ← outline_isJson (path ++ [key]) key v hv, ← outlineEntries_isJson path es hes']
          simp only [outlineEntries_cons_some hk]
          constructor
          · rintro ⟨_, _, n, us, ms, vs, hn, hms, -⟩
            exact ⟨⟨n, us, hn⟩, ms, vs, hms⟩
          · rintro ⟨⟨n, us, hn⟩, ms, vs, hms⟩
            exact ⟨_, _, n, us, ms, vs, hn, hms, rfl, rfl⟩
termination_by structural es

theorem outlineElements_isJson (path : List Text) (index : Nat) (taken : List Text)
    (vs : List Value) (hvs : ∀ v ∈ vs, v.isJson = true) :
    (∃ ns ts, (outlineElements path index taken vs).Yields ns ts) ↔ ElementsOk taken vs := by
  cases vs with
  | nil => simp [outlineElements, elementsOk_nil]
  | cons v vs =>
      have hv := hvs v List.mem_cons_self
      have hvs' := fun w hw => hvs w (List.mem_cons_of_mem _ hw)
      rw [elementsOk_cons, ← outlineElement_isJson path index taken v hv]
      -- The names that were taken agree with those of the grammar as sets, not in order.
      simp only [outlineElements_cons]
      constructor
      · rintro ⟨_, _, fresh, us, ms, ws, hfresh, hms, -⟩
        have hok := (outlineElements_isJson path (index + 1) _ vs hvs').1 ⟨ms, ws, hms⟩
        exact ⟨⟨fresh, us, hfresh⟩, (elementsOk_congr (outlineElement_names v hfresh)).1 hok⟩
      · rintro ⟨⟨fresh, us, hfresh⟩, hok⟩
        obtain ⟨ms, ws, hms⟩ := (outlineElements_isJson path (index + 1) _ vs hvs').2
          ((elementsOk_congr (outlineElement_names v hfresh)).2 hok)
        exact ⟨_, _, fresh, us, ms, ws, hfresh, hms, rfl, rfl⟩
termination_by structural vs

theorem outlineElement_isJson (path : List Text) (index : Nat) (taken : List Text)
    (v : Value) (hv : v.isJson = true) :
    (∃ ns ts, (outlineElement path index taken v).Yields ns ts) ↔ ElementOk taken v := by
  cases v with
  | map es =>
      obtain ⟨hkeys, hes⟩ := Value.isJson_map.1 hv
      rw [elementOk_map]
      cases hid : Entries.lookup idKey es with
      | some id =>
          have htext := textOf_isJson (Value.isJson_of_lookup hes hid)
          simp only [Option.isSome_some, true_or, forall_const,
            ← outlineEntries_isJson (path ++ [id.toText]) es hes, outlineElement_some hid]
          constructor
          · rintro ⟨_, ts, text, cs, ht, hcs, -⟩
            obtain rfl := Except.ok.inj (htext.symm.trans ht)
            exact ⟨cs, ts, hcs⟩
          · rintro ⟨cs, ts, hcs⟩
            exact ⟨_, ts, _, cs, htext, hcs, rfl⟩
      | none =>
          simp only [Option.isSome_none, Bool.false_eq_true, false_or, outlineElement_none hid]
          exact outlineFresh_isJson path taken es hes (structuralKeys_nodup hkeys)
  | ring i v => simp [Value.isJson] at hv
  | _ => simp [outlineElement, misplaced, ElementOk]
termination_by structural v

theorem outlineFresh_isJson (path taken : List Text) (es : List (Value × Value))
    (hes : Value.areJsonEntries es = true)
    (hkeys : (structuralKeys es).Nodup) :
    (∃ ns ts, (outlineFresh path taken es).Yields ns ts) ↔
      ∀ p ∈ structuralEntries es, p.1 ∉ taken → WellFormed p.2 := by
  cases es with
  | nil => simp [outlineFresh, structuralEntries]
  | cons e es =>
      obtain ⟨k, v⟩ := e
      obtain ⟨hv, hes'⟩ := Value.areJsonEntries_cons hes
      cases hk : structuralKey? k with
      | none =>
          rw [structuralKeys_cons_none hk] at hkeys
          rw [outlineFresh_cons_none hk, structuralEntries_cons_none hk]
          exact outlineFresh_isJson path taken es hes' hkeys
      | some key =>
          rw [structuralKeys_cons_some hk, List.nodup_cons] at hkeys
          rw [structuralEntries_cons_some hk, List.forall_mem_cons]
          by_cases ht : key ∈ taken
          · simp only [outlineFresh_cons_mem hk ht, ht, not_true_eq_false, false_imp_iff, true_and]
            exact outlineFresh_isJson path taken es hes' hkeys.2
          · -- No later entry has the key, so that taking it changes nothing.
            have hlater : (∀ p ∈ structuralEntries es, p.1 ∉ key :: taken → WellFormed p.2) ↔
                ∀ p ∈ structuralEntries es, p.1 ∉ taken → WellFormed p.2 := by
              refine forall₂_congr fun p hp => ?_
              have hne : p.1 ≠ key := by
                rintro rfl
                exact hkeys.1 (List.mem_map_of_mem hp)
              simp [hne]
            rw [← hlater, ← outlineFresh_isJson path (key :: taken) es hes' hkeys.2,
              ← outline_isJson (path ++ [key]) key v hv]
            simp only [outlineFresh_cons_notMem hk ht, ht, not_false_eq_true, true_imp_iff]
            constructor
            · rintro ⟨_, _, n, us, ms, vs, hn, hms, -⟩
              exact ⟨⟨n, us, hn⟩, ms, vs, hms⟩
            · rintro ⟨⟨n, us, hn⟩, ms, vs, hms⟩
              exact ⟨_, _, n, us, ms, vs, hn, hms, rfl, rfl⟩
termination_by structural es

end

end DeviceTypings.Schema
