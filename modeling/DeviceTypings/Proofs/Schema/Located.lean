import DeviceTypings.Proofs.Document.Checks
import DeviceTypings.Proofs.Induction
import DeviceTypings.Proofs.Schema.Grammar

namespace DeviceTypings

/-- Whether a value is read as an object. -/
def Value.IsObject (v : Value) : Prop := ∃ es, v.bare = .map es

namespace Schema

/-!
# Faults are where their paths lead

A schema that is malformed is so at a place. The path of the fault is followed here on the
schema alone, key by key, and leads to a value that has what the reason complains about.
The invariant of the outline is that its own path leads to the value at hand.
-/

/-- As what a value of a schema is read. -/
inductive Role
  | family
  /-- What stands under a structural key. -/
  | node
  /-- What stands at a position of a keyed array. The path is that of the array. -/
  | item (index : Nat)
  /-- An object of a keyed array with an id of its own. -/
  | element
  /-- What stands in a keyed array and is no object. -/
  | stray
  | parameter
  /-- The descriptor of a type. -/
  | space

/-- Whether an object in a role is a tree of its structural entries. -/
def Role.isTree (es : Entries) : Role → Bool
  | family => true
  | element => true
  | node => !isSet (Entries.lookup commandKey es) && (Entries.lookup valueSpaceKey es).isNone
  | _ => false

/-- In the schema `s`, a path leads to a value that is read in a role. -/
inductive Leads (s : Value) : List Text → Role → Value → Prop
  | family {es : Entries} {f : Family} {v : Value} (hs : s.bare = .map es)
      (hv : (f, v) ∈ familiesOf es) : Leads s [f.key] .family v
  /-- A label says nothing of the collection that it stands on. -/
  | ring {path : List Text} {role : Role} {label : Nat} {v : Value}
      (h : Leads s path role (.ring label v)) : Leads s path role v
  | entry {path : List Text} {role : Role} {es : Entries} {key : Text} {v : Value}
      (h : Leads s path role (.map es)) (htree : role.isTree es = true)
      (hv : (key, v) ∈ structuralEntries es) : Leads s (path ++ [key]) .node v
  | item {path : List Text} {vs : List Value} {index : Nat} {v : Value}
      (h : Leads s path .node (.list vs)) (hleaf : leadingLeaf? vs = none)
      (hv : vs[index]? = some v) : Leads s path (.item index) v
  /-- In a keyed array, the text of an id leads to the element that has it. -/
  | element {path : List Text} {index : Nat} {es : Entries} {id : Value} {text : Text}
      (h : Leads s path (.item index) (.map es)) (hid : Entries.lookup idKey es = some id)
      (htext : Fault.textOf id = .ok text) : Leads s (path ++ [text]) .element (.map es)
  /-- In a keyed array, a key leads to a value under it in an element without an id. -/
  | merged {path : List Text} {index : Nat} {es : Entries} {key : Text} {v : Value}
      (h : Leads s path (.item index) (.map es)) (hid : Entries.lookup idKey es = none)
      (hv : (key, v) ∈ structuralEntries es) : Leads s (path ++ [key]) .node v
  /-- Only what is no object is found by its position. -/
  | stray {path : List Text} {index : Nat} {v : Value} (h : Leads s path (.item index) v)
      (hv : ¬ v.IsObject) : Leads s (path ++ [Value.numeral index]) .stray v
  | parameter {path : List Text} {es : Entries} {key : Text} {v : Value}
      (h : Leads s path .node (.map es))
      (hcommand : isSet (Entries.lookup commandKey es) = true)
      (hv : (key, v) ∈ structuralEntries es) : Leads s (path ++ [key]) .parameter v
  | leafSpace {path : List Text} {es : Entries} {space : Value}
      (h : Leads s path .node (.map es))
      (hcommand : isSet (Entries.lookup commandKey es) = false)
      (hspace : Entries.lookup valueSpaceKey es = some space) :
      Leads s (path ++ [valueSpaceKey]) .space space
  /-- An array of leaves has the descriptor of the first of them. -/
  | arraySpace {path : List Text} {vs : List Value} {es : Entries} {space : Value}
      (h : Leads s path .node (.list vs)) (hspace : leadingLeaf? vs = some (es, space)) :
      Leads s (path ++ [valueSpaceKey]) .space space
  /-- A parameter has a descriptor of its own or that of its first element. -/
  | parameterSpace {path : List Text} {v u : Value} {es : Entries} {space : Value}
      (h : Leads s path .parameter v) (hu : describedBy v = .ok u) (hes : u.bare = .map es)
      (hspace : Entries.lookup valueSpaceKey es = some space) :
      Leads s (path ++ [valueSpaceKey]) .space space

/-- A value that is read in a role is malformed for a reason. -/
inductive HasFault : Role → Reason → Value → Prop
  | family {v : Value} (h : ¬ v.IsObject) : HasFault .family (.notObject v.kind) v
  | stray {v : Value} (h : ¬ v.IsObject) : HasFault .stray (.notObject v.kind) v
  | node {v : Value} (h : ¬ v.IsObject) (hlist : ∀ vs, v.bare ≠ .list vs) :
      HasFault .node (.notObjectOrArray v.kind) v
  | emptyParameter {v : Value} (h : v.bare = .list []) : HasFault .parameter .emptyParameter v
  | parameter {v u : Value} (hu : describedBy v = .ok u) (h : ¬ u.IsObject) :
      HasFault .parameter (.notObject u.kind) v
  | missingValueSpace {v u : Value} {es : Entries} (hu : describedBy v = .ok u)
      (hes : u.bare = .map es) (h : Entries.lookup valueSpaceKey es = none) :
      HasFault .parameter .missingValueSpace v
  | space {v : Value} (h : ¬ v.IsObject) : HasFault .space (.notObject v.kind) v
  | missingType {v : Value} {es : Entries} (hes : v.bare = .map es)
      (h : Entries.lookup typeKey es = none ∨ Entries.lookup typeKey es = some .null) :
      HasFault .space .missingType v
  | notTypeName {v t : Value} {es : Entries} (hes : v.bare = .map es)
      (ht : Entries.lookup typeKey es = some t) (hnull : t ≠ .null)
      (htext : ∀ name, t ≠ .text name) : HasFault .space (.notTypeName t.kind) v
  | unknownType {v : Value} {es : Entries} {name : Text} (hes : v.bare = .map es)
      (ht : Entries.lookup typeKey es = some (.text name)) (hsimple : name ∉ simpleTypes)
      (hliteral : name ∉ literalTypes) : HasFault .space (.unknownType name) v
  | missingValues {v : Value} {es : Entries} {name : Text} (hes : v.bare = .map es)
      (ht : Entries.lookup typeKey es = some (.text name)) (hname : name ∈ literalTypes)
      (hvalues : ∀ w c cs, Entries.lookup constantsKey es = some w → w.bare ≠ .list (c :: cs)) :
      HasFault .space (.missingValues name) v

/-- The path leads to a value that is malformed for the reason. -/
def Found (s : Value) (path : List Text) (reason : Reason) : Prop :=
  ∃ role v, Leads s path role v ∧ HasFault role reason v

theorem Leads.path_ne_nil {s v : Value} {path : List Text} {role : Role}
    (h : Leads s path role v) : path ≠ [] := by
  induction h with
  | ring _ ih => exact ih
  | item _ _ _ ih => exact ih
  | _ => simp

/-! ## Descriptors -/

section

variable {s v : Value} {path p : List Text} {key : Text} {reason : Reason} {es : Entries}

theorem kind_bare (v : Value) : v.bare.kind = v.kind := by
  cases v <;> rfl

theorem misplaced_eq_malformed {f : Text → Reason}
    (h : Fault.misplaced path f v = .malformed p reason) : p = path ∧ reason = f v.kind := by
  cases v with
  | endless => simp [Fault.misplaced] at h
  | _ =>
      obtain ⟨rfl, rfl⟩ := Fault.malformed.inj h
      exact ⟨rfl, rfl⟩

theorem textOf_ne_malformed (v : Value) : Fault.textOf v ≠ .error (.malformed p reason) := by
  unfold Fault.textOf
  split <;> simp

theorem docstring_ne_malformed (es : Entries) : docstring es ≠ .error (.malformed p reason) := by
  unfold docstring
  split
  · split
    · simp
    · rw [ne_eq, Except.map_eq_error]
      exact textOf_ne_malformed _
  · simp

theorem union_ne_malformed (v : Value) (vs : List Value) :
    union v vs ≠ .error (.malformed p reason) := by
  have htexts : vs.mapM Fault.textOf ≠ .error (.malformed p reason) := by
    induction vs with
    | nil => simp [pure, Except.pure]
    | cons w ws ih =>
        rw [List.mapM_cons, ne_eq, Except.do_eq_error]
        rintro (h | ⟨text, -, h⟩)
        · exact textOf_ne_malformed w h
        · rw [Except.do_eq_error] at h
          rcases h with h | ⟨texts, -, h⟩
          · exact ih h
          · simp [pure, Except.pure] at h
  rw [union, ne_eq, Except.do_eq_error]
  rintro (h | ⟨text, -, h⟩)
  · exact textOf_ne_malformed v h
  · rw [Except.do_eq_error] at h
    rcases h with h | ⟨texts, -, h⟩
    · exact htexts h
    · simp [pure, Except.pure] at h

theorem constants?_eq_none {v : Value} (h : constants? v = none) (c : Value) (cs : List Value) :
    v.bare ≠ .list (c :: cs) := by
  intro hv
  simp [constants?, hv] at h

theorem namedType_malformed {name : Text} (hes : v.bare = .map es)
    (ht : Entries.lookup typeKey es = some (.text name))
    (h : namedType path es name = .error (.malformed p reason)) :
    p = path ∧ HasFault .space reason v := by
  unfold namedType at h
  split at h
  · simp at h
  · rename_i hsimple
    have hnot : name ∉ simpleTypes := by simp [← simpleType?_eq_some, hsimple]
    split at h
    · rename_i hliteral
      obtain ⟨rfl, rfl⟩ := Fault.malformed.inj (Except.error.inj h)
      exact ⟨rfl, .unknownType hes ht hnot (by simp [← literalType?_eq_some, hliteral])⟩
    · rename_i wrap hliteral
      split at h
      · rw [Except.map_eq_error] at h
        exact absurd h (union_ne_malformed _ _)
      · rename_i hvalues
        obtain ⟨rfl, rfl⟩ := Fault.malformed.inj (Except.error.inj h)
        refine ⟨rfl, .missingValues hes ht (literalType?_eq_some.1 ⟨wrap, hliteral⟩) ?_⟩
        intro w c cs hw
        rw [hw] at hvalues
        exact constants?_eq_none hvalues c cs

theorem spaceType_malformed (h : spaceType path v = .error (.malformed p reason)) :
    p = path ∧ HasFault .space reason v := by
  unfold spaceType at h
  split at h
  · rename_i es hes
    split at h
    · rename_i ht
      obtain ⟨rfl, rfl⟩ := Fault.malformed.inj (Except.error.inj h)
      exact ⟨rfl, .missingType hes (.inl ht)⟩
    · rename_i ht
      obtain ⟨rfl, rfl⟩ := Fault.malformed.inj (Except.error.inj h)
      exact ⟨rfl, .missingType hes (.inr ht)⟩
    · rename_i name ht
      exact namedType_malformed hes ht h
    · rename_i t hnull htext ht
      obtain ⟨rfl, rfl⟩ := misplaced_eq_malformed (Except.error.inj h)
      exact ⟨rfl, .notTypeName hes ht hnull htext⟩
  · rename_i hmap
    obtain ⟨rfl, rfl⟩ := misplaced_eq_malformed (Except.error.inj h)
    rw [kind_bare]
    exact ⟨rfl, .space (not_exists.2 hmap)⟩

/-! ## Leaves and commands -/

theorem leaf_malformed {space : Value} (hspace : Leads s (path ++ [valueSpaceKey]) .space space)
    (h : leaf path key es space = .error (.malformed p reason)) : Found s p reason := by
  rw [leaf, Except.do_eq_error] at h
  rcases h with h | ⟨type, -, h⟩
  · obtain ⟨rfl, hfault⟩ := spaceType_malformed h
    exact ⟨_, _, hspace, hfault⟩
  · rw [Except.do_eq_error] at h
    rcases h with h | ⟨doc, -, h⟩
    · exact absurd h (docstring_ne_malformed es)
    · simp [pure, Except.pure] at h

theorem parameter_malformed (hv : Leads s path .parameter v)
    (h : parameter path key v = .error (.malformed p reason)) : Found s p reason := by
  unfold parameter at h
  split at h
  · rename_i u hu
    unfold parameterAt at h
    split at h
    · rename_i es hes
      split at h
      · rename_i space hspace
        exact leaf_malformed (hv.parameterSpace hu hes hspace) h
      · rename_i hspace
        obtain ⟨rfl, rfl⟩ := Fault.malformed.inj (Except.error.inj h)
        exact ⟨_, _, hv, .missingValueSpace hu hes hspace⟩
    · rename_i hmap
      obtain ⟨rfl, rfl⟩ := misplaced_eq_malformed (Except.error.inj h)
      rw [kind_bare]
      exact ⟨_, _, hv, .parameter hu (not_exists.2 hmap)⟩
  · rename_i why hwhy
    -- There is no descriptor only for an array without elements.
    obtain ⟨rfl, rfl⟩ := Fault.malformed.inj (Except.error.inj h)
    unfold describedBy at hwhy
    split at hwhy
    · rename_i hempty
      obtain rfl := Except.error.inj hwhy
      exact ⟨_, _, hv, .emptyParameter hempty⟩
    · simp at hwhy
    · simp at hwhy

theorem parameters_malformed {ps : List (Text × Value)}
    (hps : ∀ q ∈ ps, Leads s (path ++ [q.1]) .parameter q.2)
    (h : parameters path ps = .error (.malformed p reason)) : Found s p reason := by
  induction ps with
  | nil => simp [parameters] at h
  | cons q ps ih =>
      obtain ⟨key, v⟩ := q
      obtain ⟨hq, hps⟩ := List.forall_mem_cons.1 hps
      rw [parameters, Except.do_eq_error] at h
      rcases h with h | ⟨m, -, h⟩
      · exact parameter_malformed hq h
      · rw [Except.do_eq_error] at h
        rcases h with h | ⟨ms, -, h⟩
        · exact ih hps h
        · simp [pure, Except.pure] at h

end

/-! ## Scripts -/

namespace Script

variable {α β : Type} {e : Fault}

theorem result_bind_eq_error {s : Script α} {f : α → Script β} : (s >>= f).result = .error e ↔
    s.result = .error e ∨ ∃ a, s.result = .ok a ∧ (f a).result = .error e := by
  rw [result_bind, Except.bind_eq_error]

theorem result_bind_pure_eq_error {γ : Type} {s : Script α} {t : α → Script β} {f : α → β → γ} :
    (s >>= fun a => t a >>= fun b => pure (f a b)).result = .error e ↔
      s.result = .error e ∨ ∃ a, s.result = .ok a ∧ (t a).result = .error e := by
  simp only [result_bind_eq_error, result_pure, reduceCtorEq, and_false, exists_false, or_false]

theorem result_map_eq_error {s : Script α} {f : α → β} :
    (f <$> s).result = .error e ↔ s.result = .error e := by
  rw [map_eq_pure_bind, result_bind_eq_error]
  simp

end Script

/-! ## Outlines -/

/-- Where a path leads to the value, its outline finds faults of the schema only. -/
structure Pins (s v : Value) : Prop where
  outline : ∀ {path p : List Text} {key : Text} {reason : Reason}, Leads s path .node v →
    (outline path key v).result = .error (.malformed p reason) → Found s p reason
  element : ∀ {path taken p : List Text} {index : Nat} {reason : Reason},
    Leads s path (.item index) v →
      (outlineElement path index taken v).result = .error (.malformed p reason) →
        Found s p reason

section

variable {s : Value} {path taken p : List Text} {key : Text} {reason : Reason}
  {es : Entries}

theorem leaf_result_malformed {space : Value}
    (hspace : Leads s (path ++ [valueSpaceKey]) .space space)
    (h : (Script.ofExcept ((leaf path key es space).map Node.member)).result =
      .error (.malformed p reason)) : Found s p reason :=
  leaf_malformed hspace (Except.map_eq_error.1 h)

theorem command_malformed (hes : Leads s path .node (.map es))
    (hcommand : isSet (Entries.lookup commandKey es) = true)
    (h : (command path key es).result = .error (.malformed p reason)) : Found s p reason := by
  have hps : ∀ q ∈ structuralEntries es, Leads s (path ++ [q.1]) .parameter q.2 :=
    fun q hq => hes.parameter hcommand hq
  rw [command, Script.result_bind_eq_error] at h
  rcases h with h | ⟨args, -, h⟩
  · unfold arguments at h
    split at h
    · simp at h
    · simp only [Script.result_bind_eq_error] at h
      rcases h with h | ⟨-, -, h | ⟨ms, -, h | ⟨-, -, h⟩⟩⟩
      · simp [Script.step, Script.write] at h
      · exact parameters_malformed hps h
      · simp [Script.step, Script.write] at h
      · simp at h
  · rw [Script.result_bind_eq_error] at h
    rcases h with h | ⟨doc, -, h⟩
    · exact absurd h (docstring_ne_malformed es)
    · simp at h

theorem outlineEntries_malformed (hpins : ∀ e ∈ es, Pins s e.2)
    (hes : ∀ q ∈ structuralEntries es, Leads s (path ++ [q.1]) .node q.2)
    (h : (outlineEntries path es).result = .error (.malformed p reason)) : Found s p reason := by
  induction es with
  | nil => simp [outlineEntries] at h
  | cons e es ih =>
      obtain ⟨k, v⟩ := e
      obtain ⟨hpin, hpins⟩ := List.forall_mem_cons.1 hpins
      cases hk : structuralKey? k with
      | none =>
          rw [outlineEntries_cons_none hk] at h
          rw [structuralEntries_cons_none hk] at hes
          exact ih hpins hes h
      | some key =>
          rw [structuralEntries_cons_some hk, List.forall_mem_cons] at hes
          rw [outlineEntries, hk] at h
          rcases Script.result_bind_pure_eq_error.1 h with h | ⟨n, -, h⟩
          · exact hpin.outline hes.1 h
          · exact ih hpins hes.2 h

theorem outlineFresh_malformed (hpins : ∀ e ∈ es, Pins s e.2)
    (hes : ∀ q ∈ structuralEntries es, Leads s (path ++ [q.1]) .node q.2)
    (h : (outlineFresh path taken es).result = .error (.malformed p reason)) :
    Found s p reason := by
  induction es generalizing taken with
  | nil => simp [outlineFresh] at h
  | cons e es ih =>
      obtain ⟨k, v⟩ := e
      obtain ⟨hpin, hpins⟩ := List.forall_mem_cons.1 hpins
      cases hk : structuralKey? k with
      | none =>
          rw [outlineFresh_cons_none hk] at h
          rw [structuralEntries_cons_none hk] at hes
          exact ih hpins hes h
      | some key =>
          rw [structuralEntries_cons_some hk, List.forall_mem_cons] at hes
          simp only [outlineFresh, hk] at h
          split at h
          -- A value under a key that is taken is never looked at, so it is not at fault.
          · rw [Script.result_bind_eq_error] at h
            rcases h with h | ⟨-, -, h⟩
            · simp [Script.note, Script.write] at h
            · exact ih hpins hes.2 h
          · rcases Script.result_bind_pure_eq_error.1 h with h | ⟨n, -, h⟩
            · exact hpin.outline hes.1 h
            · exact ih hpins hes.2 h

/-- The elements from a position on are those of the array from there on. -/
theorem outlineElements_malformed {vs : List Value} {index : Nat} (hpins : ∀ v ∈ vs, Pins s v)
    (hvs : ∀ i v, vs[i]? = some v → Leads s path (.item (index + i)) v)
    (h : (outlineElements path index taken vs).result = .error (.malformed p reason)) :
    Found s p reason := by
  induction vs generalizing index taken with
  | nil => simp [outlineElements] at h
  | cons v vs ih =>
      obtain ⟨hpin, hpins⟩ := List.forall_mem_cons.1 hpins
      rw [outlineElements] at h
      rcases Script.result_bind_pure_eq_error.1 h with h | ⟨fresh, -, h⟩
      · exact hpin.element (hvs 0 v rfl) h
      · refine ih hpins (fun i w hw => ?_) h
        have hitem := hvs (i + 1) w hw
        rwa [← Nat.add_assoc, Nat.add_right_comm] at hitem

theorem pins_map (hpins : ∀ e ∈ es, Pins s e.2) : Pins s (.map es) where
  outline := by
    intro path p key reason hes h
    rw [outline] at h
    split at h
    · rename_i hcommand
      exact command_malformed hes hcommand h
    · rename_i hcommand
      rw [Bool.not_eq_true] at hcommand
      split at h
      · rename_i space hspace
        exact leaf_result_malformed (hes.leafSpace hcommand hspace) h
      · rename_i hspace
        rw [Script.result_map_eq_error] at h
        refine outlineEntries_malformed hpins (fun q hq => hes.entry ?_ hq) h
        simp [Role.isTree, hcommand, hspace]
  element := by
    intro path taken p index reason hes h
    rw [outlineElement] at h
    split at h
    · rename_i id hid
      rw [Script.result_bind_eq_error] at h
      rcases h with h | ⟨text, htext, h⟩
      · exact absurd h (textOf_ne_malformed id)
      · have helement := hes.element hid htext
        rw [Script.result_bind_eq_error] at h
        rcases h with h | ⟨children, -, h⟩
        · exact outlineEntries_malformed hpins (fun q hq => helement.entry rfl hq) h
        · simp at h
    · rename_i hid
      exact outlineFresh_malformed hpins (fun q hq => hes.merged hid hq) h

theorem pins_list {vs : List Value} (hpins : ∀ v ∈ vs, Pins s v) : Pins s (.list vs) where
  outline := by
    intro path p key reason hvs h
    rw [outline] at h
    split at h
    · rename_i es space hleaf
      exact leaf_result_malformed (hvs.arraySpace hleaf) h
    · rename_i hleaf
      rw [Script.result_map_eq_error] at h
      refine outlineElements_malformed hpins (fun i v hv => ?_) h
      rw [Nat.zero_add]
      exact hvs.item hleaf hv
  element := by
    intro path taken p index reason hvs h
    rw [outlineElement] at h
    · obtain ⟨rfl, rfl⟩ := misplaced_eq_malformed (Except.error.inj h)
      have hv : ¬ (Value.list vs).IsObject := by simp [Value.IsObject, Value.bare]
      exact ⟨_, _, hvs.stray hv, .stray hv⟩
    · simp
    · simp

theorem pins (s v : Value) : Pins s v := by
  induction v using Value.nestedInduction with
  | map es ih => exact pins_map ih
  | list vs ih => exact pins_list ih
  | ring label v ih =>
      constructor
      · intro path p key reason hv h
        rw [outline] at h
        exact ih.outline hv.ring h
      · intro path taken p index reason hv h
        rw [outlineElement] at h
        exact ih.element hv.ring h
  | scalar v hv =>
      have hbare : v.bare = v := by cases v <;> simp_all [Value.isNested, Value.bare]
      have hobject : ¬ v.IsObject := by
        rintro ⟨es, hes⟩
        obtain rfl := hbare.symm.trans hes
        simp [Value.isNested] at hv
      have hlist : ∀ vs, v.bare ≠ .list vs := by
        intro vs hvs
        obtain rfl := hbare.symm.trans hvs
        simp [Value.isNested] at hv
      constructor
      · intro path p key reason hnode h
        have hresult : (outline path key v).result =
            .error (Fault.misplaced path .notObjectOrArray v) := by
          cases v <;> simp_all [Value.isNested, outline, misplaced, Script.fail]
        rw [hresult] at h
        obtain ⟨rfl, rfl⟩ := misplaced_eq_malformed (Except.error.inj h)
        exact ⟨_, _, hnode, .node hobject hlist⟩
      · intro path taken p index reason hitem h
        have hresult : (outlineElement path index taken v).result =
            .error (Fault.misplaced (path ++ [Value.numeral index]) .notObject v) := by
          cases v <;> simp_all [Value.isNested, outlineElement, misplaced, Script.fail]
        rw [hresult] at h
        obtain ⟨rfl, rfl⟩ := misplaced_eq_malformed (Except.error.inj h)
        exact ⟨_, _, hitem.stray hobject, .stray hobject⟩

end

/-! ## Schemas -/

section

variable {s : Value} {p : List Text} {reason : Reason} {es : Entries}

theorem family_result (f : Family) (hasBuiltins : Bool) (es : Entries) :
    (family f hasBuiltins es).result = (outlineEntries [f.key] es).result.map fun _ => () := by
  rw [family]
  cases f.wrapper?.isSome && !hasBuiltins <;>
    cases hes : (outlineEntries [f.key] es).result <;>
      simp [Script.result_bind, hes, Script.step, Script.write, Except.bind, Except.map]

theorem families_malformed {hasBuiltins : Bool}
    (hes : ∀ q ∈ familiesOf es, Leads s [q.1.key] .family q.2)
    (h : (families hasBuiltins es).result = .error (.malformed p reason)) : Found s p reason := by
  induction es generalizing hasBuiltins with
  | nil => simp [families] at h
  | cons e es ih =>
      obtain ⟨k, v⟩ := e
      rw [families] at h
      split at h
      · rename_i f children hk hv
        rw [familiesOf_cons_some hk, List.forall_mem_cons] at hes
        rw [Script.result_bind_eq_error, family_result, Except.map_eq_error] at h
        have hchildren : Leads s [f.key] .family (.map children) := by
          cases v with
          | ring label w => exact hv ▸ hes.1.ring
          | map es => exact hv ▸ hes.1
          | _ => simp [Value.bare] at hv
        rcases h with h | ⟨-, -, h⟩
        · refine outlineEntries_malformed (fun e _ => pins s e.2) (fun q hq => ?_) h
          exact hchildren.entry rfl hq
        · exact ih hes.2 h
      · rename_i f hk hv
        rw [familiesOf_cons_some hk, List.forall_mem_cons] at hes
        obtain ⟨rfl, rfl⟩ := misplaced_eq_malformed (Except.error.inj h)
        rw [kind_bare]
        exact ⟨_, _, hes.1, .family (not_exists.2 hv)⟩
      · rename_i hk
        rw [familiesOf_cons_none hk] at hes
        rw [Script.result_bind_eq_error] at h
        rcases h with h | ⟨-, -, h⟩
        · simp [Script.note, Script.write] at h
        · exact ih hes h

theorem script_malformed {o : Options}
    (h : (script o s).result = .error (.malformed p reason)) :
    ¬ s.IsObject ∧ p = [] ∧ reason = .notObject s.kind ∨ s.IsObject ∧ Found s p reason := by
  rw [script] at h
  split at h
  · rename_i es hs
    rw [Script.result_bind_eq_error] at h
    rcases h with h | ⟨-, -, h⟩
    · simp [Script.step, Script.write] at h
    · exact .inr ⟨⟨es, hs⟩, families_malformed (fun q hq => .family hs hq) h⟩
  · rename_i hs
    obtain ⟨rfl, rfl⟩ := misplaced_eq_malformed (Except.error.inj h)
    rw [kind_bare]
    exact .inl ⟨not_exists.2 hs, rfl, rfl⟩

/-- The path of a fault is empty only if the schema itself is no object. Any other path leads
to a value that has the fault. -/
theorem compile_malformed {o : Options} (h : compile o s = .error (.malformed p reason)) :
    (p = [] ↔ ¬ s.IsObject) ∧ (p = [] → reason = .notObject s.kind) ∧
      (p ≠ [] → ∃ role v, Leads s p role v ∧ HasFault role reason v) := by
  rw [compile_eq, Except.bind_eq_error] at h
  -- The steps come first and can fail as well, but never because of a malformed value.
  rcases h with h | ⟨d, -, h⟩
  · exact absurd h (Document.steps_ne_malformed _ _)
  · rw [Except.map_eq_error] at h
    rcases script_malformed h with ⟨hs, rfl, rfl⟩ | ⟨hs, role, v, hleads, hfault⟩
    · simp [hs]
    · have hp := hleads.path_ne_nil
      exact ⟨by simp [hp, hs], fun hnil => absurd hnil hp, fun _ => ⟨role, v, hleads, hfault⟩⟩

end

/-- A command in the second element of a keyed array has a parameter that is described by the
elements of an array. The first of them is of no known type. -/
def colourSchema : Value :=
  .map [
    (.text "Command", .map [
      (.text "Line", .list [
        .map [(.text idKey, .int 1), (.text "Hold", textCommand)],
        .map [(.text "Paint", .map [
          (.text commandKey, .text "True"),
          (.text "Wall", .list [
            .map [(.text valueSpaceKey, .map [(.text typeKey, .text "Colour")])]])])]])])]

theorem found_colourSchema :
    compile {} colourSchema =
      .error (.malformed ["Command", "Line", "Paint", "Wall", "ValueSpace"]
        (.unknownType "Colour")) ∧
    ∃ role v, Leads colourSchema ["Command", "Line", "Paint", "Wall", "ValueSpace"] role v ∧
      HasFault role (.unknownType "Colour") v :=
  ⟨rfl, (compile_malformed (o := {}) rfl).2.2 (by simp)⟩

end Schema

end DeviceTypings
