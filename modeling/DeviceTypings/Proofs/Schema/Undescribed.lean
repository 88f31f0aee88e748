import DeviceTypings.Proofs.Document.Undocumented
import DeviceTypings.Proofs.Induction
import DeviceTypings.Proofs.Schema.Positions

namespace DeviceTypings.Schema

/-!
# Schemas without descriptions

The description is left out of every object that a schema is read through. A key
`ValueSpace` that describes the type of a leaf or of a parameter is not entered. Where
it is read as any other structural key, which is in the value of a family, in an element
of a keyed array and among the parameters of a command, it is entered like one. Such a
schema compiles to the same document without its docstrings, or to the same fault.
-/

/-- Entries without the description. One that has no text is a fault, and stays. -/
def dropDescription (es : Entries) : Entries :=
  match docstring es with
  | .ok _ => es.filter fun e => !e.1.isText descriptionKey
  | .error _ => es

mutual

/-- A leaf or parameter without the descriptions in it. -/
def undescribedLeaf : Value → Value
  | .map es => .map (dropDescription (undescribedLeafEntries es))
  | .list vs => .list (undescribedLeaves vs)
  | .ring label v => .ring label (undescribedLeaf v)
  | v => v
termination_by structural v => v

def undescribedLeafEntries : List (Value × Value) → List (Value × Value)
  | [] => []
  | (k, v) :: es =>
      (k, match structuralKey? k with
        | some key => if key = valueSpaceKey then v else undescribedLeaf v
        | none => v) :: undescribedLeafEntries es
termination_by structural es => es

def undescribedLeaves : List Value → List Value
  | [] => []
  | v :: vs => undescribedLeaf v :: undescribedLeaves vs
termination_by structural vs => vs

end

/-- Applies `f` to the values under structural keys. -/
def onStructure (f : Text → Value → Value) (es : Entries) : Entries :=
  es.map fun (k, v) =>
    (k, match structuralKey? k with
      | some key => f key v
      | none => v)

mutual

/-- What stands under a structural key without the descriptions in it. -/
def undescribed : Value → Value
  | .map es =>
      if isSet (Entries.lookup commandKey es) then
        .map (dropDescription (onStructure (fun _ => undescribedLeaf) es))
      else if (Entries.lookup valueSpaceKey es).isSome then undescribedLeaf (.map es)
      else .map (dropDescription (undescribedEntries es))
  | .list vs =>
      if (leadingLeaf? vs).isSome then undescribedLeaf (.list vs)
      else .list (undescribedElements vs)
  | .ring label v => .ring label (undescribed v)
  | v => v
termination_by structural v => v

def undescribedEntries : List (Value × Value) → List (Value × Value)
  | [] => []
  | (k, v) :: es =>
      (k, match structuralKey? k with
        | some _ => undescribed v
        | none => v) :: undescribedEntries es
termination_by structural es => es

def undescribedElements : List Value → List Value
  | [] => []
  | v :: vs => undescribedElement v :: undescribedElements vs
termination_by structural vs => vs

/-- An element of a keyed array, or the value of a family, all of whose structural keys
are entered. -/
def undescribedElement : Value → Value
  | .map es => .map (dropDescription (undescribedEntries es))
  | .ring label v => .ring label (undescribedElement v)
  | v => v
termination_by structural v => v

end

def undescribedFamilies (es : Entries) : Entries :=
  es.map fun (k, v) => (k, if (Family.ofKey? k).isSome then undescribedElement v else v)

def undescribedSchema : Value → Value
  | .map es => .map (dropDescription (undescribedFamilies es))
  | .ring label (.map es) => .ring label (.map (dropDescription (undescribedFamilies es)))
  | v => v

/-! ## Entries -/

variable {path taken : List Text} {key : Text} {es fs : Entries}

theorem undescribedLeafEntries_eq (es : Entries) : undescribedLeafEntries es =
    onStructure (fun key v => if key = valueSpaceKey then v else undescribedLeaf v) es := by
  induction es with
  | nil => rfl
  | cons e es ih =>
      rw [undescribedLeafEntries, ih]
      rfl

theorem undescribedEntries_eq (es : Entries) :
    undescribedEntries es = onStructure (fun _ => undescribed) es := by
  induction es with
  | nil => rfl
  | cons e es ih =>
      rw [undescribedEntries, ih]
      rfl

theorem lookup_onStructure (f : Text → Value → Value) (key : Text) (es : Entries) :
    Entries.lookup key (onStructure f es) =
      (Entries.lookup key es).map fun v => if isStructural key then f key v else v := by
  induction es with
  | nil => rfl
  | cons e es ih =>
      obtain ⟨k, v⟩ := e
      rw [onStructure, List.map_cons, Entries.lookup_cons, Entries.lookup_cons, ← onStructure, ih]
      split
      · rename_i hk
        obtain rfl := Value.isText_iff.1 hk
        cases hkey : isStructural key <;> simp [structuralKey?, hkey]
      · rfl

theorem lookup_onStructure_attribute {f : Text → Value → Value} (es : Entries)
    (h : isStructural key = false) :
    Entries.lookup key (onStructure f es) = Entries.lookup key es := by
  simp [lookup_onStructure, h]

theorem docstring_onStructure (f : Text → Value → Value) (es : Entries) :
    docstring (onStructure f es) = docstring es := by
  unfold docstring
  rw [lookup_onStructure_attribute es (by decide)]

theorem structuralEntries_onStructure (f : Text → Value → Value) (es : Entries) :
    structuralEntries (onStructure f es) =
      (structuralEntries es).map fun p => (p.1, f p.1 p.2) := by
  induction es with
  | nil => rfl
  | cons e es ih =>
      obtain ⟨k, v⟩ := e
      rw [onStructure, List.map_cons, ← onStructure]
      cases hk : structuralKey? k with
      | none => simp only [structuralEntries_cons_none hk, ih]
      | some key => simp only [structuralEntries_cons_some hk, List.map_cons, ih, hk]

/-! ## Entries without the description -/

/-- What is not told by the description is told by the other entries. -/
theorem dropDescription_induction {β : Type} {F : Entries → β} (es : Entries)
    (h : F (es.filter fun e => !e.1.isText descriptionKey) = F es) :
    F (dropDescription es) = F es := by
  unfold dropDescription
  split
  · exact h
  · rfl

theorem lookup_filter {p : Value × Value → Bool} (es : Entries)
    (h : ∀ v, p (.text key, v) = true) :
    Entries.lookup key (es.filter p) = Entries.lookup key es := by
  induction es with
  | nil => rfl
  | cons e es ih =>
      obtain ⟨k, v⟩ := e
      by_cases hk : k.isText key = true
      · obtain rfl := Value.isText_iff.1 hk
        rw [List.filter_cons_of_pos (h v), Entries.lookup_cons, Entries.lookup_cons, if_pos hk,
          if_pos hk]
      · rw [Entries.lookup_cons, if_neg hk, ← ih]
        by_cases hp : p (k, v) = true
        · rw [List.filter_cons_of_pos hp, Entries.lookup_cons, if_neg hk]
        · rw [List.filter_cons_of_neg hp]

theorem lookup_dropDescription (es : Entries) (h : key ≠ descriptionKey) :
    Entries.lookup key (dropDescription es) = Entries.lookup key es :=
  dropDescription_induction es (lookup_filter es (by simp [Value.isText, h]))

theorem docstring_dropDescription (es : Entries) :
    docstring (dropDescription es) = (docstring es).map fun _ => none := by
  have hnone (es : Entries) : Entries.lookup descriptionKey
      (es.filter fun e => !e.1.isText descriptionKey) = none := by
    cases hv : Entries.lookup descriptionKey (es.filter fun e => !e.1.isText descriptionKey) with
    | none => rfl
    | some v => simpa [Value.isText] using (List.mem_filter.1 (Entries.mem_of_lookup hv)).2
  unfold dropDescription
  split
  · rename_i doc hdoc
    rw [hdoc, docstring, hnone]
    rfl
  · rename_i fault hfault
    rw [hfault]
    rfl

/-- The description is no structural entry. -/
theorem structuralKey?_of_isText {k : Value} (h : k.isText descriptionKey = true) :
    structuralKey? k = none := by
  obtain rfl := Value.isText_iff.1 h
  decide

theorem structuralEntries_dropDescription (es : Entries) :
    structuralEntries (dropDescription es) = structuralEntries es := by
  refine dropDescription_induction es ?_
  induction es with
  | nil => rfl
  | cons e es ih =>
      obtain ⟨k, v⟩ := e
      cases hk : k.isText descriptionKey with
      | true =>
          rw [List.filter_cons_of_neg (by simp [hk]), ih,
            structuralEntries_cons_none (structuralKey?_of_isText hk)]
      | false =>
          rw [List.filter_cons_of_pos (by simp [hk]), structuralEntries, structuralEntries,
            List.filterMap_cons, List.filterMap_cons, ← structuralEntries, ih]
          rfl

theorem outlineEntries_dropDescription (path : List Text) (es : Entries) :
    outlineEntries path (dropDescription es) = outlineEntries path es := by
  refine dropDescription_induction es ?_
  induction es with
  | nil => rfl
  | cons e es ih =>
      obtain ⟨k, v⟩ := e
      cases hk : k.isText descriptionKey with
      | true =>
          rw [List.filter_cons_of_neg (by simp [hk]), ih,
            outlineEntries_cons_none (structuralKey?_of_isText hk)]
      | false => rw [List.filter_cons_of_pos (by simp [hk]), outlineEntries, outlineEntries, ih]

theorem outlineFresh_dropDescription (path taken : List Text) (es : Entries) :
    outlineFresh path taken (dropDescription es) = outlineFresh path taken es := by
  refine dropDescription_induction es ?_
  induction es generalizing taken with
  | nil => rfl
  | cons e es ih =>
      obtain ⟨k, v⟩ := e
      cases hk : k.isText descriptionKey with
      | true =>
          rw [List.filter_cons_of_neg (by simp [hk]), ih,
            outlineFresh_cons_none (structuralKey?_of_isText hk)]
      | false =>
          rw [List.filter_cons_of_pos (by simp [hk]), outlineFresh, outlineFresh, ih]
          simp only [ih]

/-! ## Scripts -/

/-- The second script writes the steps of the first one without their docstrings, and ends
with the image of its result or with its fault. -/
structure Script.Undocuments {α β : Type} (f : α → β) (s : Script α) (t : Script β) : Prop where
  steps_eq : t.steps = s.steps.map Step.undocumented
  result_eq : t.result = s.result.map f

namespace Script.Undocuments

variable {α β γ δ : Type} {f : α → β} {g : γ → δ} {s : Script α} {t : Script β}

theorem pure_of_eq {a : α} {b : β} (h : b = f a) : Undocuments f (Pure.pure a) (Pure.pure b) :=
  ⟨rfl, congrArg Except.ok h⟩

theorem pure (a : α) : Undocuments f (Pure.pure a) (Pure.pure (f a)) := pure_of_eq rfl

theorem fail (e : Fault) : Undocuments f (.fail e) (.fail e) := ⟨rfl, rfl⟩

theorem ofExcept {r : Except Fault α} {q : Except Fault β} (h : q = r.map f) :
    Undocuments f (.ofExcept r) (.ofExcept q) :=
  ⟨rfl, h⟩

theorem step (u : Step) : Undocuments id (.step u) (.step u.undocumented) := ⟨rfl, rfl⟩

theorem note (n m : Note) : Undocuments id (.note n) (.note m) := ⟨rfl, rfl⟩

theorem bind {k : α → Script γ} {k' : β → Script δ} (h : Undocuments f s t)
    (hk : ∀ a, s.result = .ok a → Undocuments g (k a) (k' (f a))) :
    Undocuments g (s >>= k) (t >>= k') := by
  obtain ⟨hsteps, hresult⟩ := h
  cases hs : s.result with
  | ok a =>
      rw [hs] at hresult
      rw [bind_ok hs, bind_ok hresult]
      obtain ⟨hsteps', hresult'⟩ := hk a hs
      refine ⟨?_, hresult'⟩
      simp only [steps] at hsteps hsteps' ⊢
      rw [List.filterMap_append, List.filterMap_append, hsteps, hsteps', List.map_append]
  | error e =>
      rw [hs] at hresult
      rw [bind_error hs, bind_error hresult]
      exact ⟨hsteps, rfl⟩

/-- A note of the first script need not be in the second one. -/
theorem note_left {n : Note} (h : Undocuments f s t) :
    Undocuments f (Script.note n >>= fun _ => s) t := by
  rw [bind_ok (s := Script.note n) (a := ()) rfl]
  exact ⟨h.steps_eq, h.result_eq⟩

theorem map {p : α → γ} {q : β → δ} (h : Undocuments f s t) (hpq : ∀ a, q (f a) = g (p a)) :
    Undocuments g (p <$> s) (q <$> t) := by
  rw [map_eq_pure_bind, map_eq_pure_bind]
  refine h.bind fun a _ => ?_
  exact pure_of_eq (hpq a)

end Script.Undocuments

/-! ## Leaves and parameters -/

theorem leaf_undescribed {space : Value} (hdoc : docstring fs = (docstring es).map fun _ => none)
    (hrequired : Entries.lookup requiredKey fs = Entries.lookup requiredKey es) :
    leaf path key fs space = (leaf path key es space).map Member.undocumented := by
  simp only [leaf, hrequired, hdoc]
  cases inferType path space with
  | error e => rfl
  | ok type => cases docstring es <;> rfl

/-- The entries of a leaf without the descriptions. -/
theorem leaf_undescribedLeaf (path : List Text) (key : Text) (es : Entries) (space : Value) :
    leaf path key (dropDescription (undescribedLeafEntries es)) space =
      (leaf path key es space).map Member.undocumented := by
  rw [undescribedLeafEntries_eq]
  apply leaf_undescribed
  · rw [docstring_dropDescription, docstring_onStructure]
  · rw [lookup_dropDescription _ (by decide), lookup_onStructure_attribute es (by decide)]

theorem valueSpace_undescribedLeaf (es : Entries) :
    Entries.lookup valueSpaceKey (dropDescription (undescribedLeafEntries es)) =
      Entries.lookup valueSpaceKey es := by
  rw [lookup_dropDescription _ (by decide), undescribedLeafEntries_eq, lookup_onStructure]
  simp

theorem bare_undescribedLeaf (v : Value) : (undescribedLeaf v).bare = undescribedLeaf v.bare := by
  cases v <;> rfl

theorem kind_undescribedLeaf (v : Value) : (undescribedLeaf v).kind = v.kind := by
  cases v with
  | ring _ v => exact kind_undescribedLeaf v
  | _ => rfl
termination_by structural v

theorem describedBy_undescribedLeaf (v : Value) :
    describedBy (undescribedLeaf v) = (describedBy v).map undescribedLeaf := by
  rw [describedBy, describedBy, bare_undescribedLeaf]
  cases v.bare with
  | list vs => cases vs <;> rfl
  | _ => rfl

theorem parameterAt_undescribedLeaf (path : List Text) (key : Text) (v : Value) :
    parameterAt path key (undescribedLeaf v) =
      (parameterAt path key v).map Member.undocumented := by
  rw [parameterAt, parameterAt, bare_undescribedLeaf]
  cases v.bare with
  | map es =>
      simp only [undescribedLeaf, valueSpace_undescribedLeaf]
      cases Entries.lookup valueSpaceKey es with
      | none => rfl
      | some space => exact leaf_undescribedLeaf path key es space
  | ring label v =>
      have hkind := kind_undescribedLeaf (.ring label v)
      simp only [undescribedLeaf, Fault.misplaced, Value.kind, Except.map] at hkind ⊢
      rw [hkind]
  | _ => rfl

theorem parameter_undescribedLeaf (path : List Text) (key : Text) (v : Value) :
    parameter path key (undescribedLeaf v) = (parameter path key v).map Member.undocumented := by
  rw [parameter, parameter, describedBy_undescribedLeaf]
  cases describedBy v with
  | error reason => rfl
  | ok u => exact parameterAt_undescribedLeaf path key u

theorem parameters_undescribedLeaf (path : List Text) (ps : List (Text × Value)) :
    parameters path (ps.map fun p => (p.1, undescribedLeaf p.2)) =
      (parameters path ps).map (List.map Member.undocumented) := by
  induction ps with
  | nil => rfl
  | cons p ps ih =>
      obtain ⟨key, v⟩ := p
      simp only [List.map_cons, parameters, ih, parameter_undescribedLeaf]
      cases parameter (path ++ [key]) key v with
      | error e => rfl
      | ok m => cases parameters path ps <;> rfl

theorem arguments_undescribedLeaf (path : List Text) (ps : List (Text × Value)) :
    Script.Undocuments (Option.map InterfaceOf.undocumented) (arguments path ps)
      (arguments path (ps.map fun p => (p.1, undescribedLeaf p.2))) := by
  cases ps with
  | nil => exact .pure none
  | cons p ps =>
      have hparameters := parameters_undescribedLeaf path (p :: ps)
      have hmembers (ms : List Member) : (ms.map Member.undocumented).map Node.member =
          Node.allUndocumented (ms.map Node.member) := by
        simp [Node.allUndocumented_eq_map]
      simp only [List.map_cons, arguments] at hparameters ⊢
      refine (Script.Undocuments.step _).bind fun _ _ => ?_
      refine (Script.Undocuments.ofExcept hparameters).bind fun ms _ => ?_
      rw [hmembers]
      exact (Script.Undocuments.step _).bind fun _ _ => .pure _

theorem command_undescribed (path : List Text) (key : Text) (es : Entries) :
    Script.Undocuments Node.undocumented (command path key es)
      (command path key (dropDescription (onStructure (fun _ => undescribedLeaf) es))) := by
  simp only [command, structuralEntries_dropDescription, structuralEntries_onStructure,
    docstring_dropDescription, docstring_onStructure,
    lookup_dropDescription _ (show multilineKey ≠ descriptionKey by decide),
    lookup_onStructure_attribute es (show isStructural multilineKey = false by decide)]
  refine (arguments_undescribedLeaf path (structuralEntries es)).bind fun args _ => ?_
  refine (Script.Undocuments.ofExcept rfl).bind fun doc _ => ?_
  exact .pure_of_eq (by rw [Node.undocumented_command])

/-! ## Outlines -/

structure Undescribes (v : Value) : Prop where
  outline : ∀ path key, Script.Undocuments Node.undocumented (outline path key v)
    (outline path key (undescribed v))
  element : ∀ path index taken, Script.Undocuments (List.map Node.undocumented)
    (outlineElement path index taken v) (outlineElement path index taken (undescribedElement v))

theorem outlineEntries_undescribed {es : Entries} (hes : ∀ e ∈ es, Undescribes e.2)
    (path : List Text) : Script.Undocuments (List.map Node.undocumented)
      (outlineEntries path es) (outlineEntries path (undescribedEntries es)) := by
  induction es with
  | nil => exact .pure []
  | cons e es ih =>
      obtain ⟨k, v⟩ := e
      obtain ⟨hv, hes⟩ := List.forall_mem_cons.1 hes
      simp only [undescribedEntries, outlineEntries]
      cases structuralKey? k with
      | none => exact ih hes
      | some key =>
          refine (hv.outline _ key).bind fun n _ => ?_
          exact (ih hes).bind fun ns _ => .pure (n :: ns)

theorem outlineFresh_undescribed {es : Entries} (hes : ∀ e ∈ es, Undescribes e.2)
    (path taken : List Text) : Script.Undocuments (List.map Node.undocumented)
      (outlineFresh path taken es) (outlineFresh path taken (undescribedEntries es)) := by
  induction es generalizing taken with
  | nil => exact .pure []
  | cons e es ih =>
      obtain ⟨k, v⟩ := e
      obtain ⟨hv, hes⟩ := List.forall_mem_cons.1 hes
      simp only [undescribedEntries, outlineFresh]
      cases structuralKey? k with
      | none => exact ih hes taken
      | some key =>
          simp only []
          split
          · exact (Script.Undocuments.note _ _).bind fun _ _ => ih hes taken
          · refine (hv.outline _ key).bind fun n _ => ?_
            exact (ih hes (key :: taken)).bind fun ns _ => .pure (n :: ns)

theorem outlineElements_undescribed {vs : List Value} (hvs : ∀ v ∈ vs, Undescribes v)
    (path : List Text) (index : Nat) (taken : List Text) :
    Script.Undocuments (List.map Node.undocumented) (outlineElements path index taken vs)
      (outlineElements path index taken (undescribedElements vs)) := by
  induction vs generalizing index taken with
  | nil => exact .pure []
  | cons v vs ih =>
      obtain ⟨hv, hvs⟩ := List.forall_mem_cons.1 hvs
      simp only [undescribedElements, outlineElements]
      refine (hv.element path index taken).bind fun ns _ => ?_
      have hnames : (ns.map Node.undocumented).map Node.name = ns.map Node.name := by simp
      rw [hnames]
      refine (ih hvs _ _).bind fun ms _ => ?_
      exact .pure_of_eq List.map_append.symm

theorem member_undocumented (r : Except Fault Member) :
    (r.map Member.undocumented).map Node.member = (r.map Node.member).map Node.undocumented := by
  cases r <;> rfl

theorem lookup_undescribedEntries (es : Entries) (h : Entries.lookup valueSpaceKey es = none) :
    Entries.lookup valueSpaceKey (dropDescription (undescribedEntries es)) = none := by
  rw [lookup_dropDescription _ (by decide), undescribedEntries_eq, lookup_onStructure, h]
  rfl

theorem undescribes_map {es : Entries} (hes : ∀ e ∈ es, Undescribes e.2) :
    Undescribes (.map es) where
  outline := by
    intro path key
    have hcommand (f : Text → Value → Value) :
        Entries.lookup commandKey (dropDescription (onStructure f es)) =
          Entries.lookup commandKey es := by
      rw [lookup_dropDescription _ (by decide), lookup_onStructure_attribute es (by decide)]
    rw [undescribed]
    split
    · rename_i hset
      rw [outline, outline, if_pos hset, if_pos (by rwa [hcommand])]
      exact command_undescribed path key es
    · rename_i hset
      split
      · rename_i hspace
        obtain ⟨space, hspace⟩ := Option.isSome_iff_exists.1 hspace
        have hset' : ¬ isSet (Entries.lookup commandKey
            (dropDescription (undescribedLeafEntries es))) = true := by
          rwa [undescribedLeafEntries_eq, hcommand]
        rw [undescribedLeaf, outline, outline, if_neg hset, if_neg hset',
          valueSpace_undescribedLeaf, hspace]
        exact .ofExcept (by rw [leaf_undescribedLeaf, member_undocumented])
      · rename_i hspace
        have hnone : Entries.lookup valueSpaceKey es = none := by simpa using hspace
        have hset' : ¬ isSet (Entries.lookup commandKey
            (dropDescription (undescribedEntries es))) = true := by
          rwa [undescribedEntries_eq, hcommand]
        rw [outline, outline, if_neg hset, if_neg hset', hnone, lookup_undescribedEntries es hnone]
        simp only [outlineEntries_dropDescription]
        exact (outlineEntries_undescribed hes path).map fun ns =>
          (Node.undocumented_tree .object key ns).symm
  element := by
    intro path index taken
    have hid : Entries.lookup idKey (dropDescription (undescribedEntries es)) =
        Entries.lookup idKey es := by
      rw [lookup_dropDescription _ (by decide), undescribedEntries_eq,
        lookup_onStructure_attribute es (by decide)]
    rw [undescribedElement, outlineElement, outlineElement, hid]
    cases Entries.lookup idKey es with
    | some v =>
        have htext : Fault.textOf v = (Fault.textOf v).map id := by cases Fault.textOf v <;> rfl
        refine (Script.Undocuments.ofExcept htext).bind fun text _ => ?_
        simp only [id_eq, outlineEntries_dropDescription]
        refine (outlineEntries_undescribed hes _).bind fun ns _ => .pure_of_eq ?_
        rw [List.map_singleton, Node.undocumented_tree]
    | none =>
        simp only [outlineFresh_dropDescription]
        exact outlineFresh_undescribed hes path taken

theorem leadingLeaf?_undescribedElements (vs : List Value) (h : leadingLeaf? vs = none) :
    leadingLeaf? (undescribedElements vs) = none := by
  cases vs with
  | nil => rfl
  | cons v vs =>
      rw [undescribedElements, leadingLeaf?]
      rw [leadingLeaf?] at h
      have hbare : (undescribedElement v).bare = undescribedElement v.bare := by cases v <;> rfl
      rw [hbare]
      cases hb : v.bare with
      | map es =>
          rw [hb] at h
          simp only [undescribedElement]
          rw [lookup_undescribedEntries es (by simpa using h)]
          rfl
      | _ => rfl

theorem leadingLeaf?_undescribedLeaves {vs : List Value} {es : Entries} {space : Value}
    (h : leadingLeaf? vs = some (es, space)) : leadingLeaf? (undescribedLeaves vs) =
      some (dropDescription (undescribedLeafEntries es), space) := by
  cases vs with
  | nil => simp [leadingLeaf?] at h
  | cons v vs =>
      rw [undescribedLeaves, leadingLeaf?, bare_undescribedLeaf]
      rw [leadingLeaf?] at h
      split at h
      · rename_i fs hfs
        obtain ⟨space', hspace, heq⟩ := Option.map_eq_some_iff.1 h
        obtain ⟨rfl, rfl⟩ := Prod.mk.inj heq
        rw [hfs, undescribedLeaf]
        simp only [valueSpace_undescribedLeaf, hspace]
        rfl
      · simp at h

theorem undescribes_list {vs : List Value} (hvs : ∀ v ∈ vs, Undescribes v) :
    Undescribes (.list vs) where
  outline := by
    intro path key
    rw [undescribed]
    split
    · rename_i hleaf
      obtain ⟨⟨es, space⟩, hleaf⟩ := Option.isSome_iff_exists.1 hleaf
      rw [undescribedLeaf, outline, outline, hleaf, leadingLeaf?_undescribedLeaves hleaf]
      exact .ofExcept (by rw [leaf_undescribedLeaf, member_undocumented])
    · rename_i hleaf
      have hnone : leadingLeaf? vs = none := by simpa using hleaf
      rw [outline, outline, hnone, leadingLeaf?_undescribedElements vs hnone]
      exact (outlineElements_undescribed hvs path 0 []).map fun ns =>
        (Node.undocumented_tree .collection key ns).symm
  element := fun path index taken => .fail _

theorem undescribes (v : Value) : Undescribes v := by
  induction v using Value.nestedInduction with
  | map es ih => exact undescribes_map ih
  | list vs ih => exact undescribes_list ih
  | ring label v ih =>
      constructor
      · intro path key
        rw [undescribed, outline, outline]
        exact ih.outline path key
      · intro path index taken
        rw [undescribedElement, outlineElement, outlineElement]
        exact ih.element path index taken
  | scalar v hv =>
      constructor
      · intro path key
        cases v <;> first | exact .fail _ | simp [Value.isNested] at hv
      · intro path index taken
        cases v <;> first | exact .fail _ | simp [Value.isNested] at hv

/-! ## Schemas -/

theorem kind_undescribedElement (v : Value) : (undescribedElement v).kind = v.kind := by
  cases v with
  | ring _ v => exact kind_undescribedElement v
  | _ => rfl
termination_by structural v

theorem bare_undescribedElement (v : Value) :
    (undescribedElement v).bare = undescribedElement v.bare := by
  cases v <;> rfl

theorem misplaced_undescribedElement (path : List Text) (reason : Text → Reason) (v : Value) :
    Fault.misplaced path reason (undescribedElement v) = Fault.misplaced path reason v := by
  cases v with
  | ring label v =>
      have hkind := kind_undescribedElement (.ring label v)
      simp only [undescribedElement, Fault.misplaced] at hkind ⊢
      rw [hkind]
  | _ => rfl

theorem family_undescribed (f : Family) (hasBuiltins : Bool) (es : Entries) :
    Script.Undocuments id (family f hasBuiltins es)
      (family f hasBuiltins (dropDescription (undescribedEntries es))) := by
  have hes : ∀ e ∈ es, Undescribes e.2 := fun e _ => undescribes e.2
  have hentries := outlineEntries_undescribed hes [f.key]
  have hrest : Script.Undocuments id
      (do
        .step (.addInterface f.interfaceName [])
        .step (.extend { owner := .main } [.member { name := f.memberName, type := f.type }])
        let nodes ← outlineEntries [f.key] es
        .step (.extend { owner := .interface f.interfaceName } nodes))
      (do
        .step (.addInterface f.interfaceName [])
        .step (.extend { owner := .main } [.member { name := f.memberName, type := f.type }])
        let nodes ← outlineEntries [f.key] (undescribedEntries es)
        .step (.extend { owner := .interface f.interfaceName } nodes)) := by
    refine (Script.Undocuments.step _).bind fun _ _ => ?_
    refine (Script.Undocuments.step _).bind fun _ _ => ?_
    refine hentries.bind fun ns _ => ?_
    rw [← Node.allUndocumented_eq_map]
    exact .step _
  rw [family, family, outlineEntries_dropDescription]
  cases f.wrapper?.isSome && !hasBuiltins with
  | true => exact (Script.Undocuments.step .addBuiltins).bind fun _ _ => hrest
  | false => exact hrest

/-- Entries of unknown keys may go, since they are noted only. -/
theorem families_undescribed {p : Value × Value → Bool}
    (hp : ∀ e, p e = false → Family.ofKey? e.1 = none) (hasBuiltins : Bool) (es : Entries) :
    Script.Undocuments id (families hasBuiltins es)
      (families hasBuiltins ((undescribedFamilies es).filter p)) := by
  induction es generalizing hasBuiltins with
  | nil => exact .pure ()
  | cons e es ih =>
      obtain ⟨k, v⟩ := e
      rw [undescribedFamilies, List.map_cons, ← undescribedFamilies]
      cases hk : Family.ofKey? k with
      | none =>
          by_cases hkeep : p (k, v) = true
          · simp only [Option.isSome_none, Bool.false_eq_true, if_false,
              List.filter_cons_of_pos hkeep, families, hk]
            exact (Script.Undocuments.note _ _).bind fun _ _ => ih hasBuiltins
          · simp only [Option.isSome_none, Bool.false_eq_true, if_false,
              List.filter_cons_of_neg hkeep, families, hk]
            exact (ih hasBuiltins).note_left
      | some f =>
          have hkeep : p (k, undescribedElement v) = true := by
            by_contra hdrop
            simp [hp _ (Bool.not_eq_true _ ▸ hdrop)] at hk
          simp only [Option.isSome_some, if_true, List.filter_cons_of_pos hkeep, families, hk,
            bare_undescribedElement]
          have hmisplaced := misplaced_undescribedElement [f.key] .notObject v.bare
          cases hv : v.bare with
          | map children =>
              simp only [undescribedElement]
              exact (family_undescribed f hasBuiltins children).bind fun _ _ => ih _
          | ring label w =>
              rw [hv] at hmisplaced
              simp only [undescribedElement, misplaced] at hmisplaced ⊢
              rw [hmisplaced]
              exact .fail _
          | _ => exact .fail _

theorem script_undescribed (o : Options) (s : Value) :
    Script.Undocuments id (script o s) (script o (undescribedSchema s)) := by
  have hdescription (e : Value × Value) (h : (!e.1.isText descriptionKey) = false) :
      Family.ofKey? e.1 = none := by
    have hkey : e.1 = .text descriptionKey := by simpa using h
    rw [hkey]
    decide
  have hfamilies (es : Entries) : Script.Undocuments id (families false es)
      (families false (dropDescription (undescribedFamilies es))) := by
    unfold dropDescription
    split
    · exact families_undescribed hdescription false es
    · have hall := families_undescribed (p := fun _ => true) (by simp) false es
      rwa [List.filter_true] at hall
  have hmap (es : Entries) : Script.Undocuments id (script o (.map es))
      (script o (.map (dropDescription (undescribedFamilies es)))) :=
    (Script.Undocuments.step _).bind fun _ _ => hfamilies es
  cases s with
  | map es => exact hmap es
  | ring label v =>
      cases v with
      | map es => exact hmap es
      | _ => exact .fail _
  | _ => exact .fail _

/-- Leaving the descriptions out of a schema takes the docstrings out of its document, and
changes nothing else. -/
theorem compile_undescribed (o : Options) (s : Value) :
    compile o (undescribedSchema s) = (compile o s).map Document.undocumented := by
  obtain ⟨hsteps, hresult⟩ := script_undescribed o s
  have hrun := Document.steps_undocumented (.empty o.library) (script o s).steps
  rw [show (Document.empty o.library).undocumented = .empty o.library from rfl] at hrun
  rw [compile_eq, compile_eq, hsteps, hresult, hrun]
  cases (Document.empty o.library).steps (script o s).steps with
  | error e => rfl
  | ok d => cases (script o s).result <;> rfl

end DeviceTypings.Schema
