import DeviceTypings.Proofs.Schema.Positions

namespace DeviceTypings.Schema

/-!
# Objects entry by entry

The members of an object are those of its structural entries, one for each, and
no entry has to know of another. Only in a keyed array some entries are passed
over: those whose keys are taken.
-/

variable {path taken taken' : List Text} {es : Entries}

/-- The member for an entry of an object. -/
def OutlinesEntry (path : List Text) (p : Text × Value) (n : Node) : Prop :=
  ∃ ts, (outline (path ++ [p.1]) p.1 p.2).Yields n ts

theorem outlineEntries_iff {ns : List Node} : (∃ ts, (outlineEntries path es).Yields ns ts) ↔
    List.Forall₂ (OutlinesEntry path) (structuralEntries es) ns := by
  induction es generalizing ns with
  | nil => simp [outlineEntries, structuralEntries]
  | cons e es ih =>
      obtain ⟨k, v⟩ := e
      cases hk : structuralKey? k with
      | none => rw [outlineEntries_cons_none hk, structuralEntries_cons_none hk, ih]
      | some key =>
          simp only [outlineEntries_cons_some hk, structuralEntries_cons_some hk,
            List.forall₂_cons_left_iff, ← ih]
          constructor
          · rintro ⟨_, n, us, ms, vs, hn, hms, rfl, rfl⟩
            exact ⟨n, ms, ⟨us, hn⟩, ⟨vs, hms⟩, rfl⟩
          · rintro ⟨n, ms, ⟨us, hn⟩, ⟨vs, hms⟩, rfl⟩
            exact ⟨_, n, us, ms, vs, hn, hms, rfl, rfl⟩

/-- What holds of all values of an object holds of those that describe structure. -/
theorem forall_structuralEntries {P : Value → Prop} (h : ∀ e ∈ es, P e.2) :
    ∀ p ∈ structuralEntries es, P p.2 := by
  intro p hp
  obtain ⟨e, he, hpair⟩ := List.mem_filterMap.1 hp
  obtain ⟨key, -, rfl⟩ := Option.map_eq_some_iff.1 hpair
  exact h e he

/-! ## Entries whose keys are not taken -/

/-- The entries that are read where some keys are taken. -/
def fresh (taken : List Text) : List (Text × Value) → List (Text × Value)
  | [] => []
  | p :: ps => if taken.contains p.1 then fresh taken ps else p :: fresh (p.1 :: taken) ps

theorem fresh_cons_mem {p : Text × Value} {ps : List (Text × Value)} (h : p.1 ∈ taken) :
    fresh taken (p :: ps) = fresh taken ps := by
  simp [fresh, h]

theorem fresh_cons_notMem {p : Text × Value} {ps : List (Text × Value)} (h : p.1 ∉ taken) :
    fresh taken (p :: ps) = p :: fresh (p.1 :: taken) ps := by
  simp [fresh, h]

theorem fresh_sublist (taken : List Text) (ps : List (Text × Value)) :
    (fresh taken ps).Sublist ps := by
  induction ps generalizing taken with
  | nil => exact List.Sublist.slnil
  | cons p ps ih =>
      by_cases hp : p.1 ∈ taken
      · rw [fresh_cons_mem hp]
        exact (ih taken).cons p
      · rw [fresh_cons_notMem hp]
        exact (ih (p.1 :: taken)).cons_cons p

/-- The order of the taken names is of no account. -/
theorem fresh_congr (ps : List (Text × Value)) (h : ∀ key, key ∈ taken ↔ key ∈ taken') :
    fresh taken ps = fresh taken' ps := by
  induction ps generalizing taken taken' with
  | nil => rfl
  | cons p ps ih =>
      by_cases hp : p.1 ∈ taken
      · rw [fresh_cons_mem hp, fresh_cons_mem ((h p.1).1 hp), ih h]
      · have hcons : ∀ key, key ∈ p.1 :: taken ↔ key ∈ p.1 :: taken' := by simp [h]
        rw [fresh_cons_notMem hp, fresh_cons_notMem fun hp' => hp ((h p.1).2 hp'), ih hcons]

/-- Among keys that are all different, one does not take another. -/
theorem fresh_eq_filter {ps : List (Text × Value)} (h : (ps.map Prod.fst).Nodup) :
    fresh taken ps = ps.filter fun p => !taken.contains p.1 := by
  induction ps generalizing taken with
  | nil => rfl
  | cons p ps ih =>
      obtain ⟨hp, hps⟩ := List.nodup_cons.1 h
      by_cases ht : p.1 ∈ taken
      · rw [fresh_cons_mem ht, ih hps, List.filter_cons_of_neg (by simp [ht])]
      · have hlater : ps.filter (fun q => !(p.1 :: taken).contains q.1) =
            ps.filter fun q => !taken.contains q.1 := by
          refine List.filter_congr fun q hq => ?_
          have hne : q.1 ≠ p.1 := fun heq => hp (heq ▸ List.mem_map_of_mem hq)
          simp [hne]
        rw [fresh_cons_notMem ht, ih hps, hlater, List.filter_cons_of_pos (by simp [ht])]

theorem outlineFresh_iff {ns : List Node} : (∃ ts, (outlineFresh path taken es).Yields ns ts) ↔
    List.Forall₂ (OutlinesEntry path) (fresh taken (structuralEntries es)) ns := by
  induction es generalizing taken ns with
  | nil => simp [outlineFresh, structuralEntries, fresh]
  | cons e es ih =>
      obtain ⟨k, v⟩ := e
      cases hk : structuralKey? k with
      | none => rw [outlineFresh_cons_none hk, structuralEntries_cons_none hk, ih]
      | some key =>
          rw [structuralEntries_cons_some hk]
          by_cases ht : key ∈ taken
          · simp only [outlineFresh_cons_mem hk ht, fresh_cons_mem (p := (key, v)) ht, ih]
          · simp only [outlineFresh_cons_notMem hk ht, fresh_cons_notMem (p := (key, v)) ht,
              List.forall₂_cons_left_iff, ← ih]
            constructor
            · rintro ⟨_, n, us, ms, vs, hn, hms, rfl, rfl⟩
              exact ⟨n, ms, ⟨us, hn⟩, ⟨vs, hms⟩, rfl⟩
            · rintro ⟨n, ms, ⟨us, hn⟩, ⟨vs, hms⟩, rfl⟩
              exact ⟨_, n, us, ms, vs, hn, hms, rfl, rfl⟩

/-! ## Parameters -/

/-- A parameter has the descriptor of its own or that of its first element. -/
theorem parameter_eq_ok {key : Text} {v : Value} {m : Member} :
    parameter path key v = .ok m ↔ ∃ u es space, describedBy v = .ok u ∧ u.bare = .map es ∧
      Entries.lookup valueSpaceKey es = some space ∧ leaf path key es space = .ok m := by
  unfold parameter
  cases describedBy v with
  | error reason => simp
  | ok u =>
      simp only [Except.ok.injEq, parameterAt]
      split
      · rename_i es hes
        cases hs : Entries.lookup valueSpaceKey es <;> simp [hes, hs]
      · rename_i hmap
        simp only [reduceCtorEq, false_iff]
        rintro ⟨_, es, _, rfl, hes, -⟩
        exact hmap es hes

theorem parameters_iff {ps : List (Text × Value)} {ms : List Member} :
    parameters path ps = .ok ms ↔
      List.Forall₂ (fun p m => parameter (path ++ [p.1]) p.1 p.2 = .ok m) ps ms := by
  induction ps generalizing ms with
  | nil => simp [parameters, eq_comm]
  | cons p ps ih => simp only [parameters_cons_eq_ok, ih, List.forall₂_cons_left_iff]

/-- The interface of some parameters, of which there may be none. -/
def argumentsOf (path : List Text) (ms : List Member) : Option Interface :=
  if ms.isEmpty then none else some { name := argsName path, children := ms.map Node.member }

theorem arguments_iff {ps : List (Text × Value)} {args : Option Interface} :
    (∃ ts, (arguments path ps).Yields args ts) ↔ ∃ ms,
      List.Forall₂ (fun p m => parameter (path ++ [p.1]) p.1 p.2 = .ok m) ps ms ∧
        args = argumentsOf path ms := by
  cases ps with
  | nil => simp [arguments_nil_yields, argumentsOf]
  | cons p ps =>
      simp only [arguments_cons_yields, ← parameters_iff]
      constructor
      · rintro ⟨_, ms, hms, rfl, -⟩
        obtain ⟨m, ms, -, -, rfl⟩ := parameters_cons_eq_ok.1 hms
        exact ⟨_, hms, rfl⟩
      · rintro ⟨ms, hms, rfl⟩
        obtain ⟨m, ms, -, -, rfl⟩ := parameters_cons_eq_ok.1 hms
        exact ⟨_, _, hms, rfl, rfl⟩

end DeviceTypings.Schema
