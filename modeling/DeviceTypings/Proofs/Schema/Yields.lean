import DeviceTypings.Schema.Script

namespace DeviceTypings.Schema.Script

/-!
# Scripts that end well

A script yields a result together with the steps that it has written by then.
The rules below take a script apart along its binds, so that a proof about one
sees the steps of each part in order.
-/

variable {α β : Type}

/-- The script ends with the result `a` after the steps `ts`. -/
def Yields (s : Script α) (a : α) (ts : List Step) : Prop :=
  s.result = .ok a ∧ s.steps = ts

@[simp] theorem yields_pure {a b : α} {ts : List Step} :
    (pure a : Script α).Yields b ts ↔ b = a ∧ ts = [] := by
  simp [Yields, steps, eq_comm]

@[simp] theorem yields_step {t : Step} {u : Unit} {ts : List Step} :
    (step t).Yields u ts ↔ ts = [t] := by
  simp [Yields, step, write, steps, Entry.step?, eq_comm]

@[simp] theorem yields_note {n : Note} {u : Unit} {ts : List Step} :
    (note n).Yields u ts ↔ ts = [] := by
  have hs : (note n).steps = [] := rfl
  have hr : (note n).result = .ok u := rfl
  simp [Yields, hs, hr, eq_comm]

@[simp] theorem yields_ofExcept {r : Except Fault α} {a : α} {ts : List Step} :
    (ofExcept r).Yields a ts ↔ r = .ok a ∧ ts = [] := by
  simp [Yields, ofExcept, steps, eq_comm]

@[simp] theorem not_yields_fail {e : Fault} {a : α} {ts : List Step} :
    ¬ (fail e : Script α).Yields a ts := by
  simp [Yields, fail]

/-- Of a bind, the steps of the first part come first. -/
theorem yields_bind {s : Script α} {f : α → Script β} {b : β} {ts : List Step} :
    (s >>= f).Yields b ts ↔ ∃ a us vs, s.Yields a us ∧ (f a).Yields b vs ∧ ts = us ++ vs := by
  cases h : s.result with
  | error e => simp [Yields, bind_error h, h]
  | ok a =>
      constructor
      · intro hb
        rw [bind_ok h f] at hb
        refine ⟨a, s.steps, (f a).steps, ⟨h, rfl⟩, ⟨hb.1, rfl⟩, ?_⟩
        rw [← hb.2]
        simp [steps]
      · rintro ⟨a', us, vs, ⟨ha, rfl⟩, ⟨hb, rfl⟩, rfl⟩
        obtain rfl : a = a' := by simpa [h] using ha
        rw [bind_ok h f]
        exact ⟨hb, by simp [steps]⟩

theorem yields_map {s : Script α} {f : α → β} {b : β} {ts : List Step} :
    (f <$> s).Yields b ts ↔ ∃ a, s.Yields a ts ∧ b = f a := by
  rw [map_eq_pure_bind, yields_bind]
  constructor
  · rintro ⟨a, us, vs, ha, hb, rfl⟩
    obtain ⟨rfl, rfl⟩ := yields_pure.1 hb
    exact ⟨a, by simpa using ha, rfl⟩
  · rintro ⟨a, ha, rfl⟩
    exact ⟨a, ts, [], ha, by simp, by simp⟩

/-- Two scripts in a row, whose results are put together. -/
theorem yields_bind_pure {γ : Type} {s : Script α} {t : α → Script β} {f : α → β → γ} {c : γ}
    {ts : List Step} :
    (s >>= fun a => t a >>= fun b => pure (f a b)).Yields c ts ↔
      ∃ a us b vs, s.Yields a us ∧ (t a).Yields b vs ∧ c = f a b ∧ ts = us ++ vs := by
  simp only [yields_bind, yields_pure]
  constructor
  · rintro ⟨a, us, _, ha, ⟨b, vs, _, hb, ⟨rfl, rfl⟩, rfl⟩, rfl⟩
    exact ⟨a, us, b, vs, ha, hb, rfl, by simp⟩
  · rintro ⟨a, us, b, vs, ha, hb, rfl, rfl⟩
    exact ⟨a, us, vs, ha, ⟨b, vs, [], hb, ⟨rfl, rfl⟩, by simp⟩, rfl⟩

/-! ## Effects -/

/-- What a script does to a document, and how it ends. Its notes are left out. -/
def effect (s : Script α) : List Step × Except Fault α := (s.steps, s.result)

/-- A part may be replaced by one of the same effect, and so may what follows on its result. -/
theorem effect_bind {s s' : Script α} {k k' : α → Script β} (h : s.effect = s'.effect)
    (hk : ∀ a ts, s.Yields a ts → (k a).effect = (k' a).effect) :
    (s >>= k).effect = (s' >>= k').effect := by
  obtain ⟨hsteps, hresult⟩ := Prod.mk.inj h
  cases hs : s.result with
  | error e =>
      rw [bind_error hs, bind_error (hresult ▸ hs)]
      exact congrArg (·, Except.error e) hsteps
  | ok a =>
      obtain ⟨hsteps', hresult'⟩ := Prod.mk.inj (hk a s.steps ⟨hs, rfl⟩)
      rw [bind_ok hs, bind_ok (hresult ▸ hs)]
      simp only [effect, steps, List.filterMap_append, hresult'] at hsteps hsteps' ⊢
      rw [hsteps, hsteps']

theorem effect_bind_congr (s : Script α) {k k' : α → Script β}
    (h : ∀ a, (k a).effect = (k' a).effect) : (s >>= k).effect = (s >>= k').effect :=
  effect_bind rfl fun a _ _ => h a

theorem effect_map {s s' : Script α} (f : α → β) (h : s.effect = s'.effect) :
    (f <$> s).effect = (f <$> s').effect := by
  rw [map_eq_pure_bind, map_eq_pure_bind]
  exact effect_bind h fun _ _ _ => rfl

theorem effect_note_bind (n : Note) (k : Unit → Script β) :
    (note n >>= k).effect = (k ()).effect := by
  rw [bind_ok (s := note n) (a := ()) rfl]
  rfl

end DeviceTypings.Schema.Script
