import DeviceTypings.Fault

namespace DeviceTypings

/-!
# Outcomes without a fault

When a computation in several parts has a result, each of its parts has one.
-/

variable {ε α β : Type}

theorem Except.bind_eq_ok {r : Except ε α} {f : α → Except ε β} {b : β} :
    r.bind f = .ok b ↔ ∃ a, r = .ok a ∧ f a = .ok b := by
  cases r <;> simp [Except.bind]

theorem Except.do_eq_ok {r : Except ε α} {f : α → Except ε β} {b : β} :
    (r >>= f) = .ok b ↔ ∃ a, r = .ok a ∧ f a = .ok b :=
  Except.bind_eq_ok

theorem Except.map_eq_ok {r : Except ε α} {f : α → β} {b : β} :
    r.map f = .ok b ↔ ∃ a, r = .ok a ∧ f a = b := by
  cases r <;> simp [Except.map]

theorem Except.map_unit_eq_ok {r : Except ε Unit} {f : Unit → β} {b : β} :
    r.map f = .ok b ↔ r = .ok () ∧ f () = b := by
  cases r <;> simp [Except.map]

@[simp] theorem Except.mapError_ok {ε' : Type} (f : ε → ε') (a : α) :
    (Except.ok a).mapError f = .ok a := rfl

@[simp] theorem Except.mapError_error {ε' : Type} (f : ε → ε') (e : ε) :
    (Except.error e : Except ε α).mapError f = .error (f e) := rfl

theorem Except.mapError_eq_ok {ε' : Type} {r : Except ε α} {f : ε → ε'} {a : α} :
    r.mapError f = .ok a ↔ r = .ok a := by
  cases r <;> simp

theorem Except.pure_eq_ok {a b : α} : (pure a : Except ε α) = .ok b ↔ a = b := by
  simp [pure, Except.pure]

theorem Fault.textOf_eq_ok {v : Value} {s : Text} :
    Fault.textOf v = .ok s ↔ v.flaw? = none ∧ v.toText = s := by
  unfold Fault.textOf
  cases v.flaw? <;> simp

/-! ## Faults -/

/-- A fault comes from the first part of a computation that has one. -/
theorem Except.bind_eq_error {r : Except ε α} {f : α → Except ε β} {e : ε} :
    r.bind f = .error e ↔ r = .error e ∨ ∃ a, r = .ok a ∧ f a = .error e := by
  cases r <;> simp [Except.bind]

theorem Except.do_eq_error {r : Except ε α} {f : α → Except ε β} {e : ε} :
    (r >>= f) = .error e ↔ r = .error e ∨ ∃ a, r = .ok a ∧ f a = .error e :=
  Except.bind_eq_error

theorem Except.map_eq_error {r : Except ε α} {f : α → β} {e : ε} :
    r.map f = .error e ↔ r = .error e := by
  cases r <;> simp [Except.map]

end DeviceTypings
