import DeviceTypings.Document.Step
import DeviceTypings.Proofs.Outcome

namespace DeviceTypings

/-!
# Faults of documents

Which checks of names fail, and with what fault. The steps of a document fail by these
checks or because a place is missing, and never because a schema is malformed.
-/

namespace Scope

variable {s : Scope} {name : Text} {bases : List Text} {f : Fault}

theorem checkInterface_eq_error : s.checkInterface name bases = .error f ↔
    s.declares name = true ∧ f = .duplicate name ∨
      s.declares name = false ∧ s.missing bases ≠ [] ∧
        f = .missingBases name (s.missing bases) := by
  unfold checkInterface
  cases s.declares name with
  | true => simp [eq_comm (a := f)]
  | false => cases hm : s.missing bases <;> simp [eq_comm (a := f)]

theorem checkMain_eq_error : s.checkMain name = .error f ↔
    s.mainName ≠ none ∧ f = .secondMain name ∨
      s.mainName = none ∧ name ∈ s.registered ∧ f = .duplicate name := by
  unfold checkMain
  cases hm : s.mainName with
  | some main => simp [eq_comm (a := f)]
  | none =>
      by_cases hname : name ∈ s.registered <;> simp [declares, hm, hname, eq_comm (a := f)]

theorem checkBuiltins_eq_error : s.checkBuiltins = .error f ↔
    ∃ name before after, builtinNames = before ++ name :: after ∧ s.declares name = true ∧
      (∀ b ∈ before, s.declares b = false) ∧ f = .duplicate name := by
  have hfirst (name : Text) : builtinNames.find? s.declares = some name ↔
      ∃ before after, builtinNames = before ++ name :: after ∧ s.declares name = true ∧
        ∀ b ∈ before, s.declares b = false := by
    rw [List.find?_eq_some_iff_append]
    grind
  unfold checkBuiltins
  cases hf : builtinNames.find? s.declares with
  | none =>
      simp only [reduceCtorEq, false_iff]
      rintro ⟨name, before, after, hnames, hname, hbefore, -⟩
      have hsome := (hfirst name).2 ⟨before, after, hnames, hname, hbefore⟩
      simp [hf] at hsome
  | some name =>
      constructor
      · intro h
        obtain ⟨before, after, hnames, hname, hbefore⟩ := (hfirst name).1 hf
        exact ⟨name, before, after, hnames, hname, hbefore, (Except.error.inj h).symm⟩
      · rintro ⟨name', before, after, hnames, hname, hbefore, rfl⟩
        have hsome := (hfirst name').2 ⟨before, after, hnames, hname, hbefore⟩
        rw [hf] at hsome
        rw [Option.some.inj hsome]

end Scope

namespace Document

variable {path : List Text} {reason : Reason}

theorem step_ne_malformed (d : Document) (t : Step) :
    d.step t ≠ .error (.malformed path reason) := by
  intro h
  cases t with
  | addInterface name bases =>
      rw [step, addInterface, Except.map_eq_error, Scope.checkInterface_eq_error] at h
      simp at h
  | addMain name base withConnect =>
      rw [step, addMain, Except.map_eq_error, Scope.checkMain_eq_error] at h
      simp at h
  | addBuiltins =>
      rw [step, addBuiltins, Except.map_eq_error, Scope.checkBuiltins_eq_error] at h
      simp at h
  | extend place nodes =>
      rw [step, extend] at h
      split at h <;> simp at h

theorem steps_ne_malformed (d : Document) (ts : List Step) :
    d.steps ts ≠ .error (.malformed path reason) := by
  induction ts generalizing d with
  | nil => simp
  | cons t ts ih =>
      rw [steps_cons, ne_eq, Except.bind_eq_error]
      rintro (h | ⟨e, -, h⟩)
      · exact step_ne_malformed d t h
      · exact ih e h

end Document

end DeviceTypings
