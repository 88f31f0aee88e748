import DeviceTypings.Proofs.Document.Checks
import DeviceTypings.Proofs.Workbench.Run

namespace DeviceTypings

/-!
# Calls that fail

A call on a workbench does all of its work or none, whatever it has to check and to write. So the
calls that fail may be left out of a run: all others then work, with the same results, and the run
ends in the same workbench. Which calls fail, and with what fault, depends on the names in use.
-/

namespace Workbench

variable {w w' : Workbench} {c : Call} {e : Refusal}

/-! ## Runs without the calls that fail -/

/-- What a call answers with. -/
def answer (w : Workbench) (c : Call) : Except Refusal NodeId :=
  match (call c).run w with
  | .ok id _ => .ok id
  | .error e _ => .error e

/-- The answers to the calls of a run. -/
def answers (w : Workbench) : List Call → List (Except Refusal NodeId)
  | [] => []
  | c :: cs => w.answer c :: (w.perform c).answers cs

/-- The calls of a run that work. -/
def effective (w : Workbench) : List Call → List Call
  | [] => []
  | c :: cs =>
      if (w.answer c).isOk then c :: (w.perform c).effective cs else (w.perform c).effective cs

theorem perform_of_answer_error (h : w.answer c = .error e) : w.perform c = w := by
  unfold answer at h
  split at h
  · cases h
  · rename_i hc
    exact perform_of_error hc

theorem effective_cons_of_ok {id : NodeId} (h : w.answer c = .ok id) (cs : List Call) :
    w.effective (c :: cs) = c :: (w.perform c).effective cs := by
  rw [effective, h]
  rfl

theorem effective_cons_of_error (h : w.answer c = .error e) (cs : List Call) :
    w.effective (c :: cs) = w.effective cs := by
  rw [effective, h, perform_of_answer_error h]
  rfl

theorem answers_effective (w : Workbench) (cs : List Call) :
    w.answers (w.effective cs) = (w.answers cs).filter Except.isOk := by
  induction cs generalizing w with
  | nil => rfl
  | cons c cs ih =>
      cases hc : w.answer c with
      | ok id =>
          rw [effective_cons_of_ok hc, answers, answers, ih, hc]
          rfl
      | error e =>
          rw [effective_cons_of_error hc, answers, ih, hc, perform_of_answer_error hc]
          rfl

theorem run_effective (w : Workbench) (cs : List Call) : w.run (w.effective cs) = w.run cs := by
  induction cs generalizing w with
  | nil => rfl
  | cons c cs ih =>
      cases hc : w.answer c with
      | ok id =>
          rw [effective_cons_of_ok hc]
          exact ih (w.perform c)
      | error e =>
          have hsame : w.run (c :: cs) = w.run cs :=
            congrArg (run · cs) (perform_of_answer_error hc)
          rw [effective_cons_of_error hc, hsame]
          exact ih w

/-! ## What fails -/

/-- The names that no further declaration may have. -/
def Declares (w : Workbench) (name : Text) : Prop :=
  name ∈ w.registeredNames ∨ w.main.map w.name = some name

theorem declares_scope {name : Text} : w.scope.declares name = true ↔ w.Declares name :=
  Scope.declares_iff

theorem declares_scope_eq_false {name : Text} :
    w.scope.declares name = false ↔ ¬ w.Declares name := by
  rw [← declares_scope, Bool.not_eq_true]

theorem interface?_eq_none {name : Text} :
    w.interface? name = none ↔ name ∉ w.registeredNames := by
  simp only [interface?, List.lookup_eq_none_iff, registeredNames, List.mem_map, not_exists,
    not_and, bne_iff_ne, ne_eq]
  exact ⟨fun h p hp heq => h p hp heq.symm, fun h p hp heq => h p hp heq.symm⟩

/-- The calls that a workbench refuses. -/
inductive Refuses (w : Workbench) : Call → Refusal → Prop
  | declared {name : Text} {bases : List Text} (h : w.Declares name) :
      Refuses w (.addInterface name bases) (.fault (.duplicate name))
  | missing {name : Text} {bases missing : List Text} (hname : ¬ w.Declares name)
      (hmissing : bases.filter (· ∉ w.registeredNames) = missing) (h : missing ≠ []) :
      Refuses w (.addInterface name bases) (.fault (.missingBases name missing))
  | second {name base : Text} {withConnect : Bool} (h : w.main ≠ none) :
      Refuses w (.addMain name base withConnect) (.fault (.secondMain name))
  | registered {name base : Text} {withConnect : Bool} (hmain : w.main = none)
      (h : name ∈ w.registeredNames) :
      Refuses w (.addMain name base withConnect) (.fault (.duplicate name))
  | builtin {name : Text} {before after : List Text}
      (hnames : builtinNames = before ++ name :: after) (hfree : ∀ b ∈ before, ¬ w.Declares b)
      (h : w.Declares name) : Refuses w .addBuiltins (.fault (.duplicate name))
  | childless {operation : Text} {id : NodeId} {children : List NodeId}
      (h : (w.shape id).isContainer = false) :
      Refuses w (.extend operation id children)
        (.sketch (.noPart (w.shape id).kind operation))

theorem run_addInterface_eq_error {name : Text} {bases : List Text} :
    (call (.addInterface name bases)).run w = .error e w' ↔
      w.Refuses (.addInterface name bases) e ∧ w' = w := by
  have hmissing : bases.filter (· ∉ w.registeredNames) = w.scope.missing bases := by
    simp [Scope.missing, scope]
  rw [call, run_adaptExcept_eq_error]
  simp only [run_addInterface, outcome_eq_error, Scope.checkInterface_eq_error, declares_scope,
    declares_scope_eq_false, ← hmissing]
  constructor
  · rintro ⟨f, ⟨⟨hname, rfl⟩ | ⟨hname, hm, rfl⟩, hw⟩, rfl⟩
    · exact ⟨.declared hname, hw⟩
    · exact ⟨.missing hname rfl hm, hw⟩
  · rintro ⟨h, hw⟩
    cases h with
    | declared h => exact ⟨_, ⟨.inl ⟨h, rfl⟩, hw⟩, rfl⟩
    | missing hname hm h => exact ⟨_, ⟨.inr ⟨hname, hm ▸ h, rfl⟩, hw⟩, by rw [hm]⟩

theorem run_addMain_eq_error {name base : Text} {withConnect : Bool} :
    (call (.addMain name base withConnect)).run w = .error e w' ↔
      w.Refuses (.addMain name base withConnect) e ∧ w' = w := by
  have hmain : w.scope.mainName = none ↔ w.main = none := by
    rw [scope, Option.map_eq_none_iff]
  rw [call, run_adaptExcept_eq_error]
  simp only [run_addMain, outcome_eq_error, Scope.checkMain_eq_error, ne_eq, hmain]
  constructor
  · rintro ⟨f, ⟨⟨hm, rfl⟩ | ⟨hm, hname, rfl⟩, hw⟩, rfl⟩
    · exact ⟨.second hm, hw⟩
    · exact ⟨.registered hm hname, hw⟩
  · rintro ⟨h, hw⟩
    cases h with
    | second h => exact ⟨_, ⟨.inl ⟨h, rfl⟩, hw⟩, rfl⟩
    | registered hm h => exact ⟨_, ⟨.inr ⟨hm, h, rfl⟩, hw⟩, rfl⟩

theorem run_addBuiltins_eq_error :
    (call .addBuiltins).run w = .error e w' ↔ w.Refuses .addBuiltins e ∧ w' = w := by
  rw [call, run_adaptExcept_eq_error]
  simp only [run_addBuiltins, outcome_eq_error, Scope.checkBuiltins_eq_error, declares_scope,
    declares_scope_eq_false]
  constructor
  · rintro ⟨f, ⟨⟨name, before, after, hnames, hname, hfree, rfl⟩, hw⟩, rfl⟩
    exact ⟨.builtin hnames hfree hname, hw⟩
  · rintro ⟨h, hw⟩
    cases h with
    | builtin hnames hfree h => exact ⟨_, ⟨⟨_, _, _, hnames, h, hfree, rfl⟩, hw⟩, rfl⟩

theorem run_extend_eq_error {operation : Text} {id : NodeId} {children : List NodeId} :
    (call (.extend operation id children)).run w = .error e w' ↔
      w.Refuses (.extend operation id children) e ∧ w' = w := by
  rw [run_call_extend]
  cases hc : (w.shape id).isContainer with
  | true =>
      refine iff_of_false (by simp) ?_
      rintro ⟨h, -⟩
      cases h with
      | childless h => simp [hc] at h
  | false =>
      constructor
      · intro h
        obtain ⟨rfl, rfl⟩ := EStateM.Result.error.inj h
        exact ⟨.childless hc, rfl⟩
      · rintro ⟨h, rfl⟩
        cases h
        rfl

/-- A call fails exactly if it is refused, and then it has written nothing. -/
theorem run_call_eq_error : (call c).run w = .error e w' ↔ w.Refuses c e ∧ w' = w := by
  cases c with
  | addInterface name bases => exact run_addInterface_eq_error
  | addMain name base withConnect => exact run_addMain_eq_error
  | addBuiltins => exact run_addBuiltins_eq_error
  | make s =>
      constructor
      · intro h
        cases h
      · rintro ⟨h, -⟩
        cases h
  | extend operation id children => exact run_extend_eq_error

/-- The calls of a run that fail leave no trace. At each point the names in use say which
calls fail, and how, and a call that fails leaves the workbench as it was. -/
theorem failed_calls (w : Workbench) (cs : List Call) :
    w.answers (w.effective cs) = (w.answers cs).filter Except.isOk ∧
      w.run (w.effective cs) = w.run cs ∧
      ∀ c e w', (call c).run (w.run cs) = .error e w' ↔
        (w.run cs).Refuses c e ∧ w' = w.run cs :=
  ⟨answers_effective w cs, run_effective w cs, fun _ _ _ => run_call_eq_error⟩

-- What failed for want of a base works once the base is there.
example :
    (empty "jsxapi").effective
      [.addInterface "Settable" [], .addBuiltins, .addInterface "A" ["B", "B"],
        .addInterface "B" [], .addMain "B" "XAPI" true, .addInterface "A" ["B", "B"]] =
      [.addInterface "Settable" [], .addInterface "B" [], .addInterface "A" ["B", "B"]] := rfl

end Workbench

end DeviceTypings
