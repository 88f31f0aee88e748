import DeviceTypings.Workbench.Store

namespace DeviceTypings.Workbench

/-!
# Operations on a workbench

An operation makes its checks one after the other, and then writes one part of the workbench
after the other. What it comes to is said here at once: it fails by its checks and leaves the
workbench as it was, or all of its writing is done.
-/

section

variable {ε α β : Type} {w w' : Workbench} {x : Operation ε α} {f : α → Operation ε β}

theorem run_bind_of_ok {a : α} (h : x.run w = .ok a w') : (x >>= f).run w = (f a).run w' := by
  rw [EStateM.run] at h
  simp only [EStateM.run, bind, EStateM.bind, h]

theorem run_bind_of_error {e : ε} (h : x.run w = .error e w') :
    (x >>= f).run w = .error e w' := by
  rw [EStateM.run] at h
  simp only [EStateM.run, bind, EStateM.bind, h]

variable {δ : Type} {g : ε → δ} {a : α}

theorem run_adaptExcept_eq_ok : (x.adaptExcept g).run w = .ok a w' ↔ x.run w = .ok a w' := by
  simp only [EStateM.run, EStateM.adaptExcept]
  cases x w <;> simp

theorem run_adaptExcept_eq_error {e : δ} :
    (x.adaptExcept g).run w = .error e w' ↔ ∃ f, x.run w = .error f w' ∧ g f = e := by
  simp only [EStateM.run, EStateM.adaptExcept]
  cases x w with
  | ok => simp
  | error f u =>
      constructor
      · intro h
        obtain ⟨rfl, rfl⟩ := EStateM.Result.error.inj h
        exact ⟨f, rfl, rfl⟩
      · rintro ⟨f', h, rfl⟩
        obtain ⟨rfl, rfl⟩ := EStateM.Result.error.inj h
        rfl

end

/-! ## Outcomes -/

section

variable {ε : Type} {w w' u : Workbench} {id j : NodeId} {check : Except ε Unit} {e : ε}

/-- The outcome of an operation that writes nothing before its checks are made. -/
def outcome (w : Workbench) (check : Except ε Unit) (id : NodeId) (w' : Workbench) :
    EStateM.Result ε Workbench NodeId :=
  match check with
  | .ok () => .ok id w'
  | .error e => .error e w

theorem outcome_eq_ok :
    outcome w check id w' = .ok j u ↔ check = .ok () ∧ j = id ∧ u = w' := by
  cases check with
  | ok => simp [outcome, eq_comm (a := j), eq_comm (a := u)]
  | error e => simp [outcome]

theorem outcome_eq_error : outcome w check id w' = .error e u ↔ check = .error e ∧ u = w := by
  cases check with
  | ok => simp [outcome]
  | error f => simp [outcome, eq_comm (a := u)]

end

/-! ## What operations come to -/

variable (w : Workbench)

/-- A workbench with a new interface that is registered. -/
def enrolled (name : Text) (bases : List Text) : Workbench :=
  (w.add (.interface name bases [])).1.register name w.shapes.size

theorem run_requireFree (name : Text) :
    (requireFree name).run w =
      if w.scope.declares name then .error (.duplicate name) w else .ok () w := by
  change (if w.scope.declares name then throw (.duplicate name) else pure () :
    Operation Fault Unit).run w = _
  split <;> rfl

theorem run_addInterface (name : Text) (bases : List Text) :
    (addInterface name bases).run w = outcome w (w.scope.checkInterface name bases)
      w.shapes.size ((w.enrolled name bases).attach rootId [w.shapes.size]) := by
  have hfree := run_requireFree w name
  unfold addInterface Scope.checkInterface
  cases hname : w.scope.declares name with
  | true =>
      rw [hname, if_pos rfl] at hfree
      exact run_bind_of_error hfree
  | false =>
      rw [hname] at hfree
      rw [run_bind_of_ok hfree]
      change (if w.scope.missing bases ≠ [] then _ else _ : Operation Fault NodeId).run w = _
      cases w.scope.missing bases with
      | nil => rfl
      | cons b bs => rfl

theorem run_addMain (name base : Text) (withConnect : Bool) :
    (addMain name base withConnect).run w = outcome w (w.scope.checkMain name) w.shapes.size
      (({ (w.add (.main name base withConnect true [])).1 with main := some w.shapes.size }.attach
        rootId [w.shapes.size]).update importId
          (.imported (base :: if withConnect then [connectGenerator] else []))) := by
  have hfree := run_requireFree w name
  have hmain : w.scope.mainName.isSome = w.main.isSome := Option.isSome_map
  unfold addMain Scope.checkMain
  change (if w.main.isSome then _ else _ : Operation Fault NodeId).run w = _
  rw [hmain]
  cases w.main.isSome with
  | true => rfl
  | false =>
      cases hname : w.scope.declares name with
      | true =>
          rw [hname, if_pos rfl] at hfree
          exact run_bind_of_error hfree
      | false =>
          rw [hname] at hfree
          exact run_bind_of_ok hfree

/-- The names are looked at one after the other, up to the first that is in use. -/
theorem run_forM_requireFree (names : List Text) :
    (forM names requireFree).run w =
      match names.find? w.scope.declares with
      | some name => .error (.duplicate name) w
      | none => .ok () w := by
  induction names with
  | nil => rfl
  | cons name names ih =>
      have hfree := run_requireFree w name
      rw [List.forM_cons, List.find?_cons]
      cases hname : w.scope.declares name with
      | true =>
          rw [hname, if_pos rfl] at hfree
          exact run_bind_of_error hfree
      | false =>
          rw [hname] at hfree
          rw [run_bind_of_ok hfree, ih]

theorem run_forM_enroll {ε : Type} (names : List Text) :
    (forM names fun name => do discard (enroll name []) : Operation ε Unit).run w =
      .ok () (names.foldl (fun w name => w.enrolled name []) w) := by
  induction names generalizing w with
  | nil => rfl
  | cons name names ih =>
      have hone : (discard (enroll name []) : Operation ε Unit).run w =
        .ok () (w.enrolled name []) := rfl
      rw [List.forM_cons, run_bind_of_ok hone]
      exact ih (w.enrolled name [])

theorem run_addBuiltins :
    addBuiltins.run w =
      let w' := builtinNames.foldl (fun w name => w.enrolled name []) w
      outcome w w.scope.checkBuiltins w'.shapes.size
        ((w'.add .builtins).1.attachFirst w'.shapes.size) := by
  have hfree := run_forM_requireFree w builtinNames
  unfold addBuiltins Scope.checkBuiltins
  cases hname : builtinNames.find? w.scope.declares with
  | some name =>
      rw [hname] at hfree
      exact run_bind_of_error hfree
  | none =>
      rw [hname] at hfree
      rw [run_bind_of_ok hfree, run_bind_of_ok (run_forM_enroll w builtinNames)]
      rfl

theorem run_extend (operation : Text) (id : NodeId) (children : List NodeId) :
    (extend operation id children).run w =
      if (w.shape id).isContainer then .ok () (w.attach id children)
      else .error (.noPart (w.shape id).kind operation) w := by
  unfold extend
  change (if !(w.shape id).isContainer then _ else _ : Operation SketchFault Unit).run w = _
  cases (w.shape id).isContainer <;> rfl

/-! ## Calls -/

/-- What may be called on a document and on its nodes. -/
inductive Call
  | addInterface (name : Text) (bases : List Text)
  | addMain (name base : Text) (withConnect : Bool)
  | addBuiltins
  /-- Makes a node that is attached nowhere. -/
  | make (s : Shape NodeId)
  | extend (operation : Text) (id : NodeId) (children : List NodeId)

/-- Why a call fails. -/
inductive Refusal
  | fault (f : Fault)
  | sketch (f : SketchFault)

/-- What adding children answers with: the child if there is to be one, else its container. -/
def addedTo (operation : Text) (id : NodeId) (children : List NodeId) : NodeId :=
  match children with
  | [child] => if operation = "add_child" then child else id
  | _ => id

/-- The operation that a call comes to, which answers with a node. -/
def call : Call → Operation Refusal NodeId
  | .addInterface name bases => (addInterface name bases).adaptExcept .fault
  | .addMain name base withConnect => (addMain name base withConnect).adaptExcept .fault
  | .addBuiltins => addBuiltins.adaptExcept .fault
  | .make s => make s
  | .extend operation id children =>
      (do extend operation id children; return addedTo operation id children :
        Operation SketchFault NodeId).adaptExcept .sketch

variable {w} {w' : Workbench}

theorem run_call_extend (operation : Text) (id : NodeId) (children : List NodeId) :
    (call (.extend operation id children)).run w =
      if (w.shape id).isContainer then
        .ok (addedTo operation id children) (w.attach id children)
      else .error (.sketch (.noPart (w.shape id).kind operation)) w := by
  have hextend := run_extend w operation id children
  cases hc : (w.shape id).isContainer with
  | true =>
      rw [hc, if_pos rfl] at hextend
      exact run_adaptExcept_eq_ok.2 (run_bind_of_ok hextend)
  | false =>
      rw [hc] at hextend
      exact run_adaptExcept_eq_error.2 ⟨_, run_bind_of_error hextend, rfl⟩

theorem run_call_extend_eq_ok {operation : Text} {id j : NodeId} {children : List NodeId} :
    (call (.extend operation id children)).run w = .ok j w' ↔
      (w.shape id).isContainer = true ∧ j = addedTo operation id children ∧
        w' = w.attach id children := by
  rw [run_call_extend]
  cases (w.shape id).isContainer <;> simp [eq_comm (a := j), eq_comm (a := w')]

/-- A call that fails has written nothing. -/
theorem unchanged_of_error {c : Call} {e : Refusal} (h : (call c).run w = .error e w') :
    w' = w := by
  cases c with
  | addInterface name bases =>
      obtain ⟨f, hf, -⟩ := run_adaptExcept_eq_error.1 h
      rw [run_addInterface, outcome_eq_error] at hf
      exact hf.2
  | addMain name base withConnect =>
      obtain ⟨f, hf, -⟩ := run_adaptExcept_eq_error.1 h
      rw [run_addMain, outcome_eq_error] at hf
      exact hf.2
  | addBuiltins =>
      obtain ⟨f, hf, -⟩ := run_adaptExcept_eq_error.1 h
      rw [run_addBuiltins, outcome_eq_error] at hf
      exact hf.2
  | make s => cases h
  | extend operation id children =>
      rw [run_call_extend] at h
      split at h
      · cases h
      · exact (EStateM.Result.error.inj h).2.symm

end DeviceTypings.Workbench
