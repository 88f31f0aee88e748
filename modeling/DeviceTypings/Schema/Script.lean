import DeviceTypings.Document.Step

namespace DeviceTypings.Schema

/-!
# Scripts

Compiling a schema writes a script: steps that build the document, with notes
in between, and at the end a result or the first fault of the schema. Running
the script finds the faults of its steps, so that of two faults the earlier one
wins.
-/

/-- What is worth a remark but changes nothing. -/
inductive Note
  | unknownKey (key : Text)
  /-- A key of a keyed array that an earlier member has taken. -/
  | repeatedKey (key : Text) (path : List Text)
deriving DecidableEq

inductive Entry
  | step (s : Step)
  | note (n : Note)

namespace Entry

def step? : Entry → Option Step
  | step s => some s
  | note _ => none

end Entry

structure Script (α : Type) where
  entries : List Entry := []
  result : Except Fault α

namespace Script

variable {α β : Type}

def ok (a : α) : Script α := { result := .ok a }

def fail (e : Fault) : Script α := { result := .error e }

def ofExcept (r : Except Fault α) : Script α := { result := r }

/-- Writes one entry. -/
def write (e : Entry) : Script Unit := { entries := [e], result := .ok () }

def step (s : Step) : Script Unit := write (.step s)

def note (n : Note) : Script Unit := write (.note n)

/-- Nothing is written after a fault. -/
def bind (s : Script α) (f : α → Script β) : Script β :=
  match s.result with
  | .ok a => ⟨s.entries ++ (f a).entries, (f a).result⟩
  | .error e => ⟨s.entries, .error e⟩

instance : Monad Script where
  pure := ok
  bind := bind

def steps (s : Script α) : List Step := s.entries.filterMap Entry.step?

@[simp] theorem entries_pure (a : α) : (pure a : Script α).entries = [] := rfl

@[simp] theorem result_pure (a : α) : (pure a : Script α).result = .ok a := rfl

theorem bind_ok {s : Script α} {a : α} (h : s.result = .ok a) (f : α → Script β) :
    (s >>= f) = ⟨s.entries ++ (f a).entries, (f a).result⟩ := by
  show bind s f = _
  simp [bind, h]

theorem bind_error {s : Script α} {e : Fault} (h : s.result = .error e) (f : α → Script β) :
    (s >>= f) = ⟨s.entries, .error e⟩ := by
  show bind s f = _
  simp [bind, h]

theorem result_bind (s : Script α) (f : α → Script β) :
    (s >>= f).result = s.result.bind fun a => (f a).result := by
  cases h : s.result with
  | ok a => simp [bind_ok h, Except.bind]
  | error e => simp [bind_error h, Except.bind]

theorem id_bind (x : Script α) : bind x ok = x := by
  cases x with
  | mk es r => cases r <;> simp [bind, ok]

theorem ok_bind (x : α) (f : α → Script β) : bind (ok x) f = f x := by
  simp [bind, ok]

theorem bind_bind {γ : Type} (x : Script α) (f : α → Script β) (g : β → Script γ) :
    bind (bind x f) g = bind x fun a => bind (f a) g := by
  cases x with
  | mk es r =>
      cases r with
      | error e => simp [bind]
      | ok a =>
          simp only [bind]
          cases (f a).result <;> simp [List.append_assoc]

instance : LawfulMonad Script := LawfulMonad.mk' Script id_bind ok_bind bind_bind

/-- Runs the entries on a document until a step fails, and gives the entries
that took effect. -/
def runEntries : Document → List Entry → List Entry × Except Fault Document
  | d, [] => ([], .ok d)
  | d, .note n :: es =>
      let (done, r) := runEntries d es
      (.note n :: done, r)
  | d, .step s :: es =>
      match d.step s with
      | .error e => ([], .error e)
      | .ok d =>
          let (done, r) := runEntries d es
          (.step s :: done, r)

/-- Runs a script. The fault of the schema shows only if every step works. -/
def run (s : Script α) (d : Document) : List Entry × Except Fault Document :=
  let (done, r) := runEntries d s.entries
  (done, r.bind fun d => s.result.map fun _ => d)

theorem runEntries_snd (d : Document) (es : List Entry) :
    (runEntries d es).2 = d.steps (es.filterMap Entry.step?) := by
  induction es generalizing d with
  | nil => rfl
  | cons e es ih =>
      cases e with
      | note n =>
          rw [runEntries, List.filterMap_cons]
          exact ih d
      | step s =>
          rw [runEntries]
          simp only [List.filterMap_cons, Entry.step?, Document.steps]
          cases d.step s with
          | error e => rfl
          | ok d => exact ih d

/-- The document of a script is that of its steps, provided that the schema has
no fault. -/
theorem run_snd (s : Script α) (d : Document) :
    (s.run d).2 = (d.steps s.steps).bind fun d => s.result.map fun _ => d := by
  simp only [run, runEntries_snd, steps]

end Script

end DeviceTypings.Schema
