import DeviceTypings.Fault

namespace DeviceTypings

/-!
# Declared names

The names in use at the top level of a document, and when a further
declaration may join them. The main class counts as declared because an
interface of its name is written beside it.
-/

/-- The interfaces that other interfaces may extend to read, write and follow a
value. -/
def builtinNames : List Text := ["Gettable", "Settable", "Listenable"]

structure Scope where
  registered : List Text := []
  mainName : Option Text := none

namespace Scope

def declares (s : Scope) (name : Text) : Bool :=
  s.registered.contains name || s.mainName == some name

/-- The bases that are not registered, in their order and with repetitions. -/
def missing (s : Scope) (bases : List Text) : List Text :=
  bases.filter fun b => !s.registered.contains b

def checkInterface (s : Scope) (name : Text) (bases : List Text) : Except Fault Unit :=
  if s.declares name then .error (.duplicate name)
  else match s.missing bases with
    | [] => .ok ()
    | missing => .error (.missingBases name missing)

def checkMain (s : Scope) (name : Text) : Except Fault Unit :=
  if s.mainName.isSome then .error (.secondMain name)
  else if s.declares name then .error (.duplicate name)
  else .ok ()

/-- All three builtin names have to be free. -/
def checkBuiltins (s : Scope) : Except Fault Unit :=
  match builtinNames.find? s.declares with
  | some name => .error (.duplicate name)
  | none => .ok ()

theorem declares_iff {s : Scope} {name : Text} :
    s.declares name = true ↔ name ∈ s.registered ∨ s.mainName = some name := by
  simp [declares]

theorem mem_missing {s : Scope} {bases : List Text} {b : Text} :
    b ∈ s.missing bases ↔ b ∈ bases ∧ b ∉ s.registered := by
  simp [missing]

theorem checkInterface_eq_ok {s : Scope} {name : Text} {bases : List Text} :
    s.checkInterface name bases = .ok () ↔
      s.declares name = false ∧ ∀ b ∈ bases, b ∈ s.registered := by
  unfold checkInterface
  cases h : s.declares name
  · cases hm : s.missing bases with
    | nil => simpa [missing, List.filter_eq_nil_iff] using hm
    | cons m ms =>
        have hb := mem_missing.1 (hm ▸ List.mem_cons_self : m ∈ s.missing bases)
        simpa using ⟨m, hb.1, hb.2⟩
  · simp

theorem checkMain_eq_ok {s : Scope} {name : Text} :
    s.checkMain name = .ok () ↔ s.mainName = none ∧ name ∉ s.registered := by
  unfold checkMain
  cases h : s.mainName <;> simp [declares, h]

theorem checkBuiltins_eq_ok {s : Scope} :
    s.checkBuiltins = .ok () ↔ ∀ name ∈ builtinNames, s.declares name = false := by
  unfold checkBuiltins
  cases h : builtinNames.find? s.declares with
  | none => simpa using h
  | some name =>
      have hn := List.find?_some h
      have hm := List.mem_of_find?_eq_some h
      simp only [reduceCtorEq, false_iff]
      intro hall
      simp [hall name hm] at hn

end Scope

end DeviceTypings
