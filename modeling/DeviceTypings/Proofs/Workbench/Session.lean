import DeviceTypings.Proofs.Workbench.Refusal

namespace DeviceTypings

namespace Workbench

/-!
# Sessions

A session is at work on a document and knows the nodes by handles: what the
calls on the document answered with, the interfaces by their names, and what it
made itself by labels. Its orders speak of handles only, so they mean the same
wherever in the store the nodes come to be.
-/

/-! ## Parts of shapes -/

namespace Shape

variable {κ ι γ : Type}

def parts : Shape κ → List κ
  | list element => [element]
  | member _ type _ _ => [type]
  | command _ args _ _ _ => args.toList
  | tree _ _ cs => cs
  | interface _ _ cs => cs
  | main _ _ _ _ cs => cs
  | document _ cs => cs
  | _ => []

/-- Puts children after those that are there. -/
def extended (s : Shape κ) (cs : List κ) : Shape κ := s.withChildren (s.children ++ cs)

theorem mapParts_congr {s : Shape κ} {f g : κ → ι} (h : ∀ p ∈ s.parts, f p = g p) :
    s.mapParts f = s.mapParts g := by
  cases s with
  | command name args returnType docstring multiline =>
      cases args with
      | none => rfl
      | some a => simpa [mapParts, parts] using h
  | list | member | tree | interface | main | document => simpa [mapParts, parts] using h
  | _ => rfl

theorem mapParts_mapParts (s : Shape κ) (f : κ → ι) (g : ι → γ) :
    (s.mapParts f).mapParts g = s.mapParts (g ∘ f) := by
  cases s <;> simp [mapParts]

theorem extended_nil (s : Shape κ) : s.extended [] = s := by
  cases s <;> simp [extended, withChildren, children]

theorem extended_extended (s : Shape κ) (cs ds : List κ) :
    (s.extended cs).extended ds = s.extended (cs ++ ds) := by
  cases s <;> simp [extended, withChildren, children]

theorem mapParts_extended (s : Shape κ) (cs : List κ) (f : κ → ι) :
    (s.extended cs).mapParts f = (s.mapParts f).extended (cs.map f) := by
  cases s <;> simp [extended, withChildren, children, mapParts]

theorem mem_parts_extended {s : Shape κ} {cs : List κ} {p : κ}
    (h : p ∈ (s.extended cs).parts) : p ∈ s.parts ∨ p ∈ cs := by
  cases s with
  | tree | interface | main | document =>
      simpa [extended, withChildren, children, parts] using h
  | _ => exact .inl h

theorem isMain_extended (s : Shape κ) (cs : List κ) : (s.extended cs).isMain = s.isMain := by
  cases s <;> rfl

theorem isMain_mapParts (s : Shape κ) (f : κ → ι) : (s.mapParts f).isMain = s.isMain := by
  cases s <;> rfl

end Shape

/-! ## Handles -/

inductive Handle
  | main
  | builtins
  | interface (name : Text)
  | made (label : Nat)
deriving DecidableEq

inductive Order
  | addInterface (name : Text) (bases : List Text)
  | addMain (name base : Text) (withConnect : Bool)
  | addBuiltins
  | make (label : Nat) (s : Shape Handle)
  | extend (operation : Text) (container : Handle) (children : List Handle)

structure Session where
  bench : Workbench
  builtins : Option NodeId := none
  made : List (Nat × NodeId) := []

namespace Session

def start (library : Text) : Session := { bench := empty library }

def resolve (s : Session) : Handle → Option NodeId
  | .main => s.bench.main
  | .builtins => s.builtins
  | .interface name => s.bench.interface? name
  | .made label => s.made.lookup label

def knows (s : Session) (h : Handle) : Bool := (s.resolve h).isSome

/-- The node of a handle that is known. -/
def place (s : Session) (h : Handle) : NodeId := (s.resolve h).getD rootId

/-- The call that an order comes to. A label is given once. -/
def call? (s : Session) : Order → Option Call
  | .addInterface name bases => some (.addInterface name bases)
  | .addMain name base withConnect => some (.addMain name base withConnect)
  | .addBuiltins => some .addBuiltins
  | .make label shape =>
      if !s.knows (.made label) && shape.parts.all s.knows then
        some (.make (shape.mapParts s.place))
      else none
  | .extend operation container children =>
      if s.knows container && children.all s.knows then
        some (.extend operation (s.place container) (children.map s.place))
      else none

/-- Takes note of the workbench after an order and of the node that was answered with. -/
def after (s : Session) (w : Workbench) (id : NodeId) : Order → Session
  | .addBuiltins => { s with bench := w, builtins := some id }
  | .make label _ => { s with bench := w, made := s.made ++ [(label, id)] }
  | _ => { s with bench := w }

/-- The session after an order, if the order can be followed. -/
def follow (s : Session) (o : Order) : Option Session :=
  (s.call? o).bind fun c =>
    match (call c).run s.bench with
    | .ok id w => some (s.after w id o)
    | .error _ _ => none

/-- The session after orders that can all be followed. -/
def run (s : Session) : List Order → Option Session
  | [] => some s
  | o :: os => (s.follow o).bind (·.run os)

theorem follow_eq_some {s s' : Session} {o : Order} : s.follow o = some s' ↔
    ∃ c w id, s.call? o = some c ∧ (call c).run s.bench = .ok id w ∧ s.after w id o = s' := by
  constructor
  · intro h
    obtain ⟨c, hc, hr⟩ := Option.bind_eq_some_iff.1 h
    cases hw : (call c).run s.bench with
    | error e w => simp [hw] at hr
    | ok id w => exact ⟨c, w, id, hc, hw, by simpa [hw] using hr⟩
  · rintro ⟨c, w, id, hc, hw, rfl⟩
    simp [follow, hc, hw]

theorem run_concat (s : Session) (os : List Order) (o : Order) :
    s.run (os ++ [o]) = (s.run os).bind (·.follow o) := by
  induction os generalizing s with
  | nil => simp [run]
  | cons p os ih =>
      rw [List.cons_append, run, run, Option.bind_assoc]
      exact congrArg _ (funext ih)

end Session

/-- The text of the document. -/
def text (w : Workbench) : Except SketchFault Text := (w.sketch rootId).print

end Workbench

end DeviceTypings
