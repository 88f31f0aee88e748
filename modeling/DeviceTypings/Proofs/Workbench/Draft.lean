import DeviceTypings.Proofs.Workbench.Session
import Mathlib.Data.List.Induction

namespace DeviceTypings.Workbench

/-!
# Drafts

What the orders of a session say of the document, without a store: the nodes
that there are by their handles, what was added to each of them, what stands at
the top level and what is imported. After a run of orders the workbench has just
what the draft of the orders has, each node in a place of its own.
-/

namespace Order

/-- The nodes that an order brings. -/
def opened : Order → List (Handle × Shape Handle)
  | addInterface name bases => [(.interface name, .interface name bases [])]
  | addMain name base withConnect => [(.main, .main name base withConnect true [])]
  | addBuiltins =>
      builtinNames.map (fun name => (.interface name, .interface name [] [])) ++
        [(.builtins, .builtins)]
  | make label s => [(.made label, s)]
  | extend .. => []

def added (x : Handle) : Order → List Handle
  | extend _ container children => if container = x then children else []
  | _ => []

def first : Order → List Handle
  | addBuiltins => [.builtins]
  | _ => []

def last : Order → List Handle
  | addInterface name _ => [.interface name]
  | addMain .. => [.main]
  | _ => []

def imported : Order → List (List Text)
  | addMain _ base withConnect => [base :: if withConnect then [connectGenerator] else []]
  | _ => []

end Order

structure Draft where
  /-- The nodes without what was added to them. -/
  opened : List (Handle × Shape Handle) := []
  added : Handle → List Handle := fun _ => []
  /-- What was put right after the import, each before the ones that were there. -/
  first : List Handle := []
  last : List Handle := []
  imported : List (List Text) := []

namespace Draft

def follow (d : Draft) (o : Order) : Draft where
  opened := d.opened ++ o.opened
  added x := d.added x ++ o.added x
  first := d.first ++ o.first
  last := d.last ++ o.last
  imported := d.imported ++ o.imported

variable (d : Draft)

theorem follow_addInterface (name : Text) (bases : List Text) :
    d.follow (.addInterface name bases) =
      { d with
        opened := d.opened ++ [(.interface name, .interface name bases [])]
        last := d.last ++ [.interface name] } := by
  simp [follow, Order.opened, Order.added, Order.first, Order.last, Order.imported]

theorem follow_addMain (name base : Text) (withConnect : Bool) :
    d.follow (.addMain name base withConnect) =
      { d with
        opened := d.opened ++ [(.main, .main name base withConnect true [])]
        last := d.last ++ [.main]
        imported :=
          d.imported ++ [base :: if withConnect then [connectGenerator] else []] } := by
  simp [follow, Order.opened, Order.added, Order.first, Order.last, Order.imported]

theorem follow_addBuiltins :
    d.follow .addBuiltins =
      { d with
        opened := d.opened ++
          builtinNames.map (fun name => (.interface name, .interface name [] [])) ++
            [(.builtins, .builtins)]
        first := d.first ++ [.builtins] } := by
  simp [follow, Order.opened, Order.added, Order.first, Order.last, Order.imported]

theorem follow_make (label : Nat) (shape : Shape Handle) :
    d.follow (.make label shape) = { d with opened := d.opened ++ [(.made label, shape)] } := by
  simp [follow, Order.opened, Order.added, Order.first, Order.last, Order.imported]

theorem follow_extend (operation : Text) (container : Handle) (children : List Handle) :
    d.follow (.extend operation container children) =
      { d with added := fun x => d.added x ++ if container = x then children else [] } := by
  simp [follow, Order.opened, Order.added, Order.first, Order.last, Order.imported]

def of (os : List Order) : Draft where
  opened := os.flatMap Order.opened
  added x := os.flatMap (Order.added x)
  first := os.flatMap Order.first
  last := os.flatMap Order.last
  imported := os.flatMap Order.imported

theorem of_concat (os : List Order) (o : Order) : of (os ++ [o]) = (of os).follow o := by
  simp [of, follow]

def handles : List Handle := d.opened.map Prod.fst

/-- What stands at the top level after the import. -/
def tops : List Handle := d.first.reverse ++ d.last

def importStatement (library : Text) : ImportStatement where
  source := library
  names := d.imported.getLastD [defaultBaseName, connectGenerator]

end Draft

theorem lookup_concat {α : Type} [BEq α] [LawfulBEq α] [DecidableEq α] {xs : List (α × NodeId)}
    {a : α} (h : xs.lookup a = none) (id : NodeId) (b : α) :
    (xs ++ [(a, id)]).lookup b = if b = a then some id else xs.lookup b := by
  rw [List.lookup_append]
  by_cases hb : b = a
  · simp [hb, h]
  · have hne : (b == a) = false := beq_false_of_ne hb
    simp [hb, hne, List.lookup_cons]

namespace Session

/-! ## New nodes -/

/-- Takes note of a node under a new handle. -/
def bind (s : Session) (x : Handle) (id : NodeId) : Session :=
  match x with
  | .main => { s with bench := { s.bench with main := some id } }
  | .builtins => { s with builtins := some id }
  | .interface name => { s with bench := s.bench.register name id }
  | .made label => { s with made := s.made ++ [(label, id)] }

def create (s : Session) (x : Handle) (shape : Shape Handle) : Session :=
  { s with bench := (s.bench.add (shape.mapParts s.place)).1 }.bind x s.bench.shapes.size

variable {s s' : Session} {x y : Handle} {shape : Shape Handle}

theorem resolve_bind (hx : s.resolve x = none) (id : NodeId) (y : Handle) :
    (s.bind x id).resolve y = if y = x then some id else s.resolve y := by
  cases x with
  | main => cases y <;> simp [bind, resolve, interface?]
  | builtins => cases y <;> simp [bind, resolve]
  | interface name =>
      cases y with
      | interface name' =>
          simpa [bind, resolve, register, interface?] using lookup_concat hx id name'
      | _ => simp [bind, resolve, register]
  | made label =>
      cases y with
      | made label' => simpa [bind, resolve] using lookup_concat hx id label'
      | _ => simp [bind, resolve]

theorem shapes_bind (s : Session) (x : Handle) (id : NodeId) :
    (s.bind x id).bench.shapes = s.bench.shapes := by
  cases x <;> rfl

theorem knows_eq_false : s.knows x = false ↔ s.resolve x = none := by
  simp [knows]

theorem resolve_create (hx : s.knows x = false) (shape : Shape Handle) (y : Handle) :
    (s.create x shape).resolve y = if y = x then some s.bench.shapes.size else s.resolve y := by
  rw [knows_eq_false] at hx
  have hsame (z : Handle) :
      { s with bench := (s.bench.add (shape.mapParts s.place)).1 }.resolve z = s.resolve z := by
    cases z <;> rfl
  rw [create, resolve_bind ((hsame x).trans hx), hsame]

theorem knows_create (hx : s.knows x = false) :
    (s.create x shape).knows y = true ↔ y = x ∨ s.knows y = true := by
  rw [knows, resolve_create hx]
  by_cases hy : y = x <;> simp [hy, knows]

theorem knows_create_of_knows (hx : s.knows x = false) (hy : s.knows y = true) :
    (s.create x shape).knows y = true :=
  (knows_create hx).2 (.inr hy)

theorem place_create_self (hx : s.knows x = false) :
    (s.create x shape).place x = s.bench.shapes.size := by
  rw [place, resolve_create hx, if_pos rfl, Option.getD_some]

theorem place_create (hx : s.knows x = false) (hy : s.knows y = true) :
    (s.create x shape).place y = s.place y := by
  have hne : y ≠ x := by
    rintro rfl
    simp [hx] at hy
  rw [place, resolve_create hx, if_neg hne, place]

theorem mapParts_create (hx : s.knows x = false) {t : Shape Handle}
    (ht : ∀ p ∈ t.parts, s.knows p = true) :
    t.mapParts (s.create x shape).place = t.mapParts s.place :=
  Shape.mapParts_congr fun p hp => place_create hx (ht p hp)

theorem shape_create (s : Session) (x : Handle) (shape : Shape Handle) (id : NodeId) :
    (s.create x shape).bench.shape id =
      if id = s.bench.shapes.size then shape.mapParts s.place else s.bench.shape id := by
  rw [Workbench.shape, create, shapes_bind, ← shape_add, Workbench.shape]

theorem size_create (s : Session) (x : Handle) (shape : Shape Handle) :
    (s.create x shape).bench.shapes.size = s.bench.shapes.size + 1 := by
  rw [create, shapes_bind, size_add]

/-! ## What a session has of a draft -/

/-- The nodes of a draft are on the workbench, each in a place of its own. -/
structure Nodes (s : Session) (d : Draft) : Prop where
  size : s.bench.shapes.size = d.opened.length + 2
  knows_iff : ∀ x, s.knows x = true ↔ x ∈ d.handles
  new : ∀ x, s.knows x = true → importId < s.place x
  old : ∀ x, s.knows x = true → s.place x < s.bench.shapes.size
  injective : ∀ x y, s.knows x = true → s.knows y = true → s.place x = s.place y → x = y
  shape_eq : ∀ x shape, (x, shape) ∈ d.opened →
    s.bench.shape (s.place x) = (shape.extended (d.added x)).mapParts s.place
  parts_known : ∀ x shape, (x, shape) ∈ d.opened →
    ∀ p ∈ (shape.extended (d.added x)).parts, s.knows p = true
  added_eq_nil : ∀ x, s.knows x = false → d.added x = []
  builtins : s.knows .builtins = true → ∀ name ∈ builtinNames, s.knows (.interface name) = true

/-- The top level of a draft is on the workbench. -/
structure Top (s : Session) (library : Text) (d : Draft) : Prop where
  root : s.bench.shape rootId = .document library (importId :: d.tops.map s.place)
  imports : s.bench.shape importId = .imports (d.importStatement library)
  known : ∀ x ∈ d.tops, s.knows x = true

structure Realizes (s : Session) (library : Text) (d : Draft) : Prop where
  nodes : s.Nodes d
  top : s.Top library d

variable {library : Text} {d : Draft}

theorem realizes_start (library : Text) : (start library).Realizes library {} := by
  have hnone (x : Handle) : (start library).knows x = false := by cases x <;> rfl
  have hunknown (x : Handle) : ¬ (start library).knows x = true := by simp [hnone]
  constructor
  · constructor
    · rfl
    · intro x
      simp [hnone, Draft.handles]
    · exact fun x hx => absurd hx (hunknown x)
    · exact fun x hx => absurd hx (hunknown x)
    · exact fun x y hx => absurd hx (hunknown x)
    · simp
    · simp
    · exact fun _ _ => rfl
    · exact fun hx => absurd hx (hunknown _)
  · exact ⟨rfl, rfl, by simp [Draft.tops]⟩

theorem Nodes.knows_of_mem (h : s.Nodes d) (hx : (x, shape) ∈ d.opened) : s.knows x = true :=
  (h.knows_iff x).2 (List.mem_map_of_mem hx)

theorem Nodes.import_lt (h : s.Nodes d) : importId < s.bench.shapes.size := by
  rw [h.size]
  exact Nat.lt_of_lt_of_le Nat.one_lt_two (Nat.le_add_left 2 _)

theorem Nodes.root_lt (h : s.Nodes d) : rootId < s.bench.shapes.size :=
  Nat.lt_trans Nat.zero_lt_one h.import_lt

theorem Nodes.extended_added (h : s.Nodes d) (hx : s.knows x = false) (shape : Shape Handle) :
    shape.extended (d.added x) = shape := by
  rw [h.added_eq_nil x hx, Shape.extended_nil]

/-- The nodes of a draft have nothing to do with its top level. -/
theorem Nodes.with_top (h : s.Nodes d) (first last : List Handle)
    (imported : List (List Text)) : s.Nodes { d with first, last, imported } :=
  ⟨h.size, h.knows_iff, h.new, h.old, h.injective, h.shape_eq, h.parts_known, h.added_eq_nil,
    h.builtins⟩

theorem Nodes.create (h : s.Nodes d) (hx : s.knows x = false)
    (hparts : ∀ p ∈ shape.parts, s.knows p = true)
    (hbuiltins : x = .builtins → ∀ name ∈ builtinNames, s.knows (.interface name) = true) :
    (s.create x shape).Nodes { d with opened := d.opened ++ [(x, shape)] } where
  size := by
    rw [size_create, h.size, List.length_append, List.length_singleton]
  knows_iff := by
    intro y
    rw [knows_create hx, h.knows_iff]
    simp [Draft.handles, or_comm]
  new := by
    intro y hy
    rcases (knows_create hx).1 hy with rfl | hy
    · rw [place_create_self hx]
      exact h.import_lt
    · rw [place_create hx hy]
      exact h.new y hy
  old := by
    intro y hy
    rw [size_create]
    rcases (knows_create hx).1 hy with rfl | hy
    · rw [place_create_self hx]
      exact Nat.lt_succ_self _
    · rw [place_create hx hy]
      exact Nat.lt_succ_of_lt (h.old y hy)
  injective := by
    intro y z hy hz heq
    -- All older nodes are at places before that of the new one.
    rcases (knows_create hx).1 hy with hyx | hy <;> rcases (knows_create hx).1 hz with hzx | hz
    · exact hyx.trans hzx.symm
    · rw [hyx, place_create_self hx, place_create hx hz] at heq
      exact absurd heq.symm (Nat.ne_of_lt (h.old z hz))
    · rw [hzx, place_create_self hx, place_create hx hy] at heq
      exact absurd heq (Nat.ne_of_lt (h.old y hy))
    · rw [place_create hx hy, place_create hx hz] at heq
      exact h.injective y z hy hz heq
  shape_eq := by
    intro y t hy
    rcases List.mem_append.1 hy with hy | hy
    · have hk := h.knows_of_mem hy
      rw [place_create hx hk, shape_create, if_neg (Nat.ne_of_lt (h.old y hk)),
        h.shape_eq y t hy, mapParts_create hx (h.parts_known y t hy)]
    · obtain ⟨rfl, rfl⟩ := Prod.mk.inj (List.mem_singleton.1 hy)
      rw [place_create_self hx, shape_create, if_pos rfl, h.extended_added hx,
        mapParts_create hx hparts]
  parts_known := by
    intro y t hy p hp
    rcases List.mem_append.1 hy with hy | hy
    · exact knows_create_of_knows hx (h.parts_known y t hy p hp)
    · obtain ⟨rfl, rfl⟩ := Prod.mk.inj (List.mem_singleton.1 hy)
      rw [h.extended_added hx] at hp
      exact knows_create_of_knows hx (hparts p hp)
  added_eq_nil := by
    intro y hy
    apply h.added_eq_nil y
    rw [← Bool.not_eq_true] at hy ⊢
    exact fun hk => hy (knows_create_of_knows hx hk)
  builtins := by
    intro hb name hname
    apply knows_create_of_knows hx
    rcases (knows_create hx).1 hb with hb | hb
    · exact hbuiltins hb.symm name hname
    · exact h.builtins hb name hname

theorem Realizes.create (h : s.Realizes library d) (hx : s.knows x = false) (shape : Shape Handle)
    (hparts : ∀ p ∈ shape.parts, s.knows p = true)
    (hbuiltins : x = .builtins → ∀ name ∈ builtinNames, s.knows (.interface name) = true) :
    (s.create x shape).Realizes library { d with opened := d.opened ++ [(x, shape)] } := by
  refine ⟨h.nodes.create hx hparts hbuiltins, ?_⟩
  have htops : d.tops.map (s.create x shape).place = d.tops.map s.place :=
    List.map_congr_left fun y hy => place_create hx (h.top.known y hy)
  constructor
  · rw [shape_create, if_neg (Nat.ne_of_lt h.nodes.root_lt), h.top.root, ← htops]
    rfl
  · rw [shape_create, if_neg (Nat.ne_of_lt h.nodes.import_lt), h.top.imports]
    rfl
  · exact fun y hy => knows_create_of_knows hx (h.top.known y hy)

/-! ## Changes to nodes -/

theorem rootId_ne_importId : rootId ≠ importId := Nat.zero_ne_one

theorem resolve_put (s : Session) (id : NodeId) (t : Shape NodeId) :
    { s with bench := s.bench.put id t }.resolve = s.resolve := by
  funext x
  cases x <;> rfl

theorem place_put (s : Session) (id : NodeId) (t : Shape NodeId) :
    { s with bench := s.bench.put id t }.place = s.place := by
  funext x
  rw [place, resolve_put, place]

theorem knows_put (s : Session) (id : NodeId) (t : Shape NodeId) :
    { s with bench := s.bench.put id t }.knows = s.knows := by
  funext x
  rw [knows, resolve_put, knows]

/-- The document and its import are no nodes of a draft. -/
theorem Nodes.put (h : s.Nodes d) {id : NodeId} (hid : id ≤ importId) (t : Shape NodeId) :
    { s with bench := s.bench.put id t }.Nodes d := by
  constructor <;> simp only [place_put, knows_put, size_put]
  · exact h.size
  · exact h.knows_iff
  · exact h.new
  · exact h.old
  · exact h.injective
  · intro x shape hx
    have hnew := h.new x (h.knows_of_mem hx)
    rw [shape_put_of_ne (Nat.ne_of_lt (Nat.lt_of_le_of_lt hid hnew))]
    exact h.shape_eq x shape hx
  · exact h.parts_known
  · exact h.added_eq_nil
  · exact h.builtins

theorem Realizes.put_root (h : s.Realizes library d) {first last : List Handle}
    (hknown : ∀ x ∈ first.reverse ++ last, s.knows x = true) :
    { s with bench := s.bench.put rootId ((s.bench.shape rootId).withChildren
        (importId :: (first.reverse ++ last).map s.place)) }.Realizes library
      { d with first, last } := by
  refine ⟨(h.nodes.with_top first last d.imported).put (Nat.zero_le _) _, ?_⟩
  constructor <;> simp only [place_put, knows_put]
  · rw [shape_put_self h.nodes.root_lt, h.top.root]
    rfl
  · rw [shape_put_of_ne rootId_ne_importId]
    exact h.top.imports
  · exact hknown

theorem Realizes.declare (h : s.Realizes library d) (hx : s.knows x = true) :
    { s with bench := s.bench.attach rootId [s.place x] }.Realizes library
      { d with last := d.last ++ [x] } := by
  have hids : (s.bench.shape rootId).children ++ [s.place x] =
      importId :: (d.first.reverse ++ (d.last ++ [x])).map s.place := by
    rw [h.top.root]
    simp [Shape.children, Draft.tops]
  rw [attach, hids]
  apply h.put_root
  intro y hy
  rw [← List.append_assoc, List.mem_append, List.mem_singleton] at hy
  rcases hy with hy | rfl
  · exact h.top.known y hy
  · exact hx

theorem Realizes.declareFirst (h : s.Realizes library d) (hx : s.knows x = true) :
    { s with bench := s.bench.attachFirst (s.place x) }.Realizes library
      { d with first := d.first ++ [x] } := by
  have hids : (s.bench.shape rootId).children.take 1 ++
      s.place x :: (s.bench.shape rootId).children.drop 1 =
        importId :: ((d.first ++ [x]).reverse ++ d.last).map s.place := by
    rw [h.top.root]
    simp [Shape.children, Draft.tops]
  rw [attachFirst, hids]
  apply h.put_root
  intro y hy
  rw [List.reverse_append, List.reverse_singleton, List.append_assoc, List.singleton_append,
    List.mem_cons] at hy
  rcases hy with rfl | hy
  · exact hx
  · exact h.top.known y hy

theorem Realizes.imported (h : s.Realizes library d) (names : List Text) :
    { s with bench := s.bench.update importId (.imported names) }.Realizes library
      { d with imported := d.imported ++ [names] } := by
  have hnodes := h.nodes.with_top d.first d.last (d.imported ++ [names])
  refine ⟨hnodes.put (Nat.le_refl _) _, ?_⟩
  constructor <;> simp only [update, place_put, knows_put]
  · rw [shape_put_of_ne rootId_ne_importId.symm]
    exact h.top.root
  · rw [shape_put_self h.nodes.import_lt, h.top.imports]
    simp [Change.apply, Draft.importStatement]
  · exact h.top.known

theorem Nodes.attach (h : s.Nodes d) (hx : s.knows x = true) {ys : List Handle}
    (hys : ∀ y ∈ ys, s.knows y = true) :
    { s with bench := s.bench.attach (s.place x) (ys.map s.place) }.Nodes
      { d with added := fun z => d.added z ++ if x = z then ys else [] } := by
  constructor <;> simp only [Workbench.attach, place_put, knows_put, size_put]
  · exact h.size
  · exact h.knows_iff
  · exact h.new
  · exact h.old
  · exact h.injective
  · intro z t hz
    by_cases hxz : x = z
    · subst hxz
      rw [shape_put_self (h.old x hx), if_pos rfl, ← Shape.extended, h.shape_eq x t hz,
        ← Shape.mapParts_extended, Shape.extended_extended]
    · -- Different handles have different places, so no other node changes.
      have hne : s.place x ≠ s.place z := fun heq =>
        hxz (h.injective x z hx (h.knows_of_mem hz) heq)
      rw [shape_put_of_ne hne, if_neg hxz, List.append_nil]
      exact h.shape_eq z t hz
  · intro z t hz p hp
    rw [← Shape.extended_extended] at hp
    rcases Shape.mem_parts_extended hp with hp | hp
    · exact h.parts_known z t hz p hp
    · by_cases hxz : x = z
      · rw [if_pos hxz] at hp
        exact hys p hp
      · rw [if_neg hxz] at hp
        cases hp
  · intro z hz
    have hxz : x ≠ z := by
      rintro rfl
      simp [hz] at hx
    rw [if_neg hxz, List.append_nil]
    exact h.added_eq_nil z hz
  · exact h.builtins

theorem Realizes.attach (h : s.Realizes library d) (hx : s.knows x = true) {ys : List Handle}
    (hys : ∀ y ∈ ys, s.knows y = true) :
    { s with bench := s.bench.attach (s.place x) (ys.map s.place) }.Realizes library
      { d with added := fun z => d.added z ++ if x = z then ys else [] } := by
  have himport : importId < s.place x := h.nodes.new x hx
  have hroot : rootId < s.place x := Nat.lt_trans Nat.zero_lt_one himport
  refine ⟨h.nodes.attach hx hys, ?_⟩
  constructor <;> simp only [Workbench.attach, place_put, knows_put]
  · rw [shape_put_of_ne (Nat.ne_of_gt hroot)]
    exact h.top.root
  · rw [shape_put_of_ne (Nat.ne_of_gt himport)]
    exact h.top.imports
  · exact h.top.known

/-! ## Orders -/

theorem knows_interface {name : Text} (h : s.bench.scope.declares name = false) :
    s.knows (.interface name) = false := by
  rw [declares_scope_eq_false, Declares, not_or] at h
  exact knows_eq_false.2 (interface?_eq_none.2 h.1)

theorem Realizes.addInterface (h : s.Realizes library d) {name : Text} {bases : List Text}
    (hs : s.follow (.addInterface name bases) = some s') :
    s'.Realizes library (d.follow (.addInterface name bases)) := by
  obtain ⟨c, w, id, hc, hw, rfl⟩ := follow_eq_some.1 hs
  obtain rfl := Option.some.inj hc
  rw [call, run_adaptExcept_eq_ok, run_addInterface, outcome_eq_ok] at hw
  obtain ⟨hcheck, rfl, rfl⟩ := hw
  have hname := knows_interface (Scope.checkInterface_eq_ok.1 hcheck).1
  have hone := h.create hname (.interface name bases []) (by simp [Shape.parts]) (by simp)
  have htwo := hone.declare ((knows_create hname).2 (.inl rfl))
  rw [place_create_self hname] at htwo
  rw [Draft.follow_addInterface]
  exact htwo

theorem Realizes.addMain (h : s.Realizes library d) {name base : Text} {withConnect : Bool}
    (hs : s.follow (.addMain name base withConnect) = some s') :
    s'.Realizes library (d.follow (.addMain name base withConnect)) := by
  obtain ⟨c, w, id, hc, hw, rfl⟩ := follow_eq_some.1 hs
  obtain rfl := Option.some.inj hc
  rw [call, run_adaptExcept_eq_ok, run_addMain, outcome_eq_ok] at hw
  obtain ⟨hcheck, rfl, rfl⟩ := hw
  have hmain : s.knows .main = false :=
    knows_eq_false.2 (Option.map_eq_none_iff.1 (Scope.checkMain_eq_ok.1 hcheck).1)
  have hone :=
    h.create hmain (.main name base withConnect true []) (by simp [Shape.parts]) (by simp)
  have htwo := hone.declare ((knows_create hmain).2 (.inl rfl))
  rw [place_create_self hmain] at htwo
  rw [Draft.follow_addMain]
  exact htwo.imported (base :: if withConnect then [connectGenerator] else [])

def enroll (s : Session) (name : Text) : Session :=
  s.create (.interface name) (.interface name [] [])

theorem foldl_enroll (s : Session) (names : List Text) :
    names.foldl enroll s = { s with bench := names.foldl (·.enrolled · []) s.bench } := by
  induction names generalizing s with
  | nil => rfl
  | cons name names ih => exact ih (s.enroll name)

theorem Realizes.enroll (h : s.Realizes library d) {names : List Text} (hnodup : names.Nodup)
    (hnew : ∀ name ∈ names, s.knows (.interface name) = false) :
    (names.foldl Session.enroll s).Realizes library
      { d with opened := d.opened ++
        names.map fun name => (.interface name, .interface name [] []) } := by
  induction names generalizing s d with
  | nil => simpa using h
  | cons name names ih =>
      obtain ⟨hname, hnames⟩ := List.nodup_cons.1 hnodup
      have hfresh := hnew name List.mem_cons_self
      have hone := h.create hfresh (.interface name [] []) (by simp [Shape.parts]) (by simp)
      have hrest : ∀ other ∈ names, (s.enroll name).knows (.interface other) = false := by
        intro other hother
        have hne : other ≠ name := by
          rintro rfl
          exact hname hother
        rw [← Bool.not_eq_true, Session.enroll, knows_create hfresh, not_or]
        exact ⟨by simpa using hne, by simp [hnew other (List.mem_cons_of_mem _ hother)]⟩
      have hall := ih hone hnames hrest
      rw [List.append_assoc] at hall
      exact hall

theorem Realizes.addBuiltins (h : s.Realizes library d)
    (hs : s.follow .addBuiltins = some s') : s'.Realizes library (d.follow .addBuiltins) := by
  obtain ⟨c, w, id, hc, hw, rfl⟩ := follow_eq_some.1 hs
  obtain rfl := Option.some.inj hc
  rw [call, run_adaptExcept_eq_ok, run_addBuiltins, outcome_eq_ok] at hw
  obtain ⟨hcheck, rfl, rfl⟩ := hw
  have hnames : ∀ name ∈ builtinNames, s.knows (.interface name) = false := fun name hname =>
    knows_interface (Scope.checkBuiltins_eq_ok.1 hcheck name hname)
  -- Builtins that are known would have their interfaces known.
  have hbuiltins : s.knows .builtins = false := by
    rw [← Bool.not_eq_true]
    intro hb
    have hname : ("Gettable" : Text) ∈ builtinNames := by decide
    simpa [hnames _ hname] using h.nodes.builtins hb _ hname
  have hone := h.enroll (by decide) hnames
  have hmem : ∀ name ∈ builtinNames,
      (builtinNames.foldl Session.enroll s).knows (.interface name) = true := by
    intro name hname
    rw [hone.nodes.knows_iff]
    simp [Draft.handles, hname]
  have hfresh : (builtinNames.foldl Session.enroll s).knows .builtins = false := by
    rw [foldl_enroll]
    exact hbuiltins
  have htwo := hone.create hfresh .builtins (by simp [Shape.parts]) fun _ => hmem
  have hthree := htwo.declareFirst ((knows_create hfresh).2 (.inl rfl))
  rw [place_create_self hfresh, foldl_enroll] at hthree
  rw [Draft.follow_addBuiltins]
  exact hthree

theorem Realizes.make (h : s.Realizes library d) {label : Nat} {shape : Shape Handle}
    (hs : s.follow (.make label shape) = some s') :
    s'.Realizes library (d.follow (.make label shape)) := by
  obtain ⟨c, w, id, hc, hw, rfl⟩ := follow_eq_some.1 hs
  obtain ⟨hguard, heq⟩ := Option.ite_none_right_eq_some.1 hc
  obtain rfl := Option.some.inj heq
  obtain ⟨rfl, rfl⟩ := EStateM.Result.ok.inj hw
  rw [Bool.and_eq_true, Bool.not_eq_true', List.all_eq_true] at hguard
  rw [Draft.follow_make]
  exact h.create hguard.1 shape hguard.2 (by simp)

theorem Realizes.extend (h : s.Realizes library d) {operation : Text} {x : Handle}
    {ys : List Handle} (hs : s.follow (.extend operation x ys) = some s') :
    s'.Realizes library (d.follow (.extend operation x ys)) := by
  obtain ⟨c, w, id, hc, hw, rfl⟩ := follow_eq_some.1 hs
  obtain ⟨hguard, heq⟩ := Option.ite_none_right_eq_some.1 hc
  obtain rfl := Option.some.inj heq
  rw [Bool.and_eq_true, List.all_eq_true] at hguard
  obtain ⟨-, -, rfl⟩ := run_call_extend_eq_ok.1 hw
  rw [Draft.follow_extend]
  exact h.attach hguard.1 hguard.2

theorem Realizes.follow (h : s.Realizes library d) {o : Order} (hs : s.follow o = some s') :
    s'.Realizes library (d.follow o) := by
  cases o with
  | addInterface name bases => exact h.addInterface hs
  | addMain name base withConnect => exact h.addMain hs
  | addBuiltins => exact h.addBuiltins hs
  | make label shape => exact h.make hs
  | extend operation container children => exact h.extend hs

theorem run_realizes {os : List Order} (hs : (start library).run os = some s) :
    s.Realizes library (.of os) := by
  induction os using List.reverseRecOn generalizing s with
  | nil =>
      obtain rfl := Option.some.inj hs
      exact realizes_start library
  | append_singleton os o ih =>
      rw [run_concat, Option.bind_eq_some_iff] at hs
      obtain ⟨before, hbefore, ho⟩ := hs
      rw [Draft.of_concat]
      exact (ih hbefore).follow ho

end Session

end DeviceTypings.Workbench
