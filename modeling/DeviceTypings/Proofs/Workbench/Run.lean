import DeviceTypings.Proofs.Workbench.Operation
import DeviceTypings.Proofs.Workbench.Overview

namespace DeviceTypings

namespace Workbench

/-!
# Runs of a workbench

Whatever is called on a workbench, and whether or not the calls work, its top
level has a sound overview.
-/

/-! ## Shapes after a change -/

@[simp] theorem Shape.withChildren_withChildren {κ : Type} (s : Shape κ) (cs ds : List κ) :
    (s.withChildren cs).withChildren ds = s.withChildren ds := by
  cases s <;> rfl

theorem Shape.name?_withChildren {κ : Type} (s : Shape κ) (cs : List κ) :
    (s.withChildren cs).name? = s.name? := by
  cases s <;> rfl

theorem shape_add (w : Workbench) (s : Shape NodeId) (id : NodeId) :
    (w.add s).1.shape id = if id = w.shapes.size then s else w.shape id := by
  simp only [add, shape, Array.getD_eq_getD_getElem?, Array.getElem?_push]
  split <;> rfl

@[simp] theorem size_add (w : Workbench) (s : Shape NodeId) :
    (w.add s).1.shapes.size = w.shapes.size + 1 :=
  Array.size_push s

theorem shape_put (w : Workbench) (id : NodeId) (s : Shape NodeId) (j : NodeId) :
    (w.put id s).shape j = if id = j ∧ id < w.shapes.size then s else w.shape j := by
  simp only [put, shape, Array.getD_eq_getD_getElem?, Array.getElem?_setIfInBounds]
  by_cases hj : id = j
  · subst hj
    by_cases hs : id < w.shapes.size <;> simp [hs]
  · simp [hj]

theorem shape_put_self {w : Workbench} {id : NodeId} (h : id < w.shapes.size)
    (t : Shape NodeId) : (w.put id t).shape id = t := by
  rw [shape_put, if_pos ⟨rfl, h⟩]

theorem shape_put_of_ne {w : Workbench} {id j : NodeId} (h : id ≠ j) (t : Shape NodeId) :
    (w.put id t).shape j = w.shape j := by
  rw [shape_put, if_neg fun hj => h hj.1]

@[simp] theorem size_put (w : Workbench) (id : NodeId) (s : Shape NodeId) :
    (w.put id s).shapes.size = w.shapes.size := by
  simp [put]

/-- The fields of a node, its children left out. -/
def fields (w : Workbench) (id : NodeId) : Shape NodeId := (w.shape id).withChildren []

theorem name_eq (w : Workbench) (id : NodeId) : w.name id = (w.fields id).name?.getD "" := by
  rw [name, fields, Shape.name?_withChildren]

theorem fields_attach (w : Workbench) (id : NodeId) (new : List NodeId) (j : NodeId) :
    (w.attach id new).fields j = w.fields j := by
  rw [fields, fields, attach, shape_put]
  split
  · rename_i h
    rw [Shape.withChildren_withChildren, h.1]
  · rfl

theorem shape_attach_of_ne (w : Workbench) {id j : NodeId} (new : List NodeId) (h : id ≠ j) :
    (w.attach id new).shape j = w.shape j := by
  rw [attach, shape_put, if_neg fun hj => h hj.1]

/-! ## What a workbench shows -/

/-- The node of an item was made after the document, and has its fields. -/
structure Holds (w : Workbench) (x : Item) : Prop where
  new : importId < x.id
  old : x.id < w.shapes.size
  fields_eq : w.fields x.id = x.fields

/-- The overview has the top level of the workbench. -/
structure Shows (w : Workbench) (v : Overview) : Prop where
  size : importId < w.shapes.size
  root : ∃ library, w.shape rootId = .document library (importId :: v.declared.map Item.id)
  imports : w.shape importId = .imports v.imports
  registered : w.registered = v.registry.map fun p => (p.1, p.2.id)
  main : w.main = v.main.map Item.id
  declared_held : ∀ x ∈ v.declared, w.Holds x
  registry_held : ∀ p ∈ v.registry, w.Holds p.2
  main_held : ∀ x ∈ v.main, w.Holds x

theorem shows_empty (library : Text) : (empty library).Shows (.start library) where
  size := Nat.one_lt_two
  root := ⟨library, rfl⟩
  imports := rfl
  registered := rfl
  main := rfl
  declared_held := by simp [Overview.start]
  registry_held := by simp [Overview.start]
  main_held := by simp [Overview.start]

variable {w w' : Workbench} {v : Overview} {x : Item}

theorem Holds.of_shapes (h : w.Holds x) (hw : w'.shapes = w.shapes) : w'.Holds x where
  new := h.new
  old := hw ▸ h.old
  fields_eq := by
    rw [fields, shape, hw]
    exact h.fields_eq

theorem Holds.add (h : w.Holds x) (s : Shape NodeId) : (w.add s).1.Holds x where
  new := h.new
  old := by
    rw [size_add]
    exact Nat.lt_succ_of_lt h.old
  fields_eq := by
    rw [fields, shape_add, if_neg (Nat.ne_of_lt h.old)]
    exact h.fields_eq

theorem Holds.attach (h : w.Holds x) (id : NodeId) (new : List NodeId) :
    (w.attach id new).Holds x where
  new := h.new
  old := by
    rw [Workbench.attach, size_put]
    exact h.old
  fields_eq := by
    rw [fields_attach]
    exact h.fields_eq

theorem Holds.put (h : w.Holds x) {id : NodeId} (hid : id ≤ importId) (s : Shape NodeId) :
    (w.put id s).Holds x where
  new := h.new
  old := by
    rw [size_put]
    exact h.old
  fields_eq := by
    -- Only the document and its import are before the items.
    have hne : id ≠ x.id := Nat.ne_of_lt (Nat.lt_of_le_of_lt hid h.new)
    rw [fields, shape_put, if_neg fun hj => hne hj.1]
    exact h.fields_eq

theorem holds_add (h : importId < w.shapes.size) (s : Shape NodeId) :
    (w.add s).1.Holds ⟨w.shapes.size, s.withChildren []⟩ where
  new := h
  old := by simp
  fields_eq := by rw [fields, shape_add, if_pos rfl]

/-- If nothing but children of other nodes and new nodes came up, a workbench shows
what it did before. -/
theorem Shows.of_holds (h : w.Shows v) (hsize : w.shapes.size ≤ w'.shapes.size)
    (hroot : w'.shape rootId = w.shape rootId) (himports : w'.shape importId = w.shape importId)
    (hregistered : w'.registered = w.registered) (hmain : w'.main = w.main)
    (hholds : ∀ x, w.Holds x → w'.Holds x) : w'.Shows v where
  size := Nat.lt_of_lt_of_le h.size hsize
  root := by
    rw [hroot]
    exact h.root
  imports := himports.trans h.imports
  registered := hregistered.trans h.registered
  main := hmain.trans h.main
  declared_held x hx := hholds x (h.declared_held x hx)
  registry_held p hp := hholds p.2 (h.registry_held p hp)
  main_held x hx := hholds x (h.main_held x hx)

theorem Shows.add (h : w.Shows v) (s : Shape NodeId) : (w.add s).1.Shows v := by
  have hroot : rootId ≠ w.shapes.size := Nat.ne_of_lt (Nat.lt_trans Nat.zero_lt_one h.size)
  apply h.of_holds
  · simp
  · rw [shape_add, if_neg hroot]
  · rw [shape_add, if_neg (Nat.ne_of_lt h.size)]
  · rfl
  · rfl
  · exact fun x hx => hx.add s

/-- Neither the document nor its import is a container. -/
theorem Shows.attach_container (h : w.Shows v) {id : NodeId} (hc : (w.shape id).isContainer = true)
    (children : List NodeId) : (w.attach id children).Shows v := by
  obtain ⟨library, hr⟩ := h.root
  have hroot : id ≠ rootId := by
    rintro rfl
    simp [hr, Shape.isContainer] at hc
  have himport : id ≠ importId := by
    rintro rfl
    simp [h.imports, Shape.isContainer] at hc
  apply h.of_holds
  · simp [Workbench.attach]
  · exact shape_attach_of_ne w children hroot
  · exact shape_attach_of_ne w children himport
  · rfl
  · rfl
  · exact fun x hx => hx.attach id children

theorem Shows.register (h : w.Shows v) (hx : w.Holds x) (name : Text) :
    (w.register name x.id).Shows { v with registry := v.registry ++ [(name, x)] } where
  size := h.size
  root := h.root
  imports := h.imports
  registered := by simp [Workbench.register, h.registered]
  main := h.main
  declared_held y hy := (h.declared_held y hy).of_shapes rfl
  registry_held p hp := by
    rcases List.mem_append.1 hp with hp | hp
    · exact (h.registry_held p hp).of_shapes rfl
    · obtain rfl := List.mem_singleton.1 hp
      exact hx.of_shapes rfl
  main_held y hy := (h.main_held y hy).of_shapes rfl

theorem Shows.setMain (h : w.Shows v) (hx : w.Holds x) :
    { w with main := some x.id }.Shows { v with main := some x } where
  size := h.size
  root := h.root
  imports := h.imports
  registered := h.registered
  main := rfl
  declared_held y hy := (h.declared_held y hy).of_shapes rfl
  registry_held p hp := (h.registry_held p hp).of_shapes rfl
  main_held y hy := by
    obtain rfl := Option.some.inj hy
    exact hx.of_shapes rfl

theorem Shows.imported (h : w.Shows v) (names : List Text) :
    (w.update importId (.imported names)).Shows
      { v with imports := { v.imports with names } } where
  size := by
    rw [update, size_put]
    exact h.size
  root := by
    rw [update, shape_put, if_neg (by simp [importId, rootId])]
    exact h.root
  imports := by
    rw [update, shape_put, if_pos ⟨rfl, h.size⟩, h.imports]
    rfl
  registered := h.registered
  main := h.main
  declared_held y hy := (h.declared_held y hy).put (Nat.le_refl _) _
  registry_held p hp := (h.registry_held p hp).put (Nat.le_refl _) _
  main_held y hy := (h.main_held y hy).put (Nat.le_refl _) _

/-- The document may get its children in any way that keeps the import first. -/
theorem Shows.put_root (h : w.Shows v) {xs : List Item} (hx : ∀ x ∈ xs, w.Holds x) :
    (w.put rootId ((w.shape rootId).withChildren (importId :: xs.map Item.id))).Shows
      { v with declared := xs } where
  size := by
    rw [size_put]
    exact h.size
  root := by
    obtain ⟨library, hr⟩ := h.root
    rw [shape_put, if_pos ⟨rfl, Nat.lt_trans Nat.zero_lt_one h.size⟩, hr]
    exact ⟨library, rfl⟩
  imports := by
    rw [shape_put, if_neg (by simp [importId, rootId])]
    exact h.imports
  registered := h.registered
  main := h.main
  declared_held y hy := (hx y hy).put (Nat.zero_le _) _
  registry_held p hp := (h.registry_held p hp).put (Nat.zero_le _) _
  main_held y hy := (h.main_held y hy).put (Nat.zero_le _) _

theorem Shows.children_root (h : w.Shows v) :
    (w.shape rootId).children = importId :: v.declared.map Item.id := by
  obtain ⟨library, hr⟩ := h.root
  rw [hr, Shape.children]

theorem Shows.attach (h : w.Shows v) (hx : w.Holds x) :
    (w.attach rootId [x.id]).Shows { v with declared := v.declared ++ [x] } := by
  have hids : (w.shape rootId).children ++ [x.id] =
      importId :: (v.declared ++ [x]).map Item.id := by
    rw [h.children_root, List.map_append]
    rfl
  rw [Workbench.attach, hids]
  refine h.put_root fun y hy => ?_
  rcases List.mem_append.1 hy with hy | hy
  · exact h.declared_held y hy
  · obtain rfl := List.mem_singleton.1 hy
    exact hx

theorem Shows.attachFirst (h : w.Shows v) (hx : w.Holds x) :
    (w.attachFirst x.id).Shows { v with declared := x :: v.declared } := by
  have hids : (w.shape rootId).children.take 1 ++ x.id :: (w.shape rootId).children.drop 1 =
      importId :: (x :: v.declared).map Item.id := by
    rw [h.children_root]
    rfl
  rw [Workbench.attachFirst, hids]
  exact h.put_root (List.forall_mem_cons.2 ⟨hx, h.declared_held⟩)

/-! ## Declarations -/

theorem Shows.scope_eq (h : w.Shows v) : w.scope = v.scope := by
  have hmain : w.main.map w.name = v.main.map Item.name := by
    rw [h.main, Option.map_map]
    cases hv : v.main with
    | none => rfl
    | some x => simp [name_eq, (h.main_held x hv).fields_eq, Item.name]
  rw [Workbench.scope, Overview.scope, hmain, registeredNames, h.registered, List.map_map]
  rfl

theorem Shows.addInterface (h : w.Shows v) {name : Text} {bases : List Text} {id : NodeId}
    (hw : (addInterface name bases).run w = .ok id w') :
    v.scope.checkInterface name bases = .ok () ∧ w'.Shows (v.addInterface id name bases) := by
  rw [run_addInterface, outcome_eq_ok, h.scope_eq] at hw
  obtain ⟨hcheck, rfl, rfl⟩ := hw
  have hx := holds_add h.size (.interface name bases [])
  exact ⟨hcheck, ((h.add _).register hx name).attach (hx.of_shapes rfl)⟩

theorem Shows.addMain (h : w.Shows v) {name base : Text} {withConnect : Bool} {id : NodeId}
    (hw : (addMain name base withConnect).run w = .ok id w') :
    v.scope.checkMain name = .ok () ∧ w'.Shows (v.addMain id name base withConnect) := by
  rw [run_addMain, outcome_eq_ok, h.scope_eq] at hw
  obtain ⟨hcheck, rfl, rfl⟩ := hw
  have hx := holds_add h.size (.main name base withConnect true [])
  exact ⟨hcheck, (((h.add _).setMain hx).attach (hx.of_shapes rfl)).imported _⟩

theorem Shows.foldl_enrolled (h : w.Shows v) (names : List Text) :
    (names.foldl (·.enrolled · []) w).Shows
      { v with registry := v.registry ++ Overview.entries w.shapes.size names } ∧
      (names.foldl (·.enrolled · []) w).shapes.size = w.shapes.size + names.length := by
  induction names generalizing w v with
  | nil => simpa [Overview.entries] using h
  | cons name names ih =>
      have hx := holds_add h.size (.interface name [] [])
      -- The registry grows at its end, so the first name goes to what was there before.
      have hfirst : (w.enrolled name []).Shows
          { v with registry := v.registry ++ [(name, .interface w.shapes.size name [])] } :=
        (h.add _).register hx name
      obtain ⟨hshows, hsize⟩ := ih hfirst
      have hone : (w.enrolled name []).shapes.size = w.shapes.size + 1 := size_add w _
      have hregistry : v.registry ++ Overview.entries w.shapes.size (name :: names) =
          v.registry ++ [(name, .interface w.shapes.size name [])] ++
            Overview.entries (w.enrolled name []).shapes.size names := by
        rw [hone, List.append_assoc]
        rfl
      refine ⟨hregistry ▸ hshows, hsize.trans ?_⟩
      rw [hone, List.length_cons, Nat.add_assoc, Nat.add_comm 1]

theorem Shows.addBuiltins (h : w.Shows v) {id : NodeId} (hw : addBuiltins.run w = .ok id w') :
    v.scope.checkBuiltins = .ok () ∧ w'.Shows (v.addBuiltins w.shapes.size) := by
  rw [run_addBuiltins, outcome_eq_ok, h.scope_eq] at hw
  obtain ⟨hcheck, rfl, rfl⟩ := hw
  obtain ⟨hshows, hsize⟩ := h.foldl_enrolled builtinNames
  have hx := holds_add hshows.size .builtins
  refine ⟨hcheck, ?_⟩
  rw [Overview.addBuiltins, ← hsize]
  exact (hshows.add .builtins).attachFirst hx

/-! ## Runs -/

/-- The workbench after a call, whether or not the call works. -/
def perform (w : Workbench) (c : Call) : Workbench :=
  match (call c).run w with
  | .ok _ w' => w'
  | .error _ w' => w'

def run (w : Workbench) (cs : List Call) : Workbench := cs.foldl perform w

/-- The top level of a workbench is sound. -/
def Sound (w : Workbench) : Prop := ∃ v : Overview, w.Shows v ∧ v.Sound

theorem perform_of_ok {c : Call} {id : NodeId} (h : (call c).run w = .ok id w') :
    w.perform c = w' := by
  rw [perform, h]

theorem perform_of_error {c : Call} {e : Refusal} (h : (call c).run w = .error e w') :
    w.perform c = w := by
  rw [perform, h]
  exact unchanged_of_error h

theorem Shows.call (hw : w.Shows v) (hv : v.Sound) {c : Call} {id : NodeId}
    (h : (call c).run w = .ok id w') : w'.Sound := by
  cases c with
  | addInterface name bases =>
      obtain ⟨hcheck, hw'⟩ := hw.addInterface (run_adaptExcept_eq_ok.1 h)
      obtain ⟨hname, hbases⟩ := Scope.checkInterface_eq_ok.1 hcheck
      exact ⟨_, hw', hv.addInterface (Overview.declares_eq_false.1 hname) hbases⟩
  | addMain name base withConnect =>
      obtain ⟨hcheck, hw'⟩ := hw.addMain (run_adaptExcept_eq_ok.1 h)
      obtain ⟨hmain, hname⟩ := Scope.checkMain_eq_ok.1 hcheck
      exact ⟨_, hw', hv.addMain (Option.map_eq_none_iff.1 hmain) hname⟩
  | addBuiltins =>
      obtain ⟨hcheck, hw'⟩ := hw.addBuiltins (run_adaptExcept_eq_ok.1 h)
      have hnames := Scope.checkBuiltins_eq_ok.1 hcheck
      exact ⟨_, hw', hv.addBuiltins fun name hm =>
        Overview.declares_eq_false.1 (hnames name hm)⟩
  | make s =>
      obtain ⟨-, rfl⟩ := EStateM.Result.ok.inj h
      exact ⟨v, hw.add s, hv⟩
  | extend operation id children =>
      obtain ⟨hc, -, rfl⟩ := run_call_extend_eq_ok.1 h
      exact ⟨v, hw.attach_container hc children, hv⟩

theorem perform_sound (h : w.Sound) (c : Call) : (w.perform c).Sound := by
  obtain ⟨v, hw, hv⟩ := h
  cases hc : (Workbench.call c).run w with
  | ok id w' =>
      rw [perform_of_ok hc]
      exact hw.call hv hc
  | error e w' =>
      rw [perform_of_error hc]
      exact ⟨v, hw, hv⟩

theorem run_sound (h : w.Sound) (cs : List Call) : (w.run cs).Sound := by
  induction cs generalizing w with
  | nil => exact h
  | cons c cs ih => exact ih (perform_sound h c)

/-- The main class is found exactly if the document has one. -/
theorem getMain_eq (hw : w.Shows v) (hv : v.Sound) : w.getMain =
    match v.declared.find? (·.fields.isMain) with
    | some x => .ok x.id
    | none => .error (.notFound "main class") := by
  rw [getMain, hw.main, ← List.head?_filter, hv.main_eq]
  cases v.main <;> rfl

/-- Whatever is called on a new document, its parts agree. -/
theorem exists_overview_run (library : Text) (cs : List Call) :
    ∃ v : Overview, ((empty library).run cs).Shows v ∧ v.Sound ∧
      ((empty library).run cs).getMain =
        match v.declared.find? (·.fields.isMain) with
        | some x => .ok x.id
        | none => .error (.notFound "main class") := by
  have hstart : (empty library).Sound :=
    ⟨.start library, shows_empty library, Overview.sound_start library⟩
  obtain ⟨v, hw, hv⟩ := run_sound hstart cs
  exact ⟨v, hw, hv, getMain_eq hw hv⟩

end Workbench

end DeviceTypings
