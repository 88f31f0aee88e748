import DeviceTypings.Proofs.Outcome
import DeviceTypings.Workbench.Store

namespace DeviceTypings.Workbench

/-!
# Overviews

The top level of a workbench: the import, the nodes that are declared after it,
the registry and the main class. Each node comes with its fields, of which the
children are left out. An overview is sound if its parts agree. Declaring an
interface, the main class or the builtins under free names keeps it so.
-/

/-! ## Kinds of shapes -/

namespace Shape

variable {κ : Type}

def isImports : Shape κ → Bool
  | imports _ => true
  | _ => false

def isMain : Shape κ → Bool
  | main .. => true
  | _ => false

def isBuiltins : Shape κ → Bool
  | builtins => true
  | _ => false

def isInterface : Shape κ → Bool
  | interface .. => true
  | _ => false

def bases : Shape κ → List Text
  | interface _ bases _ => bases
  | _ => []

/-- What a main class of this shape needs to import. -/
def neededNames : Shape κ → List Text
  | main _ base withConnect _ _ => base :: if withConnect then [connectGenerator] else []
  | _ => []

end Shape

/-! ## Overviews -/

/-- A node and its fields. -/
structure Item where
  id : NodeId
  fields : Shape NodeId

namespace Item

def name (x : Item) : Text := x.fields.name?.getD ""

def interface (id : NodeId) (name : Text) (bases : List Text) : Item :=
  ⟨id, .interface name bases []⟩

def main (id : NodeId) (name base : Text) (withConnect : Bool) : Item :=
  ⟨id, .main name base withConnect true []⟩

end Item

structure Overview where
  imports : ImportStatement
  /-- The children of the document after its import. -/
  declared : List Item
  registry : List (Text × Item)
  main : Option Item

namespace Overview

/-- The interfaces that are declared, each under its own name. -/
def interfaces (v : Overview) : List (Text × Item) :=
  (v.declared.filter (·.fields.isInterface)).map fun x => (x.name, x)

def hasBuiltins (v : Overview) : Bool := v.declared.any (·.fields.isBuiltins)

/-- All names that no further declaration may have. -/
def names (v : Overview) : List Text :=
  v.registry.map Prod.fst ++ v.main.toList.map Item.name

def scope (v : Overview) : Scope := ⟨v.registry.map Prod.fst, v.main.map Item.name⟩

/-- The parts of an overview agree. -/
structure Sound (v : Overview) : Prop where
  /-- The import at the start is the only one. -/
  imports_only : ∀ x ∈ v.declared, x.fields.isImports = false
  imported : v.imports.names =
    (v.main.map fun x => x.fields.neededNames).getD [defaultBaseName, connectGenerator]
  main_eq : v.declared.filter (·.fields.isMain) = v.main.toList
  /-- Builtins follow the import and come once. -/
  builtins_first : ∀ x ∈ v.declared.tail, x.fields.isBuiltins = false
  names_nodup : v.names.Nodup
  /-- The registry has the declared interfaces in their order and, in one place among
  them, those of the builtins. -/
  registry_eq : ∃ before builtins after, v.registry = before ++ builtins ++ after ∧
    before ++ after = v.interfaces ∧
      builtins.map (fun p => (p.1, p.2.fields)) =
        (if v.hasBuiltins then builtinNames else []).map fun name => (name, .interface name [] [])
  builtins_undeclared : v.hasBuiltins = true → ∀ p ∈ v.interfaces, p.1 ∉ builtinNames
  /-- An interface extends only what was registered before it. -/
  bases_earlier : ∀ (k : Nat) (p : Text × Item), v.registry[k]? = some p →
    ∀ b ∈ p.2.fields.bases, b ∈ (v.registry.take k).map Prod.fst

theorem declares_iff {v : Overview} {name : Text} :
    v.scope.declares name = true ↔ name ∈ v.names := by
  rw [Scope.declares_iff, names, List.mem_append]
  cases h : v.main <;> simp [scope, h, eq_comm]

theorem declares_eq_false {v : Overview} {name : Text} :
    v.scope.declares name = false ↔ name ∉ v.names := by
  rw [← declares_iff, Bool.not_eq_true]

/-! ## Declarations -/

def addInterface (v : Overview) (id : NodeId) (name : Text) (bases : List Text) : Overview :=
  { v with
    declared := v.declared ++ [.interface id name bases]
    registry := v.registry ++ [(name, .interface id name bases)] }

def addMain (v : Overview) (id : NodeId) (name base : Text) (withConnect : Bool) : Overview :=
  { v with
    imports :=
      { v.imports with names := base :: if withConnect then [connectGenerator] else [] }
    declared := v.declared ++ [.main id name base withConnect]
    main := some (.main id name base withConnect) }

/-- Entries for interfaces in nodes that follow one another. -/
def entries (id : NodeId) : List Text → List (Text × Item)
  | [] => []
  | name :: names => (name, .interface id name []) :: entries (id + 1) names

def addBuiltins (v : Overview) (id : NodeId) : Overview :=
  { v with
    declared := ⟨id + builtinNames.length, .builtins⟩ :: v.declared
    registry := v.registry ++ entries id builtinNames }

def start (library : Text) : Overview where
  imports := { source := library, names := [defaultBaseName, connectGenerator] }
  declared := []
  registry := []
  main := none

theorem sound_start (library : Text) : (start library).Sound where
  imports_only := by simp [start]
  imported := rfl
  main_eq := rfl
  builtins_first := by simp [start]
  names_nodup := List.nodup_nil
  registry_eq := ⟨[], [], [], rfl, rfl, rfl⟩
  builtins_undeclared := by simp [start, interfaces]
  bases_earlier := by simp [start]

theorem map_entries (id : NodeId) (names : List Text) :
    (entries id names).map (fun p => (p.1, p.2.fields)) =
      names.map fun name => (name, .interface name [] []) := by
  induction names generalizing id with
  | nil => rfl
  | cons name names ih => rw [entries, List.map_cons, List.map_cons, ih]; rfl

theorem names_entries (id : NodeId) (names : List Text) :
    (entries id names).map Prod.fst = names := by
  have h := congrArg (List.map Prod.fst) (map_entries id names)
  simpa [Function.comp_def] using h

variable {v : Overview}

theorem Sound.builtinNames_subset (h : v.Sound) (hb : v.hasBuiltins = true) :
    ∀ name ∈ builtinNames, name ∈ v.registry.map Prod.fst := by
  obtain ⟨before, builtins, after, hr, -, hbuiltins⟩ := h.registry_eq
  have hnames := congrArg (List.map Prod.fst) hbuiltins
  simp only [List.map_map, hb, if_true, Function.comp_def, List.map_id'] at hnames
  intro name hname
  rw [hr, List.map_append, List.map_append, hnames]
  simp [hname]

theorem Sound.mem_registry (h : v.Sound) {p : Text × Item} (hp : p ∈ v.interfaces) :
    p ∈ v.registry := by
  obtain ⟨before, builtins, after, hr, hi, -⟩ := h.registry_eq
  rw [hr]
  rcases List.mem_append.1 (hi ▸ hp) with hp | hp
  · exact List.mem_append_left _ (List.mem_append_left _ hp)
  · exact List.mem_append_right _ hp

/-- New entries of a registry may extend what was there before them. -/
theorem bases_earlier_append {registry new : List (Text × Item)}
    (h : ∀ (k : Nat) (p : Text × Item), registry[k]? = some p →
      ∀ b ∈ p.2.fields.bases, b ∈ (registry.take k).map Prod.fst)
    (hnew : ∀ p ∈ new, ∀ b ∈ p.2.fields.bases, b ∈ registry.map Prod.fst) (k : Nat)
    (p : Text × Item) (hp : (registry ++ new)[k]? = some p) :
    ∀ b ∈ p.2.fields.bases, b ∈ ((registry ++ new).take k).map Prod.fst := by
  intro b hb
  rcases Nat.lt_or_ge k registry.length with hk | hk
  · rw [List.getElem?_append_left hk] at hp
    rw [List.take_append_of_le_length (Nat.le_of_lt hk)]
    exact h k p hp b hb
  · rw [List.getElem?_append_right hk] at hp
    rw [List.take_append, List.map_append, List.take_of_length_le hk]
    exact List.mem_append_left _ (hnew p (List.mem_of_getElem? hp) b hb)

theorem mem_tail_concat {α : Type} {xs : List α} {x y : α} (h : y ∈ (xs ++ [x]).tail) :
    y ∈ xs.tail ∨ y = x := by
  cases xs with
  | nil => simp at h
  | cons z zs => simpa using h

theorem Sound.addInterface (h : v.Sound) {id : NodeId} {name : Text} {bases : List Text}
    (hname : name ∉ v.names) (hbases : ∀ b ∈ bases, b ∈ v.registry.map Prod.fst) :
    (v.addInterface id name bases).Sound := by
  have hregistry : name ∉ v.registry.map Prod.fst := fun hm =>
    hname (List.mem_append_left _ hm)
  have hbuiltins : (v.addInterface id name bases).hasBuiltins = v.hasBuiltins := by
    simp [hasBuiltins, Overview.addInterface, Item.interface, Shape.isBuiltins]
  have hinterfaces : (v.addInterface id name bases).interfaces =
      v.interfaces ++ [(name, .interface id name bases)] := by
    simp [interfaces, Overview.addInterface, Item.interface, Shape.isInterface, Item.name,
      Shape.name?]
  constructor
  · intro x hx
    rcases List.mem_append.1 hx with hx | hx
    · exact h.imports_only x hx
    · obtain rfl := List.mem_singleton.1 hx
      rfl
  · exact h.imported
  · simpa [Overview.addInterface, Item.interface, Shape.isMain] using h.main_eq
  · intro x hx
    rcases mem_tail_concat hx with hx | rfl
    · exact h.builtins_first x hx
    · rfl
  · have hperm : (v.addInterface id name bases).names.Perm (name :: v.names) := by
      simp [names, Overview.addInterface]
    exact hperm.nodup_iff.2 (List.nodup_cons.2 ⟨hname, h.names_nodup⟩)
  · obtain ⟨before, builtins, after, hr, hi, hb⟩ := h.registry_eq
    refine ⟨before, builtins, after ++ [(name, .interface id name bases)], ?_, ?_, ?_⟩
    · simp [Overview.addInterface, hr]
    · rw [hinterfaces, ← hi, List.append_assoc]
    · rw [hbuiltins]
      exact hb
  · intro hb p hp
    rw [hbuiltins] at hb
    rw [hinterfaces, List.mem_append, List.mem_singleton] at hp
    rcases hp with hp | rfl
    · exact h.builtins_undeclared hb p hp
    · exact fun hm => hregistry (h.builtinNames_subset hb name hm)
  · apply bases_earlier_append h.bases_earlier
    intro p hp
    obtain rfl := List.mem_singleton.1 hp
    exact hbases

theorem Sound.addMain (h : v.Sound) {id : NodeId} {name base : Text} {withConnect : Bool}
    (hmain : v.main = none) (hname : name ∉ v.registry.map Prod.fst) :
    (v.addMain id name base withConnect).Sound := by
  have hbuiltins : (v.addMain id name base withConnect).hasBuiltins = v.hasBuiltins := by
    simp [hasBuiltins, Overview.addMain, Item.main, Shape.isBuiltins]
  have hinterfaces : (v.addMain id name base withConnect).interfaces = v.interfaces := by
    simp [interfaces, Overview.addMain, Item.main, Shape.isInterface]
  have hold : v.declared.filter (·.fields.isMain) = [] := by
    rw [h.main_eq, hmain]
    rfl
  constructor
  · intro x hx
    rcases List.mem_append.1 hx with hx | hx
    · exact h.imports_only x hx
    · obtain rfl := List.mem_singleton.1 hx
      rfl
  · rfl
  · rw [Overview.addMain, List.filter_append, hold]
    rfl
  · intro x hx
    rcases mem_tail_concat hx with hx | rfl
    · exact h.builtins_first x hx
    · rfl
  · have hnames := h.names_nodup
    rw [names, hmain] at hnames
    have hregistry : (v.registry.map Prod.fst).Nodup := by simpa using hnames
    refine List.nodup_append.2 ⟨hregistry, by simp [Overview.addMain], ?_⟩
    rintro a ha b hb rfl
    obtain rfl := List.mem_singleton.1 hb
    exact hname ha
  · rw [hbuiltins, hinterfaces]
    exact h.registry_eq
  · rw [hbuiltins, hinterfaces]
    exact h.builtins_undeclared
  · exact h.bases_earlier

theorem Sound.addBuiltins (h : v.Sound) {id : NodeId}
    (hnames : ∀ name ∈ builtinNames, name ∉ v.names) : (v.addBuiltins id).Sound := by
  -- Builtins that were there already would have their names registered.
  have hfree : v.hasBuiltins = false := by
    rw [← Bool.not_eq_true]
    intro hb
    have hname : ("Gettable" : Text) ∈ builtinNames := by decide
    exact hnames _ hname (List.mem_append_left _ (h.builtinNames_subset hb _ hname))
  have hbuiltins : (v.addBuiltins id).hasBuiltins = true := by
    simp [hasBuiltins, Overview.addBuiltins, Shape.isBuiltins]
  have hinterfaces : (v.addBuiltins id).interfaces = v.interfaces := by
    simp [interfaces, Overview.addBuiltins, Shape.isInterface]
  constructor
  · exact List.forall_mem_cons.2 ⟨rfl, h.imports_only⟩
  · exact h.imported
  · simpa [Overview.addBuiltins, Shape.isMain] using h.main_eq
  · intro x hx
    have hnone := hfree
    simp only [hasBuiltins, List.any_eq_false, Bool.not_eq_true] at hnone
    exact hnone x hx
  · have hperm : (v.addBuiltins id).names.Perm (builtinNames ++ v.names) := by
      simp only [names, Overview.addBuiltins, List.map_append, names_entries,
        ← List.append_assoc]
      exact List.perm_append_comm.append_right _
    refine hperm.nodup_iff.2 (List.nodup_append.2 ⟨by decide, h.names_nodup, ?_⟩)
    rintro a ha b hb rfl
    exact hnames a ha hb
  · obtain ⟨before, builtins, after, hr, hi, hb⟩ := h.registry_eq
    have hnil : builtins = [] := by simpa [hfree] using hb
    have hregistry : (v.addBuiltins id).registry = v.interfaces ++
        entries id builtinNames ++ [] := by
      rw [Overview.addBuiltins, hr, hnil, List.append_nil, hi, List.append_nil]
    refine ⟨_, _, _, hregistry, ?_, ?_⟩
    · rw [hinterfaces, List.append_nil]
    · rw [hbuiltins, if_pos rfl, map_entries]
  · intro _ p hp hm
    rw [hinterfaces] at hp
    exact hnames p.1 hm (List.mem_append_left _ (List.mem_map_of_mem (h.mem_registry hp)))
  · apply bases_earlier_append h.bases_earlier
    intro p hp b hb
    have hm := List.mem_map_of_mem (f := fun p => (p.1, p.2.fields)) hp
    rw [map_entries] at hm
    obtain ⟨name, -, heq⟩ := List.mem_map.1 hm
    obtain ⟨-, hfields⟩ := Prod.mk.inj heq
    simp [← hfields, Shape.bases] at hb

end Overview

end DeviceTypings.Workbench
