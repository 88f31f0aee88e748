import DeviceTypings.Document.Step
import DeviceTypings.Proofs.Outcome

namespace DeviceTypings

/-!
# Layouts

The documents that come up while a schema is compiled have their main class
before all interfaces, and the builtins, if any, before that. A layout names
the parts of such a document. Each step takes a layout to a layout, and works
exactly if the names that it declares are new.
-/

structure Layout where
  library : Text
  imports : ImportStatement
  hasBuiltins : Bool
  main : MainClass
  interfaces : List Interface
  registered : List Text

namespace Layout

def document (l : Layout) : Document where
  library := l.library
  imports := l.imports
  declarations :=
    (if l.hasBuiltins then [.builtins] else []) ++ .main l.main :: l.interfaces.map .interface
  registered := l.registered

/-- All names that no further declaration may have. -/
def names (l : Layout) : List Text := l.main.name :: l.registered

structure WellNamed (l : Layout) : Prop where
  names_nodup : l.names.Nodup
  registered_of_mem : ∀ i ∈ l.interfaces, i.name ∈ l.registered

def addInterfaces (l : Layout) (is : List Interface) : Layout :=
  { l with
    interfaces := l.interfaces ++ is
    registered := l.registered ++ is.map InterfaceOf.name }

def addBuiltins (l : Layout) : Layout :=
  { l with hasBuiltins := true, registered := l.registered ++ builtinNames }

def extendMain (l : Layout) (ns : List Node) : Layout :=
  { l with main := { l.main with children := l.main.children ++ ns } }

variable {l : Layout} {d : Document} {i : Interface} {is : List Interface}

@[simp] theorem names_addInterfaces (l : Layout) (is : List Interface) :
    (l.addInterfaces is).names = l.names ++ is.map InterfaceOf.name := rfl

@[simp] theorem names_addBuiltins (l : Layout) :
    l.addBuiltins.names = l.names ++ builtinNames := rfl

@[simp] theorem names_extendMain (l : Layout) (ns : List Node) :
    (l.extendMain ns).names = l.names := rfl

theorem addInterfaces_nil (l : Layout) : l.addInterfaces [] = l := by
  simp [addInterfaces]

theorem addInterfaces_cons (l : Layout) (i : Interface) (is : List Interface) :
    l.addInterfaces (i :: is) = (l.addInterfaces [i]).addInterfaces is := by
  simp [addInterfaces]

theorem WellNamed.notMem_interfaces (h : l.WellNamed) {name : Text} (hn : name ∉ l.names) :
    name ∉ l.interfaces.map InterfaceOf.name := by
  intro hm
  obtain ⟨i, hi, rfl⟩ := List.mem_map.1 hm
  exact hn (List.mem_cons_of_mem _ (h.registered_of_mem i hi))

theorem WellNamed.addInterfaces (h : l.WellNamed)
    (hn : (l.names ++ is.map InterfaceOf.name).Nodup) : (l.addInterfaces is).WellNamed := by
  refine ⟨hn, ?_⟩
  intro i hi
  rcases List.mem_append.1 hi with hi | hi
  · exact List.mem_append_left _ (h.registered_of_mem i hi)
  · exact List.mem_append_right _ (List.mem_map_of_mem hi)

theorem WellNamed.addBuiltins (h : l.WellNamed) (hn : (l.names ++ builtinNames).Nodup) :
    l.addBuiltins.WellNamed :=
  ⟨hn, fun i hi => List.mem_append_left _ (h.registered_of_mem i hi)⟩

theorem WellNamed.extendMain (h : l.WellNamed) (ns : List Node) : (l.extendMain ns).WellNamed :=
  ⟨h.names_nodup, h.registered_of_mem⟩

/-! ## What a layout shows of its document -/

@[simp] theorem main?_document (l : Layout) : l.document.main? = some l.main := by
  cases h : l.hasBuiltins <;>
    simp [document, Document.main?, h, List.findSome?_cons, Declaration.main?]

@[simp] theorem interfaces_document (l : Layout) : l.document.interfaces = l.interfaces := by
  have hi : (l.interfaces.map Declaration.interface).filterMap Declaration.interface? =
      l.interfaces := by
    rw [List.filterMap_map]
    exact List.filterMap_some
  cases h : l.hasBuiltins <;>
    simp [document, Document.interfaces, h, List.filterMap_cons, Declaration.interface?, hi]

@[simp] theorem mainName_document (l : Layout) : l.document.scope.mainName = some l.main.name := by
  simp [Document.scope]

theorem declares_document {name : Text} :
    l.document.scope.declares name = true ↔ name ∈ l.names := by
  rw [Scope.declares_iff, mainName_document, names, List.mem_cons, or_comm, Option.some_inj,
    eq_comm]
  rfl

theorem declares_document_eq_false {name : Text} :
    l.document.scope.declares name = false ↔ name ∉ l.names := by
  rw [← declares_document, Bool.not_eq_true]

theorem builtins_mem_document : .builtins ∈ l.document.declarations ↔ l.hasBuiltins = true := by
  cases h : l.hasBuiltins <;> simp [document, h]

/-! ## Steps -/

theorem addInterface_document {name : Text} :
    l.document.addInterface name [] = .ok d ↔
      name ∉ l.names ∧ d = (l.addInterfaces [{ name }]).document := by
  have hd : { l.document with
      declarations := l.document.declarations ++ [.interface { name, bases := [] }]
      registered := l.document.registered ++ [name] } =
        (l.addInterfaces [{ name }]).document := by
    simp [document, addInterfaces]
  rw [Document.addInterface, Except.map_unit_eq_ok, hd, Scope.checkInterface_eq_ok,
    declares_document_eq_false]
  simp [eq_comm]

theorem addBuiltins_document (h : l.hasBuiltins = false) :
    l.document.addBuiltins = .ok d ↔
      (∀ name ∈ builtinNames, name ∉ l.names) ∧ d = l.addBuiltins.document := by
  have hd : { l.document with
      declarations := .builtins :: l.document.declarations
      registered := l.document.registered ++ builtinNames } = l.addBuiltins.document := by
    simp [document, addBuiltins, h]
  rw [Document.addBuiltins, Except.map_unit_eq_ok, hd, Scope.checkBuiltins_eq_ok]
  simp only [declares_document_eq_false]
  rw [eq_comm (b := d)]

theorem updateFirst?_builtins (b : Bool) (o : Owner) (f : List Node → Option (List Node))
    (ds : List Declaration) :
    o.updateFirst? f ((if b then [.builtins] else []) ++ ds) =
      (o.updateFirst? f ds).map ((if b then [.builtins] else []) ++ ·) := by
  cases b <;> cases o <;> simp [Owner.updateFirst?, Owner.update?]

theorem extendMain_document (ns : List Node) :
    l.document.extend { owner := .main } ns = .ok (l.extendMain ns).document := by
  simp only [Document.extend, document, updateFirst?_builtins, Owner.updateFirst?, Owner.update?,
    extendNodes_nil, Option.map_some]
  rfl

/-- Only the interface of the given name is changed, wherever it stands. -/
theorem updateFirst?_interface {pre post : List Interface} {ns : List Node}
    (h : i.name ∉ pre.map InterfaceOf.name) :
    (Owner.interface i.name).updateFirst? (extendNodes [] ns)
        ((pre ++ i :: post).map .interface) =
      some ((pre ++ { i with children := i.children ++ ns } :: post).map .interface) := by
  induction pre with
  | nil => simp [Owner.updateFirst?, Owner.update?]
  | cons j pre ih =>
      simp only [List.map_cons, List.mem_cons, not_or] at h
      have hj : (Owner.interface i.name).update? (extendNodes [] ns) (.interface j) = none := by
        simp [Owner.update?, Ne.symm h.1]
      rw [List.cons_append, List.map_cons, Owner.updateFirst?, hj, ih h.2]
      rfl

theorem extendInterface_document {pre post : List Interface} (ns : List Node)
    (hl : l.interfaces = pre ++ i :: post) (h : i.name ∉ pre.map InterfaceOf.name) :
    l.document.extend { owner := .interface i.name } ns =
      .ok { l with
        interfaces := pre ++ { i with children := i.children ++ ns } :: post }.document := by
  have hmain : ∀ ds, (Owner.interface i.name).updateFirst? (extendNodes [] ns)
      (.main l.main :: ds) =
        ((Owner.interface i.name).updateFirst? (extendNodes [] ns) ds).map (.main l.main :: ·) := by
    intro ds
    simp [Owner.updateFirst?, Owner.update?]
  simp only [Document.extend, document, hl, updateFirst?_builtins, hmain,
    updateFirst?_interface h, Option.map_some]

end Layout

end DeviceTypings
