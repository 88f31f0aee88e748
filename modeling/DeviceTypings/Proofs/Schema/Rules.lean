import DeviceTypings.Proofs.Outcome
import DeviceTypings.Proofs.Schema.Yields
import DeviceTypings.Schema.Outline

namespace DeviceTypings.Schema

/-!
# Rules of outlines

For each way in which a value is outlined, the parts that have to be outlined
before it and what becomes of them. Proofs about outlines use these rules and
not the definitions.
-/

variable {path taken : List Text} {key : Text} {k v : Value} {es : Entries} {n : Node}
  {ns : List Node} {ts : List Step}

/-! ## Leaves and commands -/

theorem leaf_eq_ok {space : Value} {m : Member} : leaf path key es space = .ok m ↔
    ∃ type doc, inferType path space = .ok type ∧ docstring es = .ok doc ∧
      m = { name := key, type, required := !isUnset (Entries.lookup requiredKey es),
            docstring := doc } := by
  simp only [leaf, Except.do_eq_ok, Except.pure_eq_ok]
  constructor
  · rintro ⟨type, htype, doc, hdoc, rfl⟩
    exact ⟨type, doc, htype, hdoc, rfl⟩
  · rintro ⟨type, doc, htype, hdoc, rfl⟩
    exact ⟨type, htype, doc, hdoc, rfl⟩

theorem leaf_yields {space : Value} :
    (Script.ofExcept ((leaf path key es space).map Node.member)).Yields n ts ↔
      ∃ m, leaf path key es space = .ok m ∧ n = .member m ∧ ts = [] := by
  rw [Script.yields_ofExcept, Except.map_eq_ok]
  constructor
  · rintro ⟨⟨m, hm, rfl⟩, rfl⟩
    exact ⟨m, hm, rfl, rfl⟩
  · rintro ⟨m, hm, rfl, rfl⟩
    exact ⟨⟨m, hm, rfl⟩, rfl⟩

theorem parameters_cons_eq_ok {p : Text × Value} {ps : List (Text × Value)}
    {ms : List Member} : parameters path (p :: ps) = .ok ms ↔
      ∃ m ms', parameter (path ++ [p.1]) p.1 p.2 = .ok m ∧ parameters path ps = .ok ms' ∧
        ms = m :: ms' := by
  obtain ⟨key, v⟩ := p
  simp only [parameters, Except.do_eq_ok, Except.pure_eq_ok]
  constructor
  · rintro ⟨m, hm, ms', hms, rfl⟩
    exact ⟨m, ms', hm, hms, rfl⟩
  · rintro ⟨m, ms', hm, hms, rfl⟩
    exact ⟨m, hm, ms', hms, rfl⟩

theorem arguments_nil_yields {args : Option Interface} :
    (arguments path []).Yields args ts ↔ args = none ∧ ts = [] :=
  Script.yields_pure

theorem arguments_cons_yields {p : Text × Value} {ps : List (Text × Value)}
    {args : Option Interface} : (arguments path (p :: ps)).Yields args ts ↔
      ∃ ms, parameters path (p :: ps) = .ok ms ∧
        args = some { name := argsName path, children := ms.map Node.member } ∧
        ts = [.addInterface (argsName path) [],
          .extend { owner := .interface (argsName path) } (ms.map Node.member)] := by
  simp only [arguments, Script.yields_bind, Script.yields_step, Script.yields_ofExcept,
    Script.yields_pure]
  constructor
  · rintro ⟨-, _, _, rfl, ⟨ms, _, _, ⟨hms, rfl⟩, ⟨-, _, _, rfl, ⟨rfl, rfl⟩, rfl⟩, rfl⟩, rfl⟩
    exact ⟨ms, hms, rfl, rfl⟩
  · rintro ⟨ms, hms, rfl, rfl⟩
    exact ⟨(), _, _, rfl, ⟨ms, _, _, ⟨hms, rfl⟩, ⟨(), _, _, rfl, ⟨rfl, rfl⟩, rfl⟩, rfl⟩, rfl⟩

theorem command_yields : (command path key es).Yields n ts ↔
    ∃ args doc, (arguments path (structuralEntries es)).Yields args ts ∧
      docstring es = .ok doc ∧
        n = .command { name := key, args, docstring := doc,
                       multiline := isSet (Entries.lookup multilineKey es) } := by
  simp only [command, Script.yields_bind, Script.yields_ofExcept, Script.yields_pure]
  constructor
  · rintro ⟨args, us, _, hargs, ⟨doc, _, _, ⟨hdoc, rfl⟩, ⟨rfl, rfl⟩, rfl⟩, rfl⟩
    exact ⟨args, doc, by simpa using hargs, hdoc, rfl⟩
  · rintro ⟨args, doc, hargs, hdoc, rfl⟩
    exact ⟨args, ts, [], hargs, ⟨doc, [], [], ⟨hdoc, rfl⟩, ⟨rfl, rfl⟩, rfl⟩, by simp⟩

/-! ## Entries and elements -/

theorem outlineEntries_cons_none (h : structuralKey? k = none) :
    outlineEntries path ((k, v) :: es) = outlineEntries path es := by
  rw [outlineEntries, h]

theorem outlineEntries_cons_some (h : structuralKey? k = some key) :
    (outlineEntries path ((k, v) :: es)).Yields ns ts ↔
      ∃ m us ms vs, (outline (path ++ [key]) key v).Yields m us ∧
        (outlineEntries path es).Yields ms vs ∧ ns = m :: ms ∧ ts = us ++ vs := by
  rw [outlineEntries, h]
  exact Script.yields_bind_pure

theorem outlineElements_cons {index : Nat} {vs : List Value} :
    (outlineElements path index taken (v :: vs)).Yields ns ts ↔
      ∃ fresh us ms ws, (outlineElement path index taken v).Yields fresh us ∧
        (outlineElements path (index + 1) (fresh.map Node.name ++ taken) vs).Yields ms ws ∧
          ns = fresh ++ ms ∧ ts = us ++ ws := by
  rw [outlineElements]
  exact Script.yields_bind_pure

/-- An element with an id is a tree of that name. -/
theorem outlineElement_some {index : Nat} {id : Value} (h : Entries.lookup idKey es = some id) :
    (outlineElement path index taken (.map es)).Yields ns ts ↔
      ∃ text cs, Fault.textOf id = .ok text ∧
        (outlineEntries (path ++ [text]) es).Yields cs ts ∧ ns = [.tree .object text cs] := by
  simp only [outlineElement, h, Script.yields_bind, Script.yields_ofExcept, Script.yields_pure]
  constructor
  · rintro ⟨text, _, _, ⟨htext, rfl⟩, ⟨cs, us, _, hcs, ⟨rfl, rfl⟩, rfl⟩, rfl⟩
    exact ⟨text, cs, htext, by simpa using hcs, rfl⟩
  · rintro ⟨text, cs, htext, hcs, rfl⟩
    exact ⟨text, [], ts, ⟨htext, rfl⟩, ⟨cs, ts, [], hcs, ⟨rfl, rfl⟩, by simp⟩, rfl⟩

theorem outlineElement_none {index : Nat} (h : Entries.lookup idKey es = none) :
    outlineElement path index taken (.map es) = outlineFresh path taken es := by
  rw [outlineElement, h]

theorem outlineFresh_cons_none (h : structuralKey? k = none) :
    outlineFresh path taken ((k, v) :: es) = outlineFresh path taken es := by
  rw [outlineFresh, h]

theorem outlineFresh_cons_mem (h : structuralKey? k = some key) (ht : key ∈ taken) :
    (outlineFresh path taken ((k, v) :: es)).Yields ns ts ↔
      (outlineFresh path taken es).Yields ns ts := by
  simp only [outlineFresh, h, List.contains_iff_mem, ht, if_true, Script.yields_bind,
    Script.yields_note]
  constructor
  · rintro ⟨-, _, us, rfl, hes, rfl⟩
    exact hes
  · intro hes
    exact ⟨(), [], ts, rfl, hes, rfl⟩

theorem outlineFresh_cons_notMem (h : structuralKey? k = some key) (ht : key ∉ taken) :
    (outlineFresh path taken ((k, v) :: es)).Yields ns ts ↔
      ∃ m us ms vs, (outline (path ++ [key]) key v).Yields m us ∧
        (outlineFresh path (key :: taken) es).Yields ms vs ∧ ns = m :: ms ∧ ts = us ++ vs := by
  simp only [outlineFresh, h, List.contains_iff_mem, ht, if_false]
  exact Script.yields_bind_pure

end DeviceTypings.Schema
