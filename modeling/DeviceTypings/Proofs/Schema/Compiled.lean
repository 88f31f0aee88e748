import DeviceTypings.Proofs.Schema.Chapter
import Mathlib.Data.List.Nodup
import Mathlib.Data.List.Perm.Basic

namespace DeviceTypings.Schema

/-!
# Compiled documents

A schema compiles exactly if each of its families has an outline and no name is
declared twice. Its document is then the one of the chapters of its families.
-/

/-- The families in a schema, in order, with their values. -/
def familiesOf (es : Entries) : List (Family × Value) :=
  es.filterMap fun (k, v) => (Family.ofKey? k).map (·, v)

/-- The chapter holds the outline of the family. -/
def Chapter.Outlines (p : Family × Value) (c : Chapter) : Prop :=
  c.family = p.1 ∧
    ∃ es ts, p.2.bare = .map es ∧ (outlineEntries [p.1.key] es).Yields c.nodes ts

theorem Chapter.Outlines.declares {p : Family × Value} {c : Chapter} (h : c.Outlines p) :
    ∃ ts, Declares [p.1.key] c.nodes ts := by
  obtain ⟨-, es, ts, -, hy⟩ := h
  exact ⟨ts, outlineEntries_declares es hy⟩

theorem family_yields {f : Family} {hasBuiltins : Bool} {es : Entries} {u : Unit}
    {ts : List Step} :
    (family f hasBuiltins es).Yields u ts ↔
      ∃ ns us, (outlineEntries [f.key] es).Yields ns us ∧
        ts = Chapter.steps hasBuiltins ⟨f, ns⟩ := by
  have hsteps (b : Bool) : (∃ ns us, (outlineEntries [f.key] es).Yields ns us ∧
      ts = Chapter.steps b ⟨f, ns⟩) ↔ ∃ ns us, (outlineEntries [f.key] es).Yields ns us ∧ ts =
        (if f.wrapper?.isSome && !b then [.addBuiltins] else []) ++
          .addInterface f.interfaceName [] ::
            .extend { owner := .main } [.member { name := f.memberName, type := f.type }] ::
              (us ++ [.extend { owner := .interface f.interfaceName } ns]) := by
    refine exists_congr fun ns => exists_congr fun us => and_congr_right fun hy => ?_
    rw [(outlineEntries_declares es hy).steps_eq]
    rfl
  rw [hsteps, family]
  cases f.wrapper?.isSome && !hasBuiltins <;> simp [Script.yields_bind]

theorem familiesOf_cons_some {k v : Value} {es : Entries} {f : Family}
    (h : Family.ofKey? k = some f) : familiesOf ((k, v) :: es) = (f, v) :: familiesOf es := by
  simp [familiesOf, h]

theorem familiesOf_cons_none {k v : Value} {es : Entries} (h : Family.ofKey? k = none) :
    familiesOf ((k, v) :: es) = familiesOf es := by
  simp [familiesOf, h]

theorem families_yields {hasBuiltins : Bool} {es : Entries} {u : Unit} {ts : List Step} :
    (families hasBuiltins es).Yields u ts ↔
      ∃ cs, List.Forall₂ Chapter.Outlines (familiesOf es) cs ∧
        ts = chapterSteps hasBuiltins cs := by
  induction es generalizing hasBuiltins ts with
  | nil => simp [families, familiesOf, chapterSteps]
  | cons e es ih =>
      obtain ⟨k, v⟩ := e
      rw [families]
      split
      · rename_i f children hk hv
        simp only [familiesOf_cons_some hk, List.forall₂_cons_left_iff, Script.yields_bind,
          family_yields, ih]
        constructor
        · rintro ⟨-, _, _, ⟨ns, us, hy, rfl⟩, ⟨cs, hcs, rfl⟩, rfl⟩
          exact ⟨⟨f, ns⟩ :: cs, ⟨⟨f, ns⟩, cs, ⟨rfl, children, us, hv, hy⟩, hcs, rfl⟩, rfl⟩
        · rintro ⟨_, ⟨⟨g, ns⟩, cs, ⟨rfl, es', us, hb, hy⟩, hcs, rfl⟩, rfl⟩
          obtain rfl := Value.map.inj (hv.symm.trans hb)
          exact ⟨(), _, _, ⟨ns, us, hy, rfl⟩, ⟨cs, hcs, rfl⟩, rfl⟩
      · rename_i f hk hv
        simp only [familiesOf_cons_some hk, List.forall₂_cons_left_iff, misplaced,
          Script.not_yields_fail, false_iff]
        rintro ⟨_, ⟨c, cs, ⟨-, es', us, hb, -⟩, -⟩, -⟩
        exact hv es' hb
      · rename_i hk
        simp only [familiesOf_cons_none hk, Script.yields_bind, Script.yields_note, ih]
        simp

/-- The layout of a document that has nothing but its main class. -/
def Options.layout (o : Options) : Layout where
  library := o.library
  imports := ⟨o.library, o.base :: if o.withConnect then [connectGenerator] else []⟩
  hasBuiltins := false
  main := { name := o.className, base := o.base, withConnect := o.withConnect }
  interfaces := []
  registered := []

theorem addMain_empty (o : Options) :
    (Document.empty o.library).addMain o.className o.base o.withConnect =
      .ok o.layout.document := rfl

theorem script_yields {o : Options} {s : Value} {u : Unit} {ts : List Step} :
    (script o s).Yields u ts ↔ ∃ es cs, s.bare = .map es ∧
      List.Forall₂ Chapter.Outlines (familiesOf es) cs ∧
        ts = .addMain o.className o.base o.withConnect :: chapterSteps false cs := by
  rw [script]
  split
  · rename_i es hs
    simp only [Script.yields_bind, Script.yields_step, families_yields]
    constructor
    · rintro ⟨-, _, _, rfl, ⟨cs, hcs, rfl⟩, rfl⟩
      exact ⟨es, cs, hs, hcs, rfl⟩
    · rintro ⟨_, cs, hes, hcs, rfl⟩
      obtain rfl := Value.map.inj (hs.symm.trans hes)
      exact ⟨(), _, _, rfl, ⟨cs, hcs, rfl⟩, rfl⟩
  · rename_i hs
    simp only [misplaced, Script.not_yields_fail, false_iff]
    rintro ⟨es, _, hes, -⟩
    exact hs es hes

theorem exists_outlines_of_mem {ps : List (Family × Value)} {cs : List Chapter}
    (h : List.Forall₂ Chapter.Outlines ps cs) {c : Chapter} (hc : c ∈ cs) :
    ∃ p ∈ ps, c.Outlines p := by
  induction h with
  | nil => simp at hc
  | @cons p c' ps cs hp _ ih =>
      rcases List.mem_cons.1 hc with rfl | hc
      · exact ⟨p, List.mem_cons_self, hp⟩
      · obtain ⟨q, hq, ho⟩ := ih hc
        exact ⟨q, List.mem_cons_of_mem _ hq, ho⟩

theorem Chapter.Outlines.exists_name_eq {p : Family × Value} {c : Chapter} (h : c.Outlines p)
    {i : Interface} (hi : i ∈ c.arguments) : ∃ keys, i.name = argsName (c.family.key :: keys) := by
  obtain ⟨ts, hts⟩ := h.declares
  obtain ⟨keys, hkeys⟩ := (hts.isArguments i hi).name_eq
  exact ⟨keys, by rw [hkeys, h.1]; rfl⟩

theorem bases_eq_nil_of_outlines {ps : List (Family × Value)} {cs : List Chapter}
    (h : List.Forall₂ Chapter.Outlines ps cs) : ∀ c ∈ cs, ∀ i ∈ c.arguments, i.bases = [] := by
  intro c hc i hi
  obtain ⟨p, -, hp⟩ := exists_outlines_of_mem h hc
  obtain ⟨ts, hts⟩ := hp.declares
  exact (hts.isArguments i hi).bases_eq

theorem compile_eq_ok {o : Options} {s : Value} {d : Document} :
    compile o s = .ok d ↔ ∃ es cs, s.bare = .map es ∧
      List.Forall₂ Chapter.Outlines (familiesOf es) cs ∧
        (o.className :: chapterNames false cs).Nodup ∧
          d = (o.layout.addChapters cs).document := by
  have hl : o.layout.WellNamed := ⟨by simp [Options.layout, Layout.names], by simp [Options.layout]⟩
  have hrun : compile o s = .ok d ↔ ∃ ts, (script o s).Yields () ts ∧
      (Document.empty o.library).steps ts = .ok d := by
    rw [compile_eq, Except.bind_eq_ok]
    simp only [Except.map_unit_eq_ok, Script.Yields]
    grind
  have hmain (ts : List Step) : (Document.empty o.library).steps
      (.addMain o.className o.base o.withConnect :: ts) = o.layout.document.steps ts := by
    rw [Document.steps_cons, Document.step, addMain_empty]
    rfl
  have hnames (cs : List Chapter) : o.layout.names ++ chapterNames o.layout.hasBuiltins cs =
      o.className :: chapterNames false cs := rfl
  rw [hrun]
  simp only [script_yields]
  constructor
  · rintro ⟨_, ⟨es, cs, hes, hcs, rfl⟩, hd⟩
    rw [hmain] at hd
    obtain ⟨hn, rfl⟩ := (Layout.steps_chapters hl (bases_eq_nil_of_outlines hcs)).1 hd
    exact ⟨es, cs, hes, hcs, hnames cs ▸ hn, rfl⟩
  · rintro ⟨es, cs, hes, hcs, hn, rfl⟩
    refine ⟨_, ⟨es, cs, hes, hcs, rfl⟩, ?_⟩
    rw [hmain]
    exact (Layout.steps_chapters hl (bases_eq_nil_of_outlines hcs)).2 ⟨hnames cs ▸ hn, rfl⟩

/-! ## Names of interfaces -/

theorem toList_argsName (path : List Text) :
    (argsName path).toList =
      path.flatMap (fun key => (Text.sanitize key).toList) ++ Text.toList "Args" := by
  simp [argsName, List.flatMap_map]

theorem getLast?_argsName (path : List Text) :
    (argsName path).toList.getLast? = some (.char 's') := by
  simp [toList_argsName]

/-- Arguments never have the name of a family. -/
theorem argsName_ne_interfaceName (path : List Text) (f : Family) :
    argsName path ≠ f.interfaceName := by
  intro h
  have hlast := getLast?_argsName path
  rw [h] at hlast
  cases f <;> simp [Family.interfaceName] at hlast

theorem argsName_notMem_builtinNames (path : List Text) : argsName path ∉ builtinNames := by
  intro h
  have hlast : ∀ name ∈ builtinNames, name.toList.getLast? ≠ some (.char 's') := by decide
  exact hlast _ h (getLast?_argsName path)

theorem interfaceName_notMem_builtinNames (f : Family) : f.interfaceName ∉ builtinNames := by
  cases f <;> decide

theorem interfaceName_injective : Function.Injective Family.interfaceName := by
  intro f g h
  cases f <;> cases g <;> simp_all [Family.interfaceName]

/-! ## Interfaces of chapters -/

/-- The interfaces of the families, and then those of all arguments. -/
theorem interfaces_perm (cs : List Chapter) :
    (cs.flatMap Chapter.interfaces).Perm
      (cs.map Chapter.interface ++ cs.flatMap Chapter.arguments) := by
  exact (List.map_append_flatMap_perm cs Chapter.interface Chapter.arguments).symm

/-- The builtins come first in a chapter that needs them, and once in all. -/
theorem chapterNames_perm (hasBuiltins : Bool) (cs : List Chapter) :
    (chapterNames hasBuiltins cs).Perm
      ((if !hasBuiltins && cs.any Chapter.isWrapped then builtinNames else []) ++
        (cs.flatMap Chapter.interfaces).map InterfaceOf.name) := by
  induction cs generalizing hasBuiltins with
  | nil => cases hasBuiltins <;> exact List.Perm.refl []
  | cons c cs ih =>
      have htail := (ih (hasBuiltins || c.isWrapped)).append_left (c.names hasBuiltins)
      rw [chapterNames]
      refine htail.trans ?_
      simp only [Chapter.names, List.flatMap_cons, List.map_append, List.any_cons]
      rcases Bool.eq_false_or_eq_true c.isWrapped with hc | hc <;> cases hasBuiltins <;>
        simp [hc, List.perm_append_comm_assoc]

theorem interfaceNames_nodup {hasBuiltins : Bool} {cs : List Chapter}
    (h : (chapterNames hasBuiltins cs).Nodup) :
    ((cs.flatMap Chapter.interfaces).map InterfaceOf.name).Nodup :=
  (List.nodup_append.1 ((chapterNames_perm hasBuiltins cs).nodup_iff.1 h)).2.1

theorem mem_chapterNames {hasBuiltins : Bool} {cs : List Chapter} {i : Interface}
    (h : i ∈ cs.flatMap Chapter.interfaces) : i.name ∈ chapterNames hasBuiltins cs :=
  (chapterNames_perm hasBuiltins cs).mem_iff.2
    (List.mem_append_right _ (List.mem_map_of_mem h))

/-- With names that are all different, an interface is found by its name. -/
theorem interface?_eq_some {d : Document} (h : (d.interfaces.map InterfaceOf.name).Nodup)
    {i : Interface} (hi : i ∈ d.interfaces) : d.interface? i.name = some i := by
  unfold Document.interface?
  cases hf : d.interfaces.find? fun j => j.name == i.name with
  | none =>
      have hne := List.find?_eq_none.1 hf i hi
      simp at hne
  | some j =>
      have hj : j.name = i.name := by simpa using List.find?_some hf
      rw [List.inj_on_of_nodup_map h (List.mem_of_find?_eq_some hf) hi hj]

/-! ## The document of chapters -/

variable {o : Options} {cs : List Chapter}

theorem interfaces_chapters :
    (o.layout.addChapters cs).document.interfaces = cs.flatMap Chapter.interfaces := by
  simp [Layout.addChapters, Options.layout]

theorem registered_chapters :
    (o.layout.addChapters cs).document.registered = chapterNames false cs := by
  simp [Layout.document, Layout.addChapters, Options.layout]

/-! ## A schema -/

/-- A field with a text. -/
def textLeaf : Value := .map [(.text valueSpaceKey, .map [(.text typeKey, .text "String")])]

/-- A command with one parameter. -/
def textCommand : Value := .map [(.text commandKey, .text "True"), (.text "Number", textLeaf)]

/-- A schema with commands in objects and in a keyed array, whose last element gives
one key that is taken and one that is not. -/
def lineSchema : Value :=
  .map [
    (.text "Command", .map [
      (.text "Dial", textCommand),
      (.text "Line", .list [
        .map [(.text idKey, .int 1), (.text "Hold", textCommand)],
        .map [(.text "Mode", textLeaf)],
        .map [(.text "Mode", .null), (.text "Drop", textCommand)]])]),
    (.text "StatusSchema", .map [(.text "Volume", textLeaf)])]

theorem exists_compile_lineSchema : ∃ d, compile {} lineSchema = .ok d := ⟨_, rfl⟩

end DeviceTypings.Schema
