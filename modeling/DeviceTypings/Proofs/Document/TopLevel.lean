import DeviceTypings.Proofs.Schema.Closed
import DeviceTypings.Render.Document

namespace DeviceTypings

/-!
# Names at the top level

Which names the text of a document introduces at its top level. The names of
interfaces, of the main class and of the builtin interfaces are checked before they
are declared, so no two of them are ever the same. Imported names, the aliases and
the `connect` export are not checked. A name can come twice only if one of them is
involved, which in the document of a schema takes the options, never the schema.
-/

/-- The aliases that come with the builtin interfaces. -/
def aliasNames : List Text := ["Configify", "Statusify"]

def connectName : Text := "connect"

/-- An import joins those of its names that are not empty. -/
theorem Render.joinNames_eq (names : List Text) :
    joinNames names = Text.intercalate ", " (names.filter (· != "")) := by
  simp [joinNames, joinPieces, List.filter_map, Function.comp_def, Piece.render, Piece.isShown]

namespace Declaration

/-- The names that have to be free before the declaration is added. The class and the
interface beside it count once. -/
def checkedNames : Declaration → List Text
  | interface i => [i.name]
  | main m => [m.name]
  | builtins => builtinNames

/-- The names that the declaration introduces besides. -/
def uncheckedNames : Declaration → List Text
  | interface _ => []
  | main m => if m.withConnect then [connectName] else []
  | builtins => aliasNames

end Declaration

namespace Document

/-- The names that the import joins, which are those that are not empty. There is no import
if nothing is declared. -/
def importedNames (d : Document) : List Text :=
  if d.declarations.isEmpty then [] else d.imports.names.filter (· != "")

def checkedNames (d : Document) : List Text := d.declarations.flatMap Declaration.checkedNames

def uncheckedNames (d : Document) : List Text :=
  d.importedNames ++ d.declarations.flatMap Declaration.uncheckedNames

/-- The names that the text of the document introduces, as they come in it. -/
def topLevelNames (d : Document) : List Text :=
  d.importedNames ++ d.printOrder.flatMap fun x => x.checkedNames ++ x.uncheckedNames

theorem topLevelNames_perm (d : Document) :
    d.topLevelNames.Perm (d.checkedNames ++ d.uncheckedNames) := by
  have horder : d.printOrder.Perm d.declarations := by
    refine List.perm_append_comm.trans ?_
    simpa using List.filter_append_perm Declaration.isMain d.declarations
  have hsplit := (horder.flatMap_right fun x => x.checkedNames ++ x.uncheckedNames).trans
    (List.flatMap_append_perm d.declarations Declaration.checkedNames
      Declaration.uncheckedNames).symm
  exact (hsplit.append_left d.importedNames).trans (List.perm_append_comm_assoc _ _ _)

/-! ## Checked names in a run -/

/-- The names that a document declares are those that it checks for, and all different. -/
structure NamesChecked (d : Document) : Prop where
  nodup : d.checkedNames.Nodup
  declares_iff : ∀ name, d.scope.declares name = true ↔ name ∈ d.checkedNames

variable {d e : Document}

theorem NamesChecked.empty (library : Text) : (Document.empty library).NamesChecked :=
  ⟨List.nodup_nil, fun name => by simp [Document.empty, scope, main?, Scope.declares, checkedNames]⟩

theorem NamesChecked.notMem (h : d.NamesChecked) {name : Text}
    (hname : d.scope.declares name = false) : name ∉ d.checkedNames := by
  rwa [← h.declares_iff, Bool.not_eq_true]

/-- New names may join if the document declares none of them. -/
theorem NamesChecked.join (h : d.NamesChecked) (new : List Text) (hnew : new.Nodup)
    (hfree : ∀ name ∈ new, d.scope.declares name = false)
    (hnames : e.checkedNames.Perm (new ++ d.checkedNames))
    (hdeclares : ∀ name, e.scope.declares name = true ↔
      name ∈ new ∨ d.scope.declares name = true) : e.NamesChecked := by
  constructor
  · rw [hnames.nodup_iff, List.nodup_append]
    refine ⟨hnew, h.nodup, ?_⟩
    rintro name hname _ hname' rfl
    exact h.notMem (hfree name hname) hname'
  · intro name
    rw [hdeclares, hnames.mem_iff, List.mem_append, h.declares_iff]

theorem NamesChecked.addInterface {name : Text} {bases : List Text} (h : d.NamesChecked)
    (he : d.addInterface name bases = .ok e) : e.NamesChecked := by
  obtain ⟨hcheck, rfl⟩ := Except.map_unit_eq_ok.1 he
  have hfree := (Scope.checkInterface_eq_ok.1 hcheck).1
  refine h.join [name] (List.nodup_singleton _) (by simpa using hfree) ?_ fun x => ?_
  · simp [checkedNames, Declaration.checkedNames]
  · simp only [Scope.declares_iff, scope, main?, List.findSome?_append]
    simp [Declaration.main?, or_assoc, or_left_comm]

theorem NamesChecked.addMain {name base : Text} {withConnect : Bool} (h : d.NamesChecked)
    (he : d.addMain name base withConnect = .ok e) : e.NamesChecked := by
  obtain ⟨hcheck, rfl⟩ := Except.map_unit_eq_ok.1 he
  obtain ⟨hnone, hregistered⟩ := Scope.checkMain_eq_ok.1 hcheck
  have hmain : d.declarations.findSome? Declaration.main? = none := by
    simpa [scope, main?] using hnone
  have hfree : d.scope.declares name = false := by
    rw [← Bool.not_eq_true, Scope.declares_iff, hnone]
    simpa using hregistered
  refine h.join [name] (List.nodup_singleton _) (by simpa using hfree) ?_ fun x => ?_
  · simp [checkedNames, Declaration.checkedNames]
  · simp only [Scope.declares_iff, scope, main?, List.findSome?_append, hmain]
    simp [Declaration.main?, or_comm, eq_comm]

theorem NamesChecked.addBuiltins (h : d.NamesChecked) (he : d.addBuiltins = .ok e) :
    e.NamesChecked := by
  obtain ⟨hcheck, rfl⟩ := Except.map_unit_eq_ok.1 he
  refine h.join builtinNames (by decide) (Scope.checkBuiltins_eq_ok.1 hcheck)
    (List.Perm.refl _) fun x => ?_
  simp only [Scope.declares_iff, scope, main?, List.findSome?_cons]
  simp [Declaration.main?, or_assoc, or_left_comm]

/-! ## Members change no names -/

end Document

theorem Owner.update?_names {o : Owner} {f : List Node → Option (List Node)}
    {x y : Declaration} (h : o.update? f x = some y) :
    y.checkedNames = x.checkedNames ∧ y.main?.map MainClass.name = x.main?.map MainClass.name := by
  unfold Owner.update? at h
  split at h
  · obtain ⟨ns, -, rfl⟩ := Option.map_eq_some_iff.1 h
    exact ⟨rfl, rfl⟩
  · split at h
    · obtain ⟨ns, -, rfl⟩ := Option.map_eq_some_iff.1 h
      exact ⟨rfl, rfl⟩
    · simp at h
  · simp at h

theorem Owner.updateFirst?_names {o : Owner} {f : List Node → Option (List Node)}
    {xs ys : List Declaration} (h : o.updateFirst? f xs = some ys) :
    ys.flatMap Declaration.checkedNames = xs.flatMap Declaration.checkedNames ∧
      (ys.findSome? Declaration.main?).map MainClass.name =
        (xs.findSome? Declaration.main?).map MainClass.name := by
  induction xs generalizing ys with
  | nil => simp [Owner.updateFirst?] at h
  | cons x xs ih =>
      rw [Owner.updateFirst?] at h
      split at h
      · rename_i y hy
        obtain rfl := Option.some.inj h
        obtain ⟨hnames, hmain⟩ := Owner.update?_names hy
        refine ⟨by rw [List.flatMap_cons, List.flatMap_cons, hnames], ?_⟩
        rw [List.findSome?_cons, List.findSome?_cons]
        cases hx : x.main? <;> cases hy' : y.main? <;> simp_all
      · obtain ⟨zs, hzs, rfl⟩ := Option.map_eq_some_iff.1 h
        obtain ⟨hnames, hmain⟩ := ih hzs
        refine ⟨by rw [List.flatMap_cons, List.flatMap_cons, hnames], ?_⟩
        rw [List.findSome?_cons, List.findSome?_cons]
        cases x.main? with
        | none => exact hmain
        | some m => rfl

namespace Document

variable {d e : Document}

theorem NamesChecked.extend {place : Place} {ns : List Node} (h : d.NamesChecked)
    (he : d.extend place ns = .ok e) : e.NamesChecked := by
  unfold Document.extend at he
  split at he
  · rename_i ds hds
    obtain rfl := Except.ok.inj he
    obtain ⟨hnames, hmain⟩ := Owner.updateFirst?_names hds
    refine h.join [] List.nodup_nil (by simp) (List.Perm.of_eq hnames) fun name => ?_
    simp [Scope.declares_iff, scope, main?, hmain]
  · simp at he

theorem NamesChecked.step {s : Step} (h : d.NamesChecked) (he : d.step s = .ok e) :
    e.NamesChecked := by
  cases s with
  | addInterface name bases => exact h.addInterface he
  | addMain name base withConnect => exact h.addMain he
  | addBuiltins => exact h.addBuiltins he
  | extend place nodes => exact h.extend he

theorem NamesChecked.tolerate (h : d.NamesChecked) (ss : List Step) :
    (d.tolerate ss).NamesChecked := by
  induction ss generalizing d with
  | nil => exact h
  | cons s ss ih =>
      rw [Document.tolerate, List.foldl_cons]
      cases hs : d.step s with
      | error fault => exact ih h
      | ok c => exact ih (h.step hs)

/-- What comes of the empty document by steps of which some may fail. -/
def Reachable (d : Document) : Prop := ∃ library ss, (Document.empty library).tolerate ss = d

theorem Reachable.namesChecked (h : d.Reachable) : d.NamesChecked := by
  obtain ⟨library, ss, rfl⟩ := h
  exact (NamesChecked.empty library).tolerate ss

theorem tolerate_eq_of_steps {ss : List Step} (h : d.steps ss = .ok e) : d.tolerate ss = e := by
  induction ss generalizing d with
  | nil => exact Except.ok.inj h
  | cons s ss ih =>
      obtain ⟨c, hc, he⟩ := steps_cons_eq_ok.1 h
      rw [Document.tolerate, List.foldl_cons, hc]
      exact ih he

theorem topLevelNames_nodup (h : d.NamesChecked) : d.topLevelNames.Nodup ↔
    d.uncheckedNames.Nodup ∧ ∀ name ∈ d.uncheckedNames, name ∉ d.checkedNames := by
  rw [d.topLevelNames_perm.nodup_iff, List.nodup_append]
  constructor
  · rintro ⟨-, hnodup, hne⟩
    exact ⟨hnodup, fun name hname hname' => hne name hname' name hname rfl⟩
  · rintro ⟨hnodup, hfree⟩
    exact ⟨h.nodup, hnodup, fun x hx y hy hxy => hfree y hy (hxy ▸ hx)⟩

end Document

namespace Schema

/-! ## Documents of schemas -/

/-- The names that a document may introduce whatever its schema and its options say. -/
def fixedNames (withConnect hasBuiltins : Bool) : List Text :=
  (if withConnect then [connectGenerator, connectName] else []) ++
    if hasBuiltins then aliasNames else []

/-- The names that come from the options. -/
def Options.givenNames (o : Options) : List Text :=
  o.className :: if o.base = "" then [] else [o.base]

variable {o : Options} {cs : List Chapter}

theorem checkedNames_chapters : (o.layout.addChapters cs).document.checkedNames.Perm
    (o.className :: chapterNames false cs) := by
  have hinterfaces : ((cs.flatMap Chapter.interfaces).map Declaration.interface).flatMap
      Declaration.checkedNames = (cs.flatMap Chapter.interfaces).map InterfaceOf.name := by
    rw [List.flatMap_map, List.map_eq_flatMap]
    rfl
  have hdeclared : (o.layout.addChapters cs).document.checkedNames =
      (if cs.any Chapter.isWrapped then builtinNames else []) ++
        o.className :: (cs.flatMap Chapter.interfaces).map InterfaceOf.name := by
    rw [← hinterfaces]
    cases hb : cs.any Chapter.isWrapped <;>
      simp [Document.checkedNames, Layout.document, Layout.addChapters, Options.layout, hb,
        Declaration.checkedNames]
  rw [hdeclared]
  exact List.perm_middle.trans ((chapterNames_perm false cs).symm.cons o.className)

theorem importedNames_chapters : (o.layout.addChapters cs).document.importedNames =
    (if o.base = "" then [] else [o.base]) ++ if o.withConnect then [connectGenerator] else [] := by
  have hdeclared : (o.layout.addChapters cs).document.declarations.isEmpty = false := by
    simp [Layout.document]
  have hconnect : (connectGenerator != "") = true := by decide
  rw [Document.importedNames, hdeclared]
  by_cases hbase : o.base = "" <;> cases hc : o.withConnect <;>
    simp [Layout.document, Layout.addChapters, Options.layout, hbase, hc, hconnect]

theorem uncheckedNames_chapters : (o.layout.addChapters cs).document.uncheckedNames.Perm
    ((if o.base = "" then [] else [o.base]) ++
      fixedNames o.withConnect (cs.any Chapter.isWrapped)) := by
  have hinterfaces : ((cs.flatMap Chapter.interfaces).map Declaration.interface).flatMap
      Declaration.uncheckedNames = [] := by
    rw [List.flatMap_map, List.flatMap_eq_nil_iff]
    intro i hi
    rfl
  have hdeclared : (o.layout.addChapters cs).document.declarations.flatMap
      Declaration.uncheckedNames = (if cs.any Chapter.isWrapped then aliasNames else []) ++
        if o.withConnect then [connectName] else [] := by
    cases hb : cs.any Chapter.isWrapped <;>
      simp [Layout.document, Layout.addChapters, Options.layout, hb, hinterfaces,
        Declaration.uncheckedNames]
  rw [Document.uncheckedNames, importedNames_chapters, hdeclared, List.append_assoc]
  refine List.Perm.append_left _ ?_
  unfold fixedNames
  cases o.withConnect with
  | true =>
      rw [if_pos rfl, if_pos rfl, if_pos rfl, List.singleton_append, List.cons_append]
      exact List.perm_append_comm.cons connectGenerator
  | false => simp

theorem topLevelNames_chapters :
    (o.layout.addChapters cs).document.topLevelNames.Perm
      (o.givenNames ++ fixedNames o.withConnect (cs.any Chapter.isWrapped) ++
        chapterNames false cs) := by
  have hboth := (Document.topLevelNames_perm (o.layout.addChapters cs).document).trans
    (checkedNames_chapters.append uncheckedNames_chapters)
  refine hboth.trans ?_
  rw [Options.givenNames, List.cons_append, List.cons_append, List.cons_append]
  exact List.perm_append_comm.cons o.className

/-- A name of a schema's document is that of a builtin, of a family or of arguments. -/
theorem name_of_mem_chapterNames {ps : List (Family × Value)} {name : Text}
    (h : List.Forall₂ Chapter.Outlines ps cs) (hname : name ∈ chapterNames false cs) :
    name ∈ builtinNames ∨ (∃ f : Family, name = f.interfaceName) ∨
      ∃ path, name = argsName path := by
  rcases List.mem_append.1 ((chapterNames_perm false cs).mem_iff.1 hname) with hname | hname
  · split at hname
    · exact .inl hname
    · simp at hname
  · obtain ⟨i, hi, rfl⟩ := List.mem_map.1 hname
    obtain ⟨c, hc, hi⟩ := List.mem_flatMap.1 hi
    rcases List.mem_cons.1 hi with rfl | hi
    · exact .inr (.inl ⟨c.family, rfl⟩)
    · obtain ⟨p, -, hp⟩ := exists_outlines_of_mem h hc
      obtain ⟨keys, hkeys⟩ := hp.exists_name_eq hi
      exact .inr (.inr ⟨_, hkeys⟩)

/-- No schema makes a document declare a fixed name. -/
theorem fixedNames_notMem {ps : List (Family × Value)} {name : Text} {withConnect hasBuiltins : Bool}
    (h : List.Forall₂ Chapter.Outlines ps cs) (hname : name ∈ fixedNames withConnect hasBuiltins) :
    name ∉ chapterNames false cs := by
  have hforms : ∀ withConnect hasBuiltins, ∀ name ∈ fixedNames withConnect hasBuiltins,
      name ∉ builtinNames ∧ (∀ f ∈ Family.all, name ≠ f.interfaceName) ∧
        name.toList.getLast? ≠ some (.char 's') := by decide
  obtain ⟨hbuiltin, hfamily, hlast⟩ := hforms _ _ name hname
  intro hm
  rcases name_of_mem_chapterNames h hm with hm | ⟨f, rfl⟩ | ⟨path, rfl⟩
  · exact hbuiltin hm
  · exact hfamily f (by cases f <;> simp [Family.all]) rfl
  · exact hlast (getLast?_argsName path)

/-- Of the document of a schema, the names are different unless the class name and the base
clash with each other or with one of the fixed names, or the base with a declared one. -/
theorem topLevelNames_nodup_iff {s : Value} {d : Document} (h : compile o s = .ok d) :
    d.topLevelNames.Nodup ↔
      (o.givenNames ++ fixedNames o.withConnect (d.declarations.any Declaration.isBuiltins)).Nodup ∧
        (o.base ≠ "" → o.base ∉ d.registered) := by
  obtain ⟨es, cs, -, hcs, hnames, rfl⟩ := compile_eq_ok.1 h
  obtain ⟨hclass, hnodup⟩ := List.nodup_cons.1 hnames
  have hbuiltins : (o.layout.addChapters cs).document.declarations.any Declaration.isBuiltins =
      cs.any Chapter.isWrapped := by
    cases hb : cs.any Chapter.isWrapped <;>
      simp [Layout.document, Layout.addChapters, Options.layout, hb, Declaration.isBuiltins]
  rw [hbuiltins, registered_chapters, topLevelNames_chapters.nodup_iff, List.nodup_append]
  constructor
  · rintro ⟨hgiven, -, hne⟩
    refine ⟨hgiven, fun hbase hm => ?_⟩
    exact hne o.base (by simp [Options.givenNames, hbase]) o.base hm rfl
  · rintro ⟨hgiven, hbase⟩
    refine ⟨hgiven, hnodup, ?_⟩
    rintro name hname _ hm rfl
    rcases List.mem_append.1 hname with hname | hname
    · rcases List.mem_cons.1 hname with rfl | hname
      · exact hclass hm
      · split at hname
        · simp at hname
        · obtain rfl := List.mem_singleton.1 hname
          exact hbase ‹_› hm
    · exact fixedNames_notMem hcs hname hm

/-- A class of the name of its base is declared beside the import of the base. -/
theorem not_topLevelNames_nodup : ∃ d, compile { className := "XAPI" } (.map []) = .ok d ∧
    ¬ d.topLevelNames.Nodup :=
  ⟨_, rfl, by decide⟩

theorem reachable_of_compile {s : Value} {d : Document} (h : compile o s = .ok d) :
    d.Reachable := by
  rw [compile_eq, Except.bind_eq_ok] at h
  obtain ⟨e, he, hd⟩ := h
  obtain ⟨-, -, rfl⟩ := Except.map_eq_ok.1 hd
  exact ⟨o.library, _, Document.tolerate_eq_of_steps he⟩

/-- Names that are checked never come twice, in whatever way a document is built. So
wherever a name comes twice, an imported one, an alias or the `connect` export is involved,
and in the document of a schema it is the options that have brought it in. -/
theorem topLevelNames_clash :
    (∀ d : Document, d.Reachable → d.checkedNames.Nodup ∧
      (d.topLevelNames.Nodup ↔
        d.uncheckedNames.Nodup ∧ ∀ name ∈ d.uncheckedNames, name ∉ d.checkedNames)) ∧
    ∀ o s d, compile o s = .ok d → d.Reachable ∧
      (d.topLevelNames.Nodup ↔
        (o.givenNames ++
          fixedNames o.withConnect (d.declarations.any Declaration.isBuiltins)).Nodup ∧
            (o.base ≠ "" → o.base ∉ d.registered)) := by
  constructor
  · intro d hd
    exact ⟨hd.namesChecked.nodup, Document.topLevelNames_nodup hd.namesChecked⟩
  · intro o s d hd
    exact ⟨reachable_of_compile hd, topLevelNames_nodup_iff hd⟩

theorem topLevelNames_lineSchema : ∃ d, compile {} lineSchema = .ok d ∧
    d.checkedNames.Nodup ∧ d.topLevelNames.Nodup := by
  obtain ⟨d, hd⟩ := exists_compile_lineSchema
  obtain ⟨hreachable, hiff⟩ := topLevelNames_clash.2 {} lineSchema d hd
  refine ⟨d, hd, (topLevelNames_clash.1 d hreachable).1, hiff.2 ⟨?_, ?_⟩⟩
  · generalize d.declarations.any Declaration.isBuiltins = hasBuiltins
    cases hasBuiltins <;> decide
  · obtain rfl := Except.ok.inj hd
    decide

end Schema

end DeviceTypings
