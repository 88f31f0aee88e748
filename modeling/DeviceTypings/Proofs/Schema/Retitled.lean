import DeviceTypings.Proofs.Document.Checks
import DeviceTypings.Proofs.Document.Reading
import DeviceTypings.Proofs.Document.TopLevel

namespace DeviceTypings

open Schema (Options)

/-!
# Options

The options of a schema decide about the import of its document and about the head of the
main class, and about nothing else. Two runs with different options take the same steps side
by side until an interface is declared that has the name of the other main class.
-/

/-- The class with the head that the options want, and with its own members. -/
def MainClass.retitled (o : Options) (m : MainClass) : MainClass :=
  { m with name := o.className, base := o.base, withConnect := o.withConnect }

def Declaration.retitled (o : Options) : Declaration → Declaration
  | main m => main (m.retitled o)
  | x => x

/-- The document with the import and the main class that the options want. -/
def Document.retitled (o : Options) (d : Document) : Document :=
  { d with
    library := o.library
    imports := o.layout.imports
    declarations := d.declarations.map (Declaration.retitled o) }

/-- What becomes of the run that made the document when the options are others. It fails if
one of its steps registers the name of the other main class. -/
def Document.reissued (o : Options) (d : Document) : Except Fault Document :=
  if o.className ∈ d.registered then .error (.duplicate o.className) else .ok (d.retitled o)

variable {o : Options} {d e : Document}

theorem Owner.update?_retitled (owner : Owner) (f : List Node → Option (List Node))
    (x : Declaration) :
    owner.update? f (x.retitled o) = (owner.update? f x).map (Declaration.retitled o) := by
  cases owner with
  | main =>
      cases x with
      | main m =>
          simp only [Declaration.retitled, update?, Option.map_map]
          rfl
      | _ => rfl
  | interface name =>
      cases x with
      | interface i =>
          simp only [Declaration.retitled, update?, Option.map_map,
            apply_ite (Option.map (Declaration.retitled o)), Option.map_none]
          rfl
      | _ => rfl

namespace Document

@[simp] theorem registered_retitled (o : Options) (d : Document) :
    (d.retitled o).registered = d.registered := rfl

theorem mainName_retitled (hmain : d.scope.mainName ≠ none) :
    (d.retitled o).scope.mainName = some o.className := by
  have hhead : Declaration.main? ∘ Declaration.retitled o =
      fun x => x.main?.map (MainClass.retitled o) := funext fun x => by cases x <;> rfl
  have hmain? : (d.retitled o).main? = d.main?.map (MainClass.retitled o) := by
    rw [main?, main?, List.map_findSome?, retitled, List.findSome?_map, hhead]
    rfl
  cases hm : d.main? with
  | none => simp [scope, hm] at hmain
  | some m => simp [scope, hmain?, hm, MainClass.retitled]

/-- A document under a new title declares what it had registered, and the new name. -/
theorem declares_retitled (hmain : d.scope.mainName ≠ none) {name : Text} :
    (d.retitled o).scope.declares name = true ↔ name ∈ d.registered ∨ name = o.className := by
  rw [Scope.declares_iff, mainName_retitled hmain, Option.some_inj, eq_comm (a := o.className)]
  rfl

theorem notMem_registered {name : Text} (h : d.scope.declares name = false) :
    name ∉ d.registered := by
  rw [← Bool.not_eq_true, Scope.declares_iff] at h
  exact fun hname => h (.inl hname)

/-! ## One step -/

theorem step_keeps {t : Step} (hmain : d.scope.mainName ≠ none) (h : d.step t = .ok e) :
    e.scope.mainName ≠ none ∧ d.registered ⊆ e.registered := by
  cases t with
  | addInterface name bases =>
      obtain ⟨-, rfl⟩ := Except.map_unit_eq_ok.1 h
      refine ⟨?_, List.subset_append_left _ _⟩
      simp only [scope, main?, List.findSome?_append, ne_eq, Option.map_eq_none_iff] at hmain ⊢
      simp [hmain]
  | addMain name base withConnect =>
      obtain ⟨hcheck, -⟩ := Except.map_unit_eq_ok.1 h
      exact absurd (Scope.checkMain_eq_ok.1 hcheck).1 hmain
  | addBuiltins =>
      obtain ⟨-, rfl⟩ := Except.map_unit_eq_ok.1 h
      exact ⟨hmain, List.subset_append_left _ _⟩
  | extend place nodes =>
      rw [step, Document.extend] at h
      split at h
      · rename_i ds hds
        obtain rfl := Except.ok.inj h
        refine ⟨?_, List.Subset.refl _⟩
        rwa [scope, main?, (Owner.updateFirst?_names hds).2]
      · simp at h

theorem addInterface_retitled {name : Text} {bases : List Text}
    (hmain : d.scope.mainName ≠ none) (hnew : o.className ∉ d.registered)
    (h : d.addInterface name bases = .ok e) :
    (d.retitled o).addInterface name bases = e.reissued o := by
  obtain ⟨hcheck, rfl⟩ := Except.map_unit_eq_ok.1 h
  obtain ⟨hfree, hbases⟩ := Scope.checkInterface_eq_ok.1 hcheck
  -- All names that the first run found free are free here, apart from the new class name.
  by_cases hname : o.className = name
  · have hfault : (d.retitled o).scope.checkInterface name bases =
        .error (.duplicate o.className) :=
      Scope.checkInterface_eq_error.2
        (.inl ⟨(declares_retitled hmain).2 (.inr hname.symm), by rw [hname]⟩)
    rw [reissued, if_pos (by simp [hname]), addInterface, hfault]
    rfl
  · have hfree' : (d.retitled o).scope.declares name = false := by
      rw [← Bool.not_eq_true, declares_retitled hmain]
      exact fun hor => hor.elim (notMem_registered hfree) fun heq => hname heq.symm
    have hcheck' := Scope.checkInterface_eq_ok.2 ⟨hfree', hbases⟩
    rw [reissued, if_neg (by simp [hnew, hname]), addInterface, hcheck']
    simp [Except.map, retitled, Declaration.retitled]

theorem addBuiltins_retitled (hmain : d.scope.mainName ≠ none)
    (hnew : o.className ∉ d.registered) (h : d.addBuiltins = .ok e) :
    (d.retitled o).addBuiltins = e.reissued o := by
  obtain ⟨hcheck, rfl⟩ := Except.map_unit_eq_ok.1 h
  have hfree := Scope.checkBuiltins_eq_ok.1 hcheck
  have hfree' : ∀ b ∈ builtinNames, b ≠ o.className →
      (d.retitled o).scope.declares b = false := by
    intro b hb hne
    rw [← Bool.not_eq_true, declares_retitled hmain]
    exact fun hor => hor.elim (notMem_registered (hfree b hb)) hne
  -- The first name of the builtins that is taken is the one reported, and only the class
  -- name can be taken.
  by_cases hname : o.className ∈ builtinNames
  · obtain ⟨before, after, hsplit, hbefore⟩ := List.eq_append_cons_of_mem hname
    have hfirst : ∀ b ∈ before, (d.retitled o).scope.declares b = false := fun b hb =>
      hfree' b (by simp [hsplit, hb]) (fun heq => hbefore (heq ▸ hb))
    have hfault : (d.retitled o).scope.checkBuiltins = .error (.duplicate o.className) :=
      Scope.checkBuiltins_eq_error.2
        ⟨_, before, after, hsplit, (declares_retitled hmain).2 (.inr rfl), hfirst, rfl⟩
    rw [reissued, if_pos (List.mem_append_right _ hname), addBuiltins, hfault]
    rfl
  · have hcheck' := Scope.checkBuiltins_eq_ok.2 fun b hb =>
      hfree' b hb fun heq => hname (heq ▸ hb)
    rw [reissued, if_neg (by simp [hnew, hname]), addBuiltins, hcheck']
    simp [Except.map, retitled, Declaration.retitled]

theorem extend_retitled {place : Place} {nodes : List Node} (hnew : o.className ∉ d.registered)
    (h : d.extend place nodes = .ok e) : (d.retitled o).extend place nodes = e.reissued o := by
  have hupdate := Owner.updateFirst?_map
    (place.owner.update?_retitled (o := o) (extendNodes place.path nodes)) d.declarations
  rw [Document.extend] at h
  split at h
  · rename_i ds hds
    obtain rfl := Except.ok.inj h
    rw [reissued, if_neg hnew, Document.extend, retitled, hupdate, hds]
    rfl
  · simp at h

theorem step_retitled {t : Step} (hmain : d.scope.mainName ≠ none)
    (hnew : o.className ∉ d.registered) (h : d.step t = .ok e) :
    (d.retitled o).step t = e.reissued o := by
  cases t with
  | addInterface name bases => exact addInterface_retitled hmain hnew h
  | addMain name base withConnect =>
      obtain ⟨hcheck, -⟩ := Except.map_unit_eq_ok.1 h
      exact absurd (Scope.checkMain_eq_ok.1 hcheck).1 hmain
  | addBuiltins => exact addBuiltins_retitled hmain hnew h
  | extend place nodes => exact extend_retitled hnew h

/-! ## Runs -/

theorem steps_keep {ts : List Step} (hmain : d.scope.mainName ≠ none)
    (h : d.steps ts = .ok e) : d.registered ⊆ e.registered := by
  induction ts generalizing d with
  | nil =>
      obtain rfl := Except.ok.inj h
      exact List.Subset.refl _
  | cons t ts ih =>
      obtain ⟨c, hc, he⟩ := steps_cons_eq_ok.1 h
      obtain ⟨hmain', hsubset⟩ := step_keeps hmain hc
      exact fun name hname => ih hmain' he (hsubset hname)

/-- Two runs stay side by side until the first clash, and a name that clashes once is never
free again. -/
theorem steps_retitled {ts : List Step} (hmain : d.scope.mainName ≠ none)
    (hnew : o.className ∉ d.registered) (h : d.steps ts = .ok e) :
    (d.retitled o).steps ts = e.reissued o := by
  induction ts generalizing d with
  | nil =>
      obtain rfl := Except.ok.inj h
      rw [reissued, if_neg hnew, steps_nil]
  | cons t ts ih =>
      obtain ⟨c, hc, he⟩ := steps_cons_eq_ok.1 h
      obtain ⟨hmain', -⟩ := step_keeps hmain hc
      rw [steps_cons, step_retitled hmain hnew hc]
      by_cases hclash : o.className ∈ c.registered
      · rw [reissued, if_pos hclash, reissued, if_pos (steps_keep hmain' he hclash)]
        rfl
      · rw [reissued, if_neg hclash]
        exact ih hmain' hclash he

end Document

namespace Schema

/-! ## Schemas -/

variable {s : Value}

/-- The layout of chapters is the same for all options, apart from the title. -/
theorem retitled_chapters (o o' : Options) (cs : List Chapter) :
    (o.layout.addChapters cs).document.retitled o' = (o'.layout.addChapters cs).document := by
  have hinterfaces (is : List Interface) :
      (is.map Declaration.interface).map (Declaration.retitled o') = is.map .interface := by
    rw [List.map_map]
    rfl
  have hbuiltins (b : Bool) : (if b then [Declaration.builtins] else []).map
      (Declaration.retitled o') = if b then [.builtins] else [] := by
    cases b <;> rfl
  simp only [Document.retitled, Layout.document, List.map_append, List.map_cons, hinterfaces,
    hbuiltins]
  rfl

/-- The steps after the first, and the fault of the schema, do not depend on the options. -/
theorem compile_eq_bind_families {es : Entries} (hs : s.bare = .map es) (o : Options) :
    compile o s = (o.layout.document.steps (families false es).steps).bind fun d =>
      (families false es).result.map fun _ => d := by
  have hscript : script o s =
      Script.step (.addMain o.className o.base o.withConnect) >>= fun _ => families false es := by
    rw [script, hs]
  have hsteps : (script o s).steps =
      .addMain o.className o.base o.withConnect :: (families false es).steps := by
    rw [hscript]
    rfl
  have hresult : (script o s).result = (families false es).result := by
    rw [hscript]
    rfl
  rw [compile_eq, hsteps, hresult, Document.steps_cons, Document.step, addMain_empty]
  rfl

theorem compile_eq_of_compile {o o' : Options} (h : compile o s = .ok d) :
    compile o' s = d.reissued o' := by
  obtain ⟨es, -, hs, -⟩ := compile_eq_ok.1 h
  rw [compile_eq_bind_families hs, Except.bind_eq_ok] at h
  obtain ⟨e, hsteps, he⟩ := h
  obtain ⟨hresult, rfl⟩ := Except.map_unit_eq_ok.1 he
  have hmain : o.layout.document.scope.mainName ≠ none := by simp
  have hrun : o'.layout.document.steps (families false es).steps = e.reissued o' :=
    Document.steps_retitled hmain List.not_mem_nil hsteps
  rw [compile_eq_bind_families hs, hrun, hresult]
  cases e.reissued o' <;> rfl

/-! ## Texts -/

/-- What the options leave alone in a text: the blocks from the import to the main class, the
end of the header of its interface, and all lines after the header. -/
structure Frame where
  between : List (List Text)
  opening : Text
  members : List Text

namespace Frame

/-- The lines that the options fill in are the import, the class, its exports, and the header
of its interface. -/
def lines (f : Frame) (o : Options) : List Text :=
  Render.spaced ([o.layout.imports.render] :: (f.between ++
    [[Render.classDeclaration o.className o.base], o.layout.main.exports,
      (Render.interfaceHeader o.className [] ++ f.opening) :: f.members]))

def text (f : Frame) (o : Options) : Text := Text.ofList (Render.feed (f.lines o))

end Frame

theorem exists_interfaceLines_eq (ns : List Node) : ∃ opening members, ∀ name,
    Render.interfaceLines name [] ns = (Render.interfaceHeader name [] ++ opening) :: members := by
  cases ns with
  | nil => exact ⟨" \x7b\x7d", [], fun name => rfl⟩
  | cons n ns => exact ⟨" \x7b", _, fun name => rfl⟩

theorem exists_render_eq (cs : List Chapter) : ∃ f : Frame, ∀ o : Options,
    (o.layout.addChapters cs).document.render = f.text o := by
  obtain ⟨opening, members, hlines⟩ := exists_interfaceLines_eq (cs.map Chapter.entry)
  refine ⟨⟨(if cs.any Chapter.isWrapped then [[Render.builtins]] else []) ++
    (cs.flatMap Chapter.interfaces).map fun i => Render.interfaceLines i.name i.bases i.children,
    opening, members⟩, fun o => ?_⟩
  have hexports : o.layout.main.exports.isEmpty = false := by
    simp [MainClass.exports, Options.layout]
  have hmain : (Declaration.main (o.layout.addChapters cs).main).blocks =
      [[Render.classDeclaration o.className o.base], o.layout.main.exports,
        (Render.interfaceHeader o.className [] ++ opening) :: members] := by
    rw [← hlines, Declaration.blocks]
    show _ :: ((if o.layout.main.exports.isEmpty then _ else [o.layout.main.exports]) ++ _) = _
    rw [hexports]
    rfl
  have hdeclarations : (o.layout.addChapters cs).document.declarations ≠ [] := by
    simp [Layout.document]
  rw [← Text.toList_inj, Document.toList_render hdeclarations, Layout.blocks_document,
    Layout.blocksOf, hmain, Frame.text, Text.toList_ofList, Frame.lines, List.append_assoc]
  rfl

/-- Other options give another title to the same document, unless the name of the main class
is registered in it. The texts are one frame, filled in by the options. -/
theorem compile_retitled (h : compile o s = .ok d) :
    (∀ o' : Options, compile o' s =
      if o'.className ∈ d.registered then .error (.duplicate o'.className)
      else .ok (d.retitled o')) ∧
    ∃ f : Frame, ∀ o' : Options, o'.className ∉ d.registered →
      generate o' s = .ok (f.text o') := by
  refine ⟨fun o' => compile_eq_of_compile h, ?_⟩
  obtain ⟨es, cs, -, -, -, rfl⟩ := compile_eq_ok.1 h
  obtain ⟨f, hf⟩ := exists_render_eq cs
  refine ⟨f, fun o' hnew => ?_⟩
  rw [generate, compile_eq_of_compile h, Document.reissued, if_neg hnew, retitled_chapters,
    Except.map, hf]

theorem retitled_lineSchema : ∃ d, compile {} lineSchema = .ok d ∧
    compile { className := "LineClient", withConnect := false } lineSchema =
      .ok (d.retitled { className := "LineClient", withConnect := false }) ∧
    compile { className := "StatusTree" } lineSchema = .error (.duplicate "StatusTree") := by
  obtain ⟨d, hd⟩ := exists_compile_lineSchema
  have hregistered : (compile {} lineSchema).map Document.registered = .ok
      ["CommandTree", "CommandDialArgs", "CommandLine1HoldArgs", "CommandLineDropArgs",
        "Gettable", "Settable", "Listenable", "StatusTree"] := rfl
  rw [hd] at hregistered
  have hnames := Except.ok.inj hregistered
  have hothers := (compile_retitled hd).1
  exact ⟨d, hd, (hothers _).trans (if_neg (by rw [hnames]; decide)),
    (hothers _).trans (if_pos (by rw [hnames]; decide))⟩

end Schema

end DeviceTypings
