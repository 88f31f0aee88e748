import DeviceTypings.Proofs.Document.Layout
import DeviceTypings.Proofs.Schema.Arguments
import DeviceTypings.Schema.Compile
import Mathlib.Data.List.Forall2

namespace DeviceTypings

namespace Document

theorem steps_cons_eq_ok {d e : Document} {s : Step} {ss : List Step} :
    d.steps (s :: ss) = .ok e ↔ ∃ c, d.step s = .ok c ∧ c.steps ss = .ok e := by
  rw [steps_cons, Except.bind_eq_ok]

theorem steps_append_eq_ok {d e : Document} {ss ts : List Step} :
    d.steps (ss ++ ts) = .ok e ↔ ∃ c, d.steps ss = .ok c ∧ c.steps ts = .ok e := by
  rw [steps_append, Except.bind_eq_ok]

end Document

namespace Schema

/-!
# Chapters

A chapter is a family of a schema together with the members that its outline
comes to. The document of a schema has one chapter for each family, in the order
of the schema: the interface of the family, and after it the interfaces of the
arguments of its commands. The chapters make a document exactly if no name is
declared twice.
-/

structure Chapter where
  family : Family
  nodes : List Node

namespace Chapter

def interface (c : Chapter) : Interface := { name := c.family.interfaceName, children := c.nodes }

def arguments (c : Chapter) : List Interface := Node.argumentsIn c.nodes

def interfaces (c : Chapter) : List Interface := c.interface :: c.arguments

/-- The member of the main class that leads to the chapter. -/
def entry (c : Chapter) : Node := .member { name := c.family.memberName, type := c.family.type }

/-- Whether the family needs the builtins for its alias. -/
def isWrapped (c : Chapter) : Bool := c.family.wrapper?.isSome

/-- The names that a chapter declares, the builtins only if they are missing. -/
def names (hasBuiltins : Bool) (c : Chapter) : List Text :=
  (if c.isWrapped && !hasBuiltins then builtinNames else []) ++ c.interfaces.map InterfaceOf.name

def steps (hasBuiltins : Bool) (c : Chapter) : List Step :=
  (if c.isWrapped && !hasBuiltins then [.addBuiltins] else []) ++
    .addInterface c.family.interfaceName [] :: .extend { owner := .main } [c.entry] ::
      (declareAll c.arguments ++
        [.extend { owner := .interface c.family.interfaceName } c.nodes])

end Chapter

/-- The names that chapters declare one after the other. -/
def chapterNames : Bool → List Chapter → List Text
  | _, [] => []
  | hasBuiltins, c :: cs => c.names hasBuiltins ++ chapterNames (hasBuiltins || c.isWrapped) cs

def chapterSteps : Bool → List Chapter → List Step
  | _, [] => []
  | hasBuiltins, c :: cs => c.steps hasBuiltins ++ chapterSteps (hasBuiltins || c.isWrapped) cs

end Schema

namespace Layout

open Schema

def addChapters (l : Layout) (cs : List Chapter) : Layout where
  library := l.library
  imports := l.imports
  hasBuiltins := l.hasBuiltins || cs.any Chapter.isWrapped
  main := { l.main with children := l.main.children ++ cs.map Chapter.entry }
  interfaces := l.interfaces ++ cs.flatMap Chapter.interfaces
  registered := l.registered ++ chapterNames l.hasBuiltins cs

variable {l : Layout} {d : Document} {i : Interface} {is : List Interface} {c : Chapter}
  {cs : List Chapter}

@[simp] theorem names_addChapters (l : Layout) (cs : List Chapter) :
    (l.addChapters cs).names = l.names ++ chapterNames l.hasBuiltins cs := rfl

theorem addChapters_nil (l : Layout) : l.addChapters [] = l := by
  simp [addChapters, chapterNames]

theorem addChapters_cons (l : Layout) (c : Chapter) (cs : List Chapter) :
    l.addChapters (c :: cs) = (l.addChapters [c]).addChapters cs := by
  simp [addChapters, chapterNames, Bool.or_assoc]

theorem WellNamed.addChapters (h : l.WellNamed) (hn : (l.names ++ c.names l.hasBuiltins).Nodup) :
    (l.addChapters [c]).WellNamed := by
  refine ⟨by simpa [chapterNames] using hn, ?_⟩
  intro i hi
  have hi' : i ∈ l.interfaces ∨ i ∈ c.interfaces := by simpa [Layout.addChapters] using hi
  have hr : (l.addChapters [c]).registered = l.registered ++ c.names l.hasBuiltins := by
    simp [Layout.addChapters, chapterNames]
  rw [hr]
  rcases hi' with hi | hi
  · exact List.mem_append_left _ (h.registered_of_mem i hi)
  · exact List.mem_append_right _ (List.mem_append_right _ (List.mem_map_of_mem hi))

theorem WellNamed.notMem_names_iff (h : l.WellNamed) {name : Text} :
    name ∉ l.names ↔ (l.names ++ [name]).Nodup := by
  rw [List.nodup_append]
  constructor
  · intro hn
    exact ⟨h.names_nodup, by simp, by grind⟩
  · intro hn hm
    exact hn.2.2 _ hm _ (List.mem_singleton.2 rfl) rfl

/-- Declaring an interface works exactly if its name is new. -/
theorem steps_declare (h : l.WellNamed) (hi : i.bases = []) :
    l.document.steps (declare i) = .ok d ↔
      i.name ∉ l.names ∧ d = (l.addInterfaces [i]).document := by
  have hextend (hn : i.name ∉ l.names) :
      (l.addInterfaces [{ name := i.name }]).document.extend { owner := .interface i.name }
        i.children = .ok (l.addInterfaces [i]).document := by
    have hl : (l.addInterfaces [{ name := i.name }]).interfaces =
        l.interfaces ++ { name := i.name } :: [] := rfl
    have he := extendInterface_document i.children hl (h.notMem_interfaces hn)
    have hii : ({ name := i.name, children := [] ++ i.children } : Interface) = i := by
      cases i
      cases hi
      rfl
    rw [hii] at he
    exact he
  simp only [declare, Document.steps_cons_eq_ok, Document.step, addInterface_document,
    Document.steps_nil]
  constructor
  · rintro ⟨_, ⟨hn, rfl⟩, e, he, hd⟩
    rw [hextend hn] at he
    exact ⟨hn, by rw [← Except.ok.inj hd, Except.ok.inj he]⟩
  · rintro ⟨hn, rfl⟩
    exact ⟨_, ⟨hn, rfl⟩, _, hextend hn, rfl⟩

theorem steps_declareAll (h : l.WellNamed) (hi : ∀ i ∈ is, i.bases = []) :
    l.document.steps (declareAll is) = .ok d ↔
      (l.names ++ is.map InterfaceOf.name).Nodup ∧ d = (l.addInterfaces is).document := by
  induction is generalizing l with
  | nil => simp [addInterfaces_nil, h.names_nodup, eq_comm]
  | cons i is ih =>
      have hsteps : declareAll (i :: is) = declare i ++ declareAll is := List.flatMap_cons
      have hnames : l.names ++ (i :: is).map InterfaceOf.name =
          (l.names ++ [i].map InterfaceOf.name) ++ is.map InterfaceOf.name := by simp
      rw [hsteps, hnames, addInterfaces_cons, Document.steps_append_eq_ok]
      simp only [steps_declare h (hi i List.mem_cons_self)]
      have hone : i.name ∉ l.names ↔ (l.names ++ [i].map InterfaceOf.name).Nodup :=
        h.notMem_names_iff
      constructor
      · rintro ⟨_, ⟨hn, rfl⟩, hd⟩
        exact (ih (h.addInterfaces (hone.1 hn)) fun j hj => hi j (List.mem_cons_of_mem _ hj)).1 hd
      · rintro ⟨hn, hd⟩
        have hn' := (List.nodup_append.1 hn).1
        exact ⟨_, ⟨hone.2 hn', rfl⟩,
          (ih (h.addInterfaces hn') fun j hj => hi j (List.mem_cons_of_mem _ hj)).2 ⟨hn, hd⟩⟩

/-- The builtins of a chapter that needs them. -/
def withBuiltins (l : Layout) (needed : Bool) : Layout := if needed then l.addBuiltins else l

theorem names_withBuiltins (l : Layout) (needed : Bool) :
    (l.withBuiltins needed).names = l.names ++ if needed then builtinNames else [] := by
  cases needed <;> simp [withBuiltins]

theorem WellNamed.withBuiltins (h : l.WellNamed) {needed : Bool}
    (hn : (l.names ++ if needed then builtinNames else []).Nodup) :
    (l.withBuiltins needed).WellNamed := by
  cases needed with
  | false => exact h
  | true => exact h.addBuiltins hn

theorem steps_withBuiltins (h : l.WellNamed) {needed : Bool}
    (hb : needed = true → l.hasBuiltins = false) :
    l.document.steps (if needed then [.addBuiltins] else []) = .ok d ↔
      (l.names ++ if needed then builtinNames else []).Nodup ∧
        d = (l.withBuiltins needed).document := by
  cases needed with
  | false => simp [withBuiltins, h.names_nodup, eq_comm]
  | true =>
      have hn : (l.names ++ builtinNames).Nodup ↔ ∀ name ∈ builtinNames, name ∉ l.names := by
        rw [List.nodup_append]
        have hd : builtinNames.Nodup := by decide
        exact ⟨fun ⟨_, _, hne⟩ name hm hl => hne name hl name hm rfl,
          fun hne => ⟨h.names_nodup, hd, fun a ha b hb hab => hne b hb (hab ▸ ha)⟩⟩
      simp only [if_true, hn, withBuiltins, Document.steps_cons_eq_ok, Document.step,
        addBuiltins_document (hb rfl), Document.steps_nil]
      constructor
      · rintro ⟨_, ⟨hne, rfl⟩, hd⟩
        exact ⟨hne, (Except.ok.inj hd).symm⟩
      · rintro ⟨hne, rfl⟩
        exact ⟨_, ⟨hne, rfl⟩, rfl⟩

/-- The steps of a chapter once the builtins are there. -/
theorem steps_interfaces (h : l.WellNamed) (hc : ∀ i ∈ c.arguments, i.bases = []) :
    l.document.steps (.addInterface c.family.interfaceName [] ::
        .extend { owner := .main } [c.entry] :: (declareAll c.arguments ++
          [.extend { owner := .interface c.family.interfaceName } c.nodes])) = .ok d ↔
      (l.names ++ c.interfaces.map InterfaceOf.name).Nodup ∧
        d = ((l.extendMain [c.entry]).addInterfaces c.interfaces).document := by
  let first : Interface := { name := c.family.interfaceName }
  let opened := (l.addInterfaces [first]).extendMain [c.entry]
  have hnames : l.names ++ c.interfaces.map InterfaceOf.name =
      opened.names ++ c.arguments.map InterfaceOf.name := by
    simp [opened, first, Chapter.interfaces, Chapter.interface]
  have hopened (hn : first.name ∉ l.names) : opened.WellNamed := by
    have hf : (l.names ++ [first].map InterfaceOf.name).Nodup := h.notMem_names_iff.1 hn
    exact (h.addInterfaces hf).extendMain _
  have hclose (hn : first.name ∉ l.names) :
      (opened.addInterfaces c.arguments).document.extend { owner := .interface first.name }
        c.nodes = .ok ((l.extendMain [c.entry]).addInterfaces c.interfaces).document := by
    have hi : (opened.addInterfaces c.arguments).interfaces =
        l.interfaces ++ first :: c.arguments := by
      simp [opened, addInterfaces, extendMain]
    rw [extendInterface_document c.nodes hi (h.notMem_interfaces hn)]
    simp [opened, first, addInterfaces, extendMain, Chapter.interfaces, Chapter.interface]
  simp only [Document.steps_cons_eq_ok, Document.steps_append_eq_ok, Document.step,
    addInterface_document, Document.steps_nil]
  constructor
  · rintro ⟨_, ⟨hn, rfl⟩, _, hmain, e, hargs, f, hf, hd⟩
    rw [extendMain_document] at hmain
    obtain rfl := Except.ok.inj hmain
    obtain ⟨hn', rfl⟩ := (steps_declareAll (hopened hn) hc).1 hargs
    rw [hclose hn] at hf
    exact ⟨hnames ▸ hn', by rw [← Except.ok.inj hd, Except.ok.inj hf]⟩
  · rintro ⟨hn, rfl⟩
    have hf : first.name ∉ l.names := by
      intro hm
      exact (List.nodup_append.1 hn).2.2 _ hm _ (by simp [first, Chapter.interfaces,
        Chapter.interface]) rfl
    exact ⟨_, ⟨hf, rfl⟩, _, extendMain_document _, _,
      (steps_declareAll (hopened hf) hc).2 ⟨hnames ▸ hn, rfl⟩, _, hclose hf, rfl⟩

/-- A chapter can be added exactly if its names are new. -/
theorem steps_chapter (h : l.WellNamed) (hc : ∀ i ∈ c.arguments, i.bases = []) :
    l.document.steps (c.steps l.hasBuiltins) = .ok d ↔
      (l.names ++ c.names l.hasBuiltins).Nodup ∧ d = (l.addChapters [c]).document := by
  have hneeded : (c.isWrapped && !l.hasBuiltins) = true → l.hasBuiltins = false := by
    simp
  have hadd : l.addChapters [c] =
      ((l.withBuiltins (c.isWrapped && !l.hasBuiltins)).extendMain [c.entry]).addInterfaces
        c.interfaces := by
    cases hb : l.hasBuiltins <;> cases hw : c.isWrapped <;>
      simp [addChapters, withBuiltins, addBuiltins, extendMain, addInterfaces, chapterNames,
        Chapter.names, hb, hw]
  rw [Chapter.steps, Chapter.names, Document.steps_append_eq_ok, hadd, ← List.append_assoc,
    ← names_withBuiltins]
  simp only [steps_withBuiltins h hneeded]
  constructor
  · rintro ⟨_, ⟨hn, rfl⟩, hd⟩
    exact (steps_interfaces (h.withBuiltins hn) hc).1 hd
  · rintro ⟨hn, hd⟩
    have hn' := names_withBuiltins l _ ▸ (List.nodup_append.1 hn).1
    exact ⟨_, ⟨hn', rfl⟩, (steps_interfaces (h.withBuiltins hn') hc).2 ⟨hn, hd⟩⟩

theorem steps_chapters (h : l.WellNamed) (hcs : ∀ c ∈ cs, ∀ i ∈ c.arguments, i.bases = []) :
    l.document.steps (chapterSteps l.hasBuiltins cs) = .ok d ↔
      (l.names ++ chapterNames l.hasBuiltins cs).Nodup ∧ d = (l.addChapters cs).document := by
  induction cs generalizing l with
  | nil => simp [chapterSteps, chapterNames, addChapters_nil, h.names_nodup, eq_comm]
  | cons c cs ih =>
      have hc := hcs c List.mem_cons_self
      have hcs' : ∀ c ∈ cs, ∀ i ∈ c.arguments, i.bases = [] :=
        fun c hm => hcs c (List.mem_cons_of_mem _ hm)
      -- Whether the builtins are missing for the rest is decided by this chapter.
      have hb : (l.addChapters [c]).hasBuiltins = (l.hasBuiltins || c.isWrapped) := by
        simp [addChapters]
      have hnames : (l.addChapters [c]).names = l.names ++ c.names l.hasBuiltins := by
        simp [chapterNames]
      rw [chapterSteps, chapterNames, addChapters_cons, Document.steps_append_eq_ok,
        ← List.append_assoc, ← hb, ← hnames]
      simp only [steps_chapter h hc]
      constructor
      · rintro ⟨_, ⟨hn, rfl⟩, hd⟩
        exact (ih (h.addChapters hn) hcs').1 hd
      · rintro ⟨hn, hd⟩
        have hn' := hnames ▸ (List.nodup_append.1 hn).1
        exact ⟨_, ⟨hn', rfl⟩, (ih (h.addChapters hn') hcs').2 ⟨hn, hd⟩⟩

end Layout

end DeviceTypings
