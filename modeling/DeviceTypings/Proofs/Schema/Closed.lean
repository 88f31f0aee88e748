import DeviceTypings.Proofs.Schema.Compiled

namespace DeviceTypings

/-!
# Closed documents

In the document of a schema every reference leads to a declared interface, and
every declared interface has exactly one reference. The interface of a family is
the target of one member of the main class. Any other interface is that of the
arguments of one command.
-/

/-- The interface that a type refers to by its name or as the argument of an alias. -/
def TypeExpr.target? : TypeExpr → Option Text
  | plain name => some name
  | generic _ interface => some interface
  | _ => none

def TypeExpr.isGeneric : TypeExpr → Bool
  | generic _ _ => true
  | _ => false

namespace Node

def target? : Node → Option Text
  | member m => m.type.target?
  | _ => none

def isGeneric : Node → Bool
  | member m => m.type.isGeneric
  | _ => false

end Node

namespace Document

def mainMembers (d : Document) : List Node := (d.main?.map MainClass.children).getD []

/-- The commands at any depth of the main class and of all interfaces. -/
def commands (d : Document) : List Command :=
  Node.commandsIn (d.mainMembers ++ d.interfaces.flatMap InterfaceOf.children)

/-- The interfaces that commands take their arguments as, once for each command. -/
def arguments (d : Document) : List Interface := d.commands.filterMap CommandOf.args

/-- The interfaces that members of the main class refer to, once for each member. -/
def targets (d : Document) : List Text := d.mainMembers.filterMap Node.target?

structure Closed (d : Document) : Prop where
  arguments_declared : ∀ i ∈ d.arguments, i.name ∈ d.registered ∧ d.interface? i.name = some i
  targets_declared : ∀ n ∈ d.mainMembers, ∃ f : Schema.Family, ∃ i,
    n.target? = some f.interfaceName ∧ f.interfaceName ∈ d.registered ∧
      d.interface? f.interfaceName = some i
  builtins_of_isGeneric : ∀ n ∈ d.mainMembers, n.isGeneric = true → .builtins ∈ d.declarations
  /-- No interface is referred to in both ways, and none is left over. -/
  referred_once : ∀ i ∈ d.interfaces,
    ((∃ f : Schema.Family, i.name = f.interfaceName) ∧
      d.targets.count i.name = 1 ∧ (d.arguments.map InterfaceOf.name).count i.name = 0) ∨
    ((¬ ∃ f : Schema.Family, i.name = f.interfaceName) ∧
      d.targets.count i.name = 0 ∧ (d.arguments.map InterfaceOf.name).count i.name = 1)
  isWord : ∀ i ∈ d.interfaces, Text.isWord i.name.toList = true

end Document

namespace Text

theorem isWord_append {cs ds : List CodePoint} (hc : isWord cs = true)
    (hd : ds.all isIdentifierPart = true) : isWord (cs ++ ds) = true := by
  cases cs with
  | nil => simp [isWord] at hc
  | cons c cs => simp_all [isWord]

theorem all_sanitize (name : Text) : (sanitize name).toList.all isIdentifierPart = true := by
  simp [sanitize]

end Text

namespace Schema

variable {l : Layout} {c : Chapter} {cs : List Chapter}

/-! ## Names of interfaces -/

theorem isWord_argsName (f : Family) (keys : List Text) :
    Text.isWord (argsName (f.key :: keys)).toList = true := by
  have hkey : Text.isWord (Text.sanitize f.key).toList = true := by cases f <;> decide
  rw [toList_argsName, List.flatMap_cons, List.append_assoc]
  apply Text.isWord_append hkey
  rw [List.all_append, Bool.and_eq_true, List.all_flatMap]
  exact ⟨by simp [Text.all_sanitize], by decide⟩

theorem isWord_interfaceName (f : Family) : Text.isWord f.interfaceName.toList = true := by
  cases f <;> decide

/-! ## The document of chapters -/

variable {o : Options}

theorem mainMembers_chapters :
    (o.layout.addChapters cs).document.mainMembers = cs.map Chapter.entry := by
  simp [Document.mainMembers, Layout.addChapters, Options.layout]

theorem target?_entry (c : Chapter) : c.entry.target? = some c.family.interfaceName := by
  obtain ⟨f, ns⟩ := c
  cases f <;> rfl

theorem isGeneric_entry (c : Chapter) : c.entry.isGeneric = c.isWrapped := by
  obtain ⟨f, ns⟩ := c
  cases f <;> rfl

theorem targets_chapters :
    (o.layout.addChapters cs).document.targets = cs.map fun c => c.interface.name := by
  rw [Document.targets, mainMembers_chapters, List.filterMap_map,
    show Node.target? ∘ Chapter.entry = some ∘ fun c => c.interface.name from
      funext target?_entry, ← List.filterMap_map, List.filterMap_some]

/-- The members of arguments are no commands, so each command is met once. -/
theorem arguments_chapters {ps : List (Family × Value)}
    (h : List.Forall₂ Chapter.Outlines ps cs) :
    (o.layout.addChapters cs).document.arguments = cs.flatMap Chapter.arguments := by
  have hentries : Node.commandsIn (cs.map Chapter.entry) = [] := by
    apply Node.commandsIn_of_isMember
    intro n hn
    obtain ⟨c, -, rfl⟩ := List.mem_map.1 hn
    rfl
  have hchapter (c : Chapter) (hc : c ∈ cs) :
      Node.argumentsIn (c.interfaces.flatMap InterfaceOf.children) = c.arguments := by
    have hargs : Node.commandsIn (c.arguments.flatMap InterfaceOf.children) = [] := by
      apply Node.commandsIn_of_isMember
      intro n hn
      obtain ⟨i, hi, hni⟩ := List.mem_flatMap.1 hn
      obtain ⟨p, -, hp⟩ := exists_outlines_of_mem h hc
      obtain ⟨ts, hts⟩ := hp.declares
      exact (hts.isArguments i hi).isMember n hni
    simp only [Node.argumentsIn, Chapter.interfaces, List.flatMap_cons, Node.commandsIn_append,
      hargs, List.append_nil]
    rfl
  -- For any chapters of the document, so that the induction does not run over `cs` itself.
  have hall : ∀ ds : List Chapter, (∀ c ∈ ds, c ∈ cs) →
      Node.argumentsIn ((ds.flatMap Chapter.interfaces).flatMap InterfaceOf.children) =
        ds.flatMap Chapter.arguments := by
    intro ds hds
    induction ds with
    | nil => rfl
    | cons c ds ih =>
        rw [List.flatMap_cons, List.flatMap_append, Node.argumentsIn_append,
          hchapter c (hds c List.mem_cons_self), ih fun c hc => hds c (List.mem_cons_of_mem _ hc),
          List.flatMap_cons]
  rw [Document.arguments, Document.commands, mainMembers_chapters, interfaces_chapters,
    Node.commandsIn_append, hentries, List.nil_append]
  exact hall cs fun _ hc => hc

theorem referred_once_chapters {ps : List (Family × Value)}
    (h : List.Forall₂ Chapter.Outlines ps cs)
    (hn : ((cs.flatMap Chapter.interfaces).map InterfaceOf.name).Nodup) {i : Interface}
    (hi : i ∈ cs.flatMap Chapter.interfaces) :
    ((∃ f : Family, i.name = f.interfaceName) ∧
      (cs.map fun c => c.interface.name).count i.name = 1 ∧
        ((cs.flatMap Chapter.arguments).map InterfaceOf.name).count i.name = 0) ∨
    ((¬ ∃ f : Family, i.name = f.interfaceName) ∧
      (cs.map fun c => c.interface.name).count i.name = 0 ∧
        ((cs.flatMap Chapter.arguments).map InterfaceOf.name).count i.name = 1) := by
  have hsplit := ((interfaces_perm cs).map InterfaceOf.name).nodup_iff.1 hn
  rw [List.map_append, List.map_map] at hsplit
  obtain ⟨hfamilies, harguments, hne⟩ := List.nodup_append.1 hsplit
  rcases List.mem_append.1 ((interfaces_perm cs).mem_iff.1 hi) with hi | hi
  · obtain ⟨c, hc, rfl⟩ := List.mem_map.1 hi
    have hm : c.interface.name ∈ cs.map fun c => c.interface.name :=
      List.mem_map.2 ⟨c, hc, rfl⟩
    exact .inl ⟨⟨c.family, rfl⟩, List.count_eq_one_of_mem hfamilies hm,
      List.count_eq_zero.2 fun ha => hne _ hm _ ha rfl⟩
  · have hm : i.name ∈ (cs.flatMap Chapter.arguments).map InterfaceOf.name :=
      List.mem_map_of_mem hi
    obtain ⟨c, hc, hi⟩ := List.mem_flatMap.1 hi
    obtain ⟨p, -, hp⟩ := exists_outlines_of_mem h hc
    obtain ⟨keys, hkeys⟩ := hp.exists_name_eq hi
    refine .inr ⟨?_, List.count_eq_zero.2 fun hf => hne _ hf _ hm rfl,
      List.count_eq_one_of_mem harguments hm⟩
    rintro ⟨f, hf⟩
    exact argsName_ne_interfaceName _ f (hkeys.symm.trans hf)

theorem isWord_chapters {ps : List (Family × Value)} (h : List.Forall₂ Chapter.Outlines ps cs)
    {i : Interface} (hi : i ∈ cs.flatMap Chapter.interfaces) :
    Text.isWord i.name.toList = true := by
  obtain ⟨c, hc, hi⟩ := List.mem_flatMap.1 hi
  rcases List.mem_cons.1 hi with rfl | hi
  · exact isWord_interfaceName c.family
  · obtain ⟨p, -, hp⟩ := exists_outlines_of_mem h hc
    obtain ⟨keys, hkeys⟩ := hp.exists_name_eq hi
    exact hkeys ▸ isWord_argsName c.family keys

/-- Compiling a schema leaves no reference without its interface and no
interface without its reference. -/
theorem compile_closed {s : Value} {d : Document} (h : compile o s = .ok d) : d.Closed := by
  obtain ⟨es, cs, -, hcs, hnames, rfl⟩ := compile_eq_ok.1 h
  have hnodup : ((cs.flatMap Chapter.interfaces).map InterfaceOf.name).Nodup :=
    interfaceNames_nodup (List.nodup_cons.1 hnames).2
  have hregistered {i : Interface} (hi : i ∈ cs.flatMap Chapter.interfaces) :
      i.name ∈ (o.layout.addChapters cs).document.registered :=
    registered_chapters ▸ mem_chapterNames hi
  have hfound {i : Interface} (hi : i ∈ cs.flatMap Chapter.interfaces) :
      (o.layout.addChapters cs).document.interface? i.name = some i :=
    interface?_eq_some (interfaces_chapters ▸ hnodup) (interfaces_chapters ▸ hi)
  constructor
  · intro i hi
    rw [arguments_chapters hcs] at hi
    have hi' : i ∈ cs.flatMap Chapter.interfaces :=
      (interfaces_perm cs).mem_iff.2 (List.mem_append_right _ hi)
    exact ⟨hregistered hi', hfound hi'⟩
  · intro n hn
    rw [mainMembers_chapters] at hn
    obtain ⟨c, hc, rfl⟩ := List.mem_map.1 hn
    have hi : c.interface ∈ cs.flatMap Chapter.interfaces :=
      List.mem_flatMap.2 ⟨c, hc, List.mem_cons_self⟩
    exact ⟨c.family, c.interface, target?_entry c, hregistered hi, hfound hi⟩
  · intro n hn hg
    rw [mainMembers_chapters] at hn
    obtain ⟨c, hc, rfl⟩ := List.mem_map.1 hn
    rw [isGeneric_entry] at hg
    rw [Layout.builtins_mem_document]
    simp only [Layout.addChapters, Bool.or_eq_true, List.any_eq_true]
    exact .inr ⟨c, hc, hg⟩
  · intro i hi
    rw [interfaces_chapters] at hi
    rw [targets_chapters, arguments_chapters hcs]
    exact referred_once_chapters hcs hnodup hi
  · intro i hi
    rw [interfaces_chapters] at hi
    exact isWord_chapters hcs hi

theorem closed_lineSchema : ∃ d, compile {} lineSchema = .ok d ∧ d.Closed := by
  obtain ⟨d, hd⟩ := exists_compile_lineSchema
  exact ⟨d, hd, compile_closed hd⟩

end Schema

end DeviceTypings
