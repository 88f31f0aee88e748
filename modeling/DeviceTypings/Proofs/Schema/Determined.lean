import DeviceTypings.Proofs.Document.Reading
import DeviceTypings.Proofs.Schema.Outlined

namespace DeviceTypings.Schema

/-!
# The text determines the document

With the same options, two schemas have the same text only if their documents are alike.
Of the arguments of a command the text tells the name, and by its name their interface
is found among the declared ones.
-/

variable {ps : List (Family × Value)} {cs : List Chapter}

/-! ## The order of registration -/

/-- Whether the interface of a name is that of a family that needs the builtins. -/
def isWrappedName (name : Text) : Bool :=
  Family.all.any fun f => f.wrapper?.isSome && f.interfaceName == name

/-- The builtins are registered before the first interface that needs them. -/
def withBuiltins : List Text → List Text
  | [] => []
  | name :: names =>
      if isWrappedName name then builtinNames ++ name :: names else name :: withBuiltins names

theorem withBuiltins_append {names : List Text} (h : ∀ name ∈ names, isWrappedName name = false)
    (rest : List Text) : withBuiltins (names ++ rest) = names ++ withBuiltins rest := by
  induction names with
  | nil => rfl
  | cons name names ih =>
      obtain ⟨hname, hnames⟩ := List.forall_mem_cons.1 h
      rw [List.cons_append, withBuiltins, hname, ih hnames]
      rfl

theorem isWrappedName_interface (c : Chapter) : isWrappedName c.interface.name = c.isWrapped := by
  have hall : ∀ f : Family, isWrappedName f.interfaceName = f.wrapper?.isSome := by
    intro f
    cases f <;> decide
  exact hall c.family

theorem Chapter.Outlines.isWrappedName_eq_false {p : Family × Value} {c : Chapter}
    (h : c.Outlines p) : ∀ name ∈ c.arguments.map InterfaceOf.name, isWrappedName name = false := by
  intro name hname
  obtain ⟨i, hi, rfl⟩ := List.mem_map.1 hname
  obtain ⟨keys, hkeys⟩ := h.exists_name_eq hi
  rw [isWrappedName, List.any_eq_false]
  intro f _
  simp [hkeys, (argsName_ne_interfaceName _ f).symm]

theorem chapterNames_true (cs : List Chapter) :
    chapterNames true cs = (cs.flatMap Chapter.interfaces).map InterfaceOf.name := by
  induction cs with
  | nil => rfl
  | cons c cs ih => simp [chapterNames, Chapter.names, ih]

theorem chapterNames_false (h : List.Forall₂ Chapter.Outlines ps cs) :
    chapterNames false cs =
      withBuiltins ((cs.flatMap Chapter.interfaces).map InterfaceOf.name) := by
  induction h with
  | nil => rfl
  | @cons p c ps cs hp _ ih =>
      have hrest := withBuiltins_append hp.isWrappedName_eq_false
        ((cs.flatMap Chapter.interfaces).map InterfaceOf.name)
      rw [chapterNames, List.flatMap_cons, List.map_append, Chapter.interfaces, List.map_cons,
        List.cons_append, withBuiltins, isWrappedName_interface, hrest]
      cases hwrapped : c.isWrapped
      · simp [Chapter.names, Chapter.interfaces, hwrapped, ih]
      · simp [Chapter.names, Chapter.interfaces, hwrapped, chapterNames_true]

/-! ## What is known of the interfaces -/

theorem plain_interfaces (h : List.Forall₂ Chapter.Outlines ps cs) :
    Layout.Plain (cs.flatMap Chapter.interfaces) := by
  constructor
  · intro i hi
    obtain ⟨c, hc, hi⟩ := List.mem_flatMap.1 hi
    obtain ⟨p, -, hp⟩ := exists_outlines_of_mem h hc
    exact hp.legible_interfaces i hi
  · intro i hi
    obtain ⟨c, hc, hi⟩ := List.mem_flatMap.1 hi
    rcases List.mem_cons.1 hi with rfl | hi
    · rfl
    · exact bases_eq_nil_of_outlines h c hc i hi

theorem declaresArguments_interfaces (h : List.Forall₂ Chapter.Outlines ps cs) :
    InterfaceOf.DeclaresArguments (cs.flatMap Chapter.interfaces) := by
  intro i hi a ha
  obtain ⟨c, hc, hi⟩ := List.mem_flatMap.1 hi
  obtain ⟨p, -, hp⟩ := exists_outlines_of_mem h hc
  obtain ⟨ts, hts⟩ := hp.declares
  rcases List.mem_cons.1 hi with rfl | hi
  · exact ⟨List.mem_flatMap.2 ⟨c, hc, List.mem_cons_of_mem _ ha⟩, (hts.isArguments a ha).isMember⟩
  · have hmembers := Node.commandsIn_of_isMember (hts.isArguments i hi).isMember
    simp [Node.argumentsIn, hmembers] at ha

theorem legible_entries (cs : List Chapter) : ∀ n ∈ cs.map Chapter.entry, n.Legible := by
  intro n hn
  obtain ⟨c, -, rfl⟩ := List.mem_map.1 hn
  exact c.legible_entry

theorem isMember_entries (cs : List Chapter) : ∀ n ∈ cs.map Chapter.entry, n.isMember = true := by
  intro n hn
  obtain ⟨c, -, rfl⟩ := List.mem_map.1 hn
  rfl

/-! ## Documents -/

/-- Two schemas with the same text have documents that are alike. -/
theorem alike_of_generate_eq {o : Options} {s s' : Value} {d d' : Document}
    (h : compile o s = .ok d) (h' : compile o s' = .ok d')
    (htext : generate o s = generate o s') : d.Alike d' := by
  rw [generate, generate, h, h'] at htext
  have hrender := Except.ok.inj htext
  obtain ⟨es, cs, -, hcs, -, rfl⟩ := compile_eq_ok.1 h
  obtain ⟨es', cs', -, hcs', hnames', rfl⟩ := compile_eq_ok.1 h'
  obtain ⟨hbuiltins, hsimilar, hentries⟩ := @Layout.similar_of_render_eq
    (o.layout.addChapters cs) (o.layout.addChapters cs') rfl rfl (plain_interfaces hcs)
    (plain_interfaces hcs') (legible_entries cs) (legible_entries cs') hrender
  have hinterfaces : List.Forall₂ InterfaceOf.Alike (cs.flatMap Chapter.interfaces)
      (cs'.flatMap Chapter.interfaces) :=
    InterfaceOf.alike_of_similar hsimilar (interfaceNames_nodup (List.nodup_cons.1 hnames').2)
      (declaresArguments_interfaces hcs) (declaresArguments_interfaces hcs')
  have hnames : (cs.flatMap Chapter.interfaces).map InterfaceOf.name =
      (cs'.flatMap Chapter.interfaces).map InterfaceOf.name :=
    InterfaceOf.names_eq_of_similar hsimilar
  have hmain : Declaration.Alike (.main { o.layout.main with children := cs.map Chapter.entry })
      (.main { o.layout.main with children := cs'.map Chapter.entry }) :=
    .main o.layout.main (Node.Alike.of_isMember hentries (isMember_entries cs))
  refine ⟨rfl, rfl, ?_, ?_⟩
  · have hbuiltinsDeclared (b : Bool) : List.Forall₂ Declaration.Alike
        (if b then [.builtins] else []) (if b then [.builtins] else []) := by
      cases b
      · exact .nil
      · exact .cons .builtins .nil
    have hdeclared : List.Forall₂ Declaration.Alike
        ((cs.flatMap Chapter.interfaces).map .interface)
        ((cs'.flatMap Chapter.interfaces).map .interface) :=
      List.forall₂_map_left_iff.2 (List.forall₂_map_right_iff.2
        (hinterfaces.imp fun _ _ => .interface))
    rw [Layout.document, Layout.document, hbuiltins]
    exact List.rel_append (hbuiltinsDeclared _) (.cons hmain hdeclared)
  · rw [registered_chapters, registered_chapters, chapterNames_false hcs, chapterNames_false hcs',
      hnames]

/-- A family of commands with one key, under which there are none. -/
def keySchema (key : Text) : Value := .map [(.text "Command", .map [(.text key, .map [])])]

/-- Two surrogates, and the character that they spell together. -/
def splitKey : Text := .ofList [.char 'A', .surrogate 0x3D, .surrogate 0x600]

def wholeKey : Text := .ofList [.char 'A', .char (Char.ofNat 0x1F600)]

/-- No text tells two surrogates in a name from the character that they spell. -/
theorem names_ne_of_generate_eq : ∃ d d', compile {} (keySchema splitKey) = .ok d ∧
    compile {} (keySchema wholeKey) = .ok d' ∧
    generate {} (keySchema splitKey) = generate {} (keySchema wholeKey) ∧
    (d.interfaces.flatMap fun i => i.children.map Node.name) ≠
      d'.interfaces.flatMap fun i => i.children.map Node.name :=
  ⟨_, _, rfl, rfl, rfl, by decide⟩

/-- The field `Volume`, with a description. -/
def describedVolume (description : Text) : Value :=
  .map [(.text "Volume", .map [
    (.text valueSpaceKey, .map [(.text typeKey, .text "Integer")]),
    (.text descriptionKey, .text description)])]

/-- A status with one field, in an object or in an array. -/
def volumeSchema (audio : Value) : Value :=
  .map [(.text "StatusSchema", .map [(.text "Audio", audio)])]

/-- Neither the kind of a tree nor blanks around a description are told by the text. -/
theorem alike_volumeSchema :
    ∃ d d', compile {} (volumeSchema (describedVolume "Loud ")) = .ok d ∧
      compile {} (volumeSchema (.list [describedVolume " Loud"])) = .ok d' ∧
        generate {} (volumeSchema (describedVolume "Loud ")) =
          generate {} (volumeSchema (.list [describedVolume " Loud"])) ∧ d.Alike d' :=
  have htext : generate {} (volumeSchema (describedVolume "Loud ")) =
    generate {} (volumeSchema (.list [describedVolume " Loud"])) := rfl
  ⟨_, _, rfl, rfl, htext, alike_of_generate_eq rfl rfl htext⟩

end DeviceTypings.Schema
