import DeviceTypings.Proofs.Induction
import DeviceTypings.Proofs.Render.Signature
import DeviceTypings.Proofs.Schema.Entrywise

namespace DeviceTypings.Schema

/-!
# Signatures of commands

The commands that the value of a family calls for are read off the value alone, each with its
place, its key and its entries. Those entries fix the parameter list of its declaration, and
which members of the interface of its arguments may be left out. The text of the schema declares
just these commands, in their order.
-/

variable {above taken taken' : List Text} {key : Text} {es : Entries} {n : Node}
  {ns : List Node} {ts : List Step}

/-! ## Commands of a schema -/

/-- A command, with the names of what it stands in, from the family on. -/
structure Call where
  above : List Text
  key : Text
  entries : Entries

mutual

/-- The commands for the value under a structural key, and below it. -/
def calls (above : List Text) (key : Text) : Value → List Call
  | .map es =>
      if isSet (Entries.lookup commandKey es) then [⟨above, key, es⟩]
      else if (Entries.lookup valueSpaceKey es).isSome then []
      else entryCalls (above ++ [key]) es
  | .list vs =>
      if (leadingLeaf? vs).isSome then [] else elementCalls (above ++ [key]) [] vs
  | .ring _ v => calls above key v
  | _ => []
termination_by structural v => v

def entryCalls (above : List Text) : List (Value × Value) → List Call
  | [] => []
  | (k, v) :: es =>
      match structuralKey? k with
      | none => entryCalls above es
      | some key => calls above key v ++ entryCalls above es
termination_by structural es => es

/-- The commands for the elements of a keyed array, after elements that have taken some
names. -/
def elementCalls (above taken : List Text) : List Value → List Call
  | [] => []
  | v :: vs => elementCall above taken v ++ elementCalls above (taken ++ takenBy v) vs
termination_by structural vs => vs

def elementCall (above taken : List Text) : Value → List Call
  | .map es =>
      match Entries.lookup idKey es with
      | some id => entryCalls (above ++ [id.toText]) es
      | none => freshCalls above taken es
  | .ring _ v => elementCall above taken v
  | _ => []
termination_by structural v => v

/-- The commands for the entries whose keys are not taken. -/
def freshCalls (above taken : List Text) : List (Value × Value) → List Call
  | [] => []
  | (k, v) :: es =>
      match structuralKey? k with
      | none => freshCalls above taken es
      | some key =>
          if taken.contains key then freshCalls above taken es
          else calls above key v ++ freshCalls above (key :: taken) es
termination_by structural es => es

end

/-- The commands in the value of a family. -/
def familyCalls (p : Family × Value) : List Call :=
  match p.2.bare with
  | .map es => entryCalls [p.1.key] es
  | _ => []

theorem entryCalls_eq_flatMap (above : List Text) (es : Entries) :
    entryCalls above es = (structuralEntries es).flatMap fun p => calls above p.1 p.2 := by
  induction es with
  | nil => rfl
  | cons e es ih =>
      obtain ⟨k, v⟩ := e
      cases hk : structuralKey? k with
      | none => simp [entryCalls, hk, structuralEntries_cons_none hk, ih]
      | some key => simp [entryCalls, hk, structuralEntries_cons_some hk, ih]

theorem freshCalls_eq_flatMap (above taken : List Text) (es : Entries) :
    freshCalls above taken es =
      (fresh taken (structuralEntries es)).flatMap fun p => calls above p.1 p.2 := by
  induction es generalizing taken with
  | nil => rfl
  | cons e es ih =>
      obtain ⟨k, v⟩ := e
      cases hk : structuralKey? k with
      | none => simp [freshCalls, hk, structuralEntries_cons_none hk, ih]
      | some key =>
          rw [structuralEntries_cons_some hk]
          by_cases ht : key ∈ taken
          · simp [freshCalls, hk, fresh_cons_mem (p := (key, v)) ht, ht, ih]
          · simp [freshCalls, hk, fresh_cons_notMem (p := (key, v)) ht, ht, ih]

/-! ## Parameter lists -/

/-- Whether a parameter may be left out. An array is described by its first element. -/
def isOptionalParameter (v : Value) : Bool :=
  match describedBy v with
  | .ok u =>
      match u.bare with
      | .map es => isUnset (Entries.lookup requiredKey es)
      | _ => false
  | .error _ => false

namespace Call

def path (k : Call) : List Text := k.above ++ [k.key]

def parameters (k : Call) : List (Text × Value) := structuralEntries k.entries

def isMultiline (k : Call) : Bool := isSet (Entries.lookup multilineKey k.entries)

/-- What a caller gives to the command. -/
def parameterList (k : Call) : Text :=
  match k.parameters.isEmpty, k.isMultiline with
  | true, false => ""
  | true, true => "body: string"
  | false, true => "args: " ++ argsName k.path ++ ", body: string"
  | false, false =>
      (if k.parameters.all fun p => isOptionalParameter p.2 then "args?: " else "args: ") ++
        argsName k.path

def signature (k : Call) : Text :=
  Text.quoteName k.key ++ "<R=any>(" ++ k.parameterList ++ "): Promise<R>"

/-- The line of the command in the interface of its family. -/
def line (k : Call) : Text :=
  Render.margin k.above.length ++ (k.signature ++ Render.separatorAt k.above.length)

end Call

/-! ## Members of outlines -/

/-- The member is named after the parameter and may be left out just if that may. -/
structure DescribesParameter (p : Text × Value) (m : Member) : Prop where
  name_eq : m.name = p.1
  required_eq : m.required = !isOptionalParameter p.2

/-- The command is at the place of the call and has its key and its parameters. -/
structure Call.Gives (k : Call) (x : List Text × Command) : Prop where
  above_eq : x.1 = k.above
  name_eq : x.2.name = k.key
  returnType_eq : x.2.returnType = "any"
  multiline_eq : x.2.multiline = k.isMultiline
  arguments : ∃ ms, List.Forall₂ DescribesParameter k.parameters ms ∧
    x.2.args = argumentsOf k.path ms

theorem describesParameter {path : List Text} {p : Text × Value} {m : Member}
    (h : parameter path p.1 p.2 = .ok m) : DescribesParameter p m := by
  obtain ⟨u, es, space, hu, hes, -, hleaf⟩ := parameter_eq_ok.1 h
  obtain ⟨type, doc, -, -, rfl⟩ := leaf_eq_ok.1 hleaf
  exact ⟨rfl, by simp [isOptionalParameter, hu, hes]⟩

theorem command_gives (h : (command (above ++ [key]) key es).Yields n ts) :
    List.Forall₂ Call.Gives [⟨above, key, es⟩] (n.located above) := by
  obtain ⟨args, doc, hargs, -, rfl⟩ := command_yields.1 h
  obtain ⟨ms, hms, rfl⟩ := arguments_iff.1 ⟨ts, hargs⟩
  exact .cons ⟨rfl, rfl, rfl, rfl, ms, hms.imp fun _ _ => describesParameter, rfl⟩ .nil

/-- The commands below the members of a value are those that it calls for. -/
structure GivesCalls (v : Value) : Prop where
  outline : ∀ {above key n ts}, (outline (above ++ [key]) key v).Yields n ts →
    List.Forall₂ Call.Gives (calls above key v) (n.located above)
  element : ∀ {above index taken taken' ns ts},
    (outlineElement above index taken v).Yields ns ts → (∀ key, key ∈ taken ↔ key ∈ taken') →
      List.Forall₂ Call.Gives (elementCall above taken' v) (Node.locatedIn above ns)

theorem forall₂_calls {ps : List (Text × Value)} (hps : ∀ p ∈ ps, GivesCalls p.2)
    (h : List.Forall₂ (OutlinesEntry above) ps ns) :
    List.Forall₂ Call.Gives (ps.flatMap fun p => calls above p.1 p.2)
      (Node.locatedIn above ns) := by
  induction h with
  | nil => exact .nil
  | cons hn _ ih =>
      obtain ⟨ts, hts⟩ := hn
      obtain ⟨hp, hps⟩ := List.forall_mem_cons.1 hps
      rw [List.flatMap_cons, Node.locatedIn_cons]
      exact List.rel_append (hp.outline hts) (ih hps)

theorem outlineEntries_calls (hes : ∀ e ∈ es, GivesCalls e.2)
    (h : (outlineEntries above es).Yields ns ts) :
    List.Forall₂ Call.Gives (entryCalls above es) (Node.locatedIn above ns) := by
  rw [entryCalls_eq_flatMap]
  exact forall₂_calls (forall_structuralEntries hes) (outlineEntries_iff.1 ⟨ts, h⟩)

theorem outlineFresh_calls (hes : ∀ e ∈ es, GivesCalls e.2)
    (htaken : ∀ key, key ∈ taken ↔ key ∈ taken') (h : (outlineFresh above taken es).Yields ns ts) :
    List.Forall₂ Call.Gives (freshCalls above taken' es) (Node.locatedIn above ns) := by
  have hall := outlineFresh_iff.1 ⟨ts, h⟩
  rw [fresh_congr _ htaken] at hall
  rw [freshCalls_eq_flatMap]
  exact forall₂_calls (fun p hp =>
    forall_structuralEntries hes p ((fresh_sublist taken' _).subset hp)) hall

theorem outlineElements_calls {vs : List Value} (hvs : ∀ v ∈ vs, GivesCalls v) {index : Nat}
    (htaken : ∀ key, key ∈ taken ↔ key ∈ taken')
    (h : (outlineElements above index taken vs).Yields ns ts) :
    List.Forall₂ Call.Gives (elementCalls above taken' vs) (Node.locatedIn above ns) := by
  induction vs generalizing index taken taken' ns ts with
  | nil =>
      obtain ⟨rfl, -⟩ := Script.yields_pure.1 h
      exact .nil
  | cons v vs ih =>
      obtain ⟨hv, hvs⟩ := List.forall_mem_cons.1 hvs
      obtain ⟨fresh, us, ms, ws, hfresh, hms, rfl, -⟩ := outlineElements_cons.1 h
      -- The outline puts the names of an element before those taken so far, the calls after them.
      have hlater : ∀ key, key ∈ fresh.map Node.name ++ taken ↔ key ∈ taken' ++ takenBy v := by
        intro key
        rw [outlineElement_names v hfresh, List.mem_append, List.mem_append, htaken]
      rw [elementCalls, Node.locatedIn_append]
      exact List.rel_append (hv.element hfresh htaken) (ih hvs hlater hms)

theorem givesCalls_map (hes : ∀ e ∈ es, GivesCalls e.2) : GivesCalls (.map es) where
  outline := by
    intro above key n ts h
    rw [outline] at h
    split at h
    · rename_i hset
      simpa [calls, hset] using command_gives h
    · rename_i hset
      split at h
      · rename_i space hspace
        obtain ⟨m, -, rfl, -⟩ := leaf_yields.1 h
        simp [calls, hset, hspace, Node.located]
      · rename_i hspace
        obtain ⟨ns, hns, rfl⟩ := Script.yields_map.1 h
        simpa [calls, hset, hspace, Node.located] using outlineEntries_calls hes hns
  element := by
    intro above index taken taken' ns ts h htaken
    cases hid : Entries.lookup idKey es with
    | some id =>
        obtain ⟨text, cs, htext, hcs, rfl⟩ := (outlineElement_some hid).1 h
        obtain ⟨-, rfl⟩ := Fault.textOf_eq_ok.1 htext
        simpa [elementCall, hid, Node.locatedIn, Node.located] using outlineEntries_calls hes hcs
    | none =>
        rw [outlineElement_none hid] at h
        rw [elementCall, hid]
        exact outlineFresh_calls hes htaken h

theorem givesCalls_list {vs : List Value} (hvs : ∀ v ∈ vs, GivesCalls v) :
    GivesCalls (.list vs) where
  outline := by
    intro above key n ts h
    rw [outline] at h
    split at h
    · rename_i hleaf
      obtain ⟨m, -, rfl, -⟩ := leaf_yields.1 h
      simp [calls, hleaf, Node.located]
    · rename_i hleaf
      obtain ⟨ns, hns, rfl⟩ := Script.yields_map.1 h
      simpa [calls, hleaf, Node.located] using outlineElements_calls hvs (fun _ => .rfl) hns
  element := by
    intro above index taken taken' ns ts h
    simp [outlineElement, misplaced] at h

theorem givesCalls (v : Value) : GivesCalls v := by
  induction v using Value.nestedInduction with
  | map es ih => exact givesCalls_map ih
  | list vs ih => exact givesCalls_list ih
  | ring label v ih =>
      constructor
      · intro above key n ts hy
        rw [outline] at hy
        exact ih.outline hy
      · intro above index taken taken' ns ts hy
        rw [outlineElement] at hy
        exact ih.element hy
  | scalar v hv =>
      constructor
      · intro above key n ts hy
        cases v <;> simp_all [Value.isNested, outline, misplaced]
      · intro above index taken taken' ns ts hy
        cases v <;> simp_all [Value.isNested, outlineElement, misplaced]

theorem Chapter.Outlines.gives {p : Family × Value} {c : Chapter} (h : c.Outlines p) :
    List.Forall₂ Call.Gives (familyCalls p) (Node.locatedIn [p.1.key] c.nodes) := by
  obtain ⟨-, es, ts, hes, hy⟩ := h
  rw [familyCalls, hes]
  exact outlineEntries_calls (fun e _ => givesCalls e.2) hy

/-! ## Signatures -/

variable {k : Call} {x : List Text × Command}

theorem isEmpty_eq_of_describes {ps : List (Text × Value)} {ms : List Member}
    (h : List.Forall₂ DescribesParameter ps ms) : ms.isEmpty = ps.isEmpty := by
  cases h <;> rfl

theorem all_isOptional_of_describes {ps : List (Text × Value)} {ms : List Member}
    (h : List.Forall₂ DescribesParameter ps ms) :
    (ms.map Node.member).all Node.isOptional = ps.all fun p => isOptionalParameter p.2 := by
  induction h with
  | nil => rfl
  | cons hp _ ih => simp only [List.map_cons, List.all_cons, ih, Node.isOptional, hp.required_eq,
      Bool.not_not]

namespace Call.Gives

theorem args_eq_none (h : k.Gives x) (hk : k.parameters.isEmpty = true) : x.2.args = none := by
  obtain ⟨ms, hms, hargs⟩ := h.arguments
  rw [hargs, argumentsOf, isEmpty_eq_of_describes hms, if_pos hk]

theorem args_eq_some (h : k.Gives x) (hk : k.parameters.isEmpty = false) :
    ∃ ms, List.Forall₂ DescribesParameter k.parameters ms ∧ ms ≠ [] ∧
      x.2.args = some { name := argsName k.path, children := ms.map Node.member } := by
  obtain ⟨ms, hms, hargs⟩ := h.arguments
  have hempty := isEmpty_eq_of_describes hms
  rw [hk] at hempty
  rw [argumentsOf, hempty] at hargs
  exact ⟨ms, hms, by simpa using hempty, hargs⟩

theorem argsOptional_eq (h : k.Gives x) : x.2.argsOptional =
    (!k.parameters.isEmpty && !k.isMultiline &&
      k.parameters.all fun p => isOptionalParameter p.2) := by
  cases hk : k.parameters.isEmpty with
  | true => simp [CommandOf.argsOptional, h.args_eq_none hk]
  | false =>
      obtain ⟨ms, hms, -, hargs⟩ := h.args_eq_some hk
      simp only [CommandOf.argsOptional, hargs, h.multiline_eq, all_isOptional_of_describes hms,
        Bool.not_false, Bool.true_and]

theorem joinPieces_eq (h : k.Gives x) : Render.joinPieces x.2.parameters = k.parameterList := by
  have hoptional := h.argsOptional_eq
  rw [Call.parameterList]
  cases hk : k.parameters.isEmpty with
  | true =>
      rw [CommandOf.joinPieces_none (h.args_eq_none hk), h.multiline_eq]
      cases k.isMultiline <;> rfl
  | false =>
      obtain ⟨ms, -, -, hargs⟩ := h.args_eq_some hk
      rw [CommandOf.joinPieces_some hargs, h.multiline_eq]
      cases hmultiline : k.isMultiline with
      | true => simp [hoptional, hmultiline, Text.append_assoc]
      | false =>
          simp only [hk, hmultiline, Bool.not_false, Bool.true_and] at hoptional
          rw [hoptional]
          simp

theorem signature_eq (h : k.Gives x) : x.2.signature = k.signature := by
  rw [CommandOf.signature, Render.callable, h.name_eq, h.returnType_eq, h.joinPieces_eq,
    Call.signature]
  simp [← Text.toList_inj]

theorem declarationLine_eq (h : k.Gives x) : Node.declarationLine x = k.line := by
  rw [Node.declarationLine, h.above_eq, h.signature_eq, Call.line]

end Call.Gives

/-! ## Schemas -/

/-- The lines that declare a parameter as a member, with its comment before them. -/
def DeclaresParameter (p : Text × Value) (ls : List Text) : Prop :=
  ∃ doc type, ls = Render.indent 1 (Render.comment doc) ++
    [Render.margin 1 ++ (Render.Variable.render ⟨p.1, type, isOptionalParameter p.2⟩ ++ ";")]

/-- The command is declared in the text as it is called for. Its arguments have an interface with
a member for each parameter, and may be left out only if each parameter may. What may be left out
never comes before what may not. -/
structure Call.Signed (text : Text) (k : Call) (x : List Text × Command) : Prop where
  above_eq : x.1 = k.above
  name_eq : x.2.name = k.key
  signature_eq : x.2.signature = k.signature
  arguments : k.parameters ≠ [] → ∃ blocks, List.Forall₂ DeclaresParameter k.parameters blocks ∧
    HasLines text (("export interface " ++ argsName k.path ++ " \x7b" : Text) ::
      (blocks.flatten ++ [("\x7d" : Text)]))
  omissible : ∀ a ∈ x.2.parameters, a.isOptional = true →
    ∀ p ∈ k.parameters, isOptionalParameter p.2 = true
  ordered : x.2.parameters.Pairwise fun a b => a.isOptional = true → b.isOptional = true

/-- The interface of the family stands in the text, and has the commands of the family and no
others, in their order. -/
structure Signs (d : Document) (p : Family × Value) (i : Interface) : Prop where
  found : d.interface? p.1.interfaceName = some i
  written : HasLines d.render (Render.interfaceLines i.name i.bases i.children)
  signed : List.Forall₂ (Call.Signed d.render) (familyCalls p)
    (Node.locatedIn [p.1.key] i.children)
  lines : ((familyCalls p).map Call.line).Sublist
    (Render.interfaceLines i.name i.bases i.children)

theorem declaresParameter_block {p : Text × Value} {m : Member} (h : DescribesParameter p m) :
    DeclaresParameter p m.block := by
  refine ⟨m.docstring, m.type.render, ?_⟩
  rw [Member.block, Member.signature, h.name_eq, h.required_eq, Bool.not_not]

theorem Call.Gives.signed {text : Text} (h : k.Gives x)
    (hargs : ∀ i ∈ x.2.args, HasLines text (Render.interfaceLines i.name i.bases i.children)) :
    k.Signed text x where
  above_eq := h.above_eq
  name_eq := h.name_eq
  signature_eq := h.signature_eq
  arguments hk := by
    obtain ⟨ms, hms, hne, hsome⟩ := h.args_eq_some (by simpa using hk)
    have hlines := hargs _ hsome
    rw [Render.interfaceLines_members _ hne, List.flatMap_def] at hlines
    exact ⟨ms.map Member.block,
      List.forall₂_map_right_iff.2 (hms.imp fun _ _ => declaresParameter_block), hlines⟩
  omissible a ha hoptional := by
    have hall := CommandOf.argsOptional_of_mem ha hoptional
    rw [h.argsOptional_eq, Bool.and_eq_true] at hall
    exact List.all_eq_true.1 hall.2
  ordered := x.2.pairwise_parameters

theorem map_declarationLine {ks : List Call} {xs : List (List Text × Command)}
    (h : List.Forall₂ Call.Gives ks xs) :
    xs.map Node.declarationLine = ks.map Call.line := by
  induction h with
  | nil => rfl
  | cons hx _ ih => rw [List.map_cons, List.map_cons, hx.declarationLine_eq, ih]

variable {o : Options} {s : Value} {d : Document} {text : Text} {cs : List Chapter}

theorem signs_chapter {p : Family × Value} {c : Chapter} (hc : c ∈ cs) (h : c.Outlines p)
    (hnodup : ((cs.flatMap Chapter.interfaces).map InterfaceOf.name).Nodup) :
    Signs (o.layout.addChapters cs).document p c.interface := by
  have hlayout {i : Interface} (hi : i ∈ c.interfaces) :
      i ∈ (o.layout.addChapters cs).document.interfaces :=
    interfaces_chapters ▸ List.mem_flatMap.2 ⟨c, hc, hi⟩
  have hwritten {i : Interface} (hi : i ∈ c.interfaces) :
      HasLines (o.layout.addChapters cs).document.render
        (Render.interfaceLines i.name i.bases i.children) :=
    Layout.hasLines_interface (Layout.interfaces_document _ ▸ hlayout hi)
  have hgives := h.gives
  have hname : c.interface.name = p.1.interfaceName := congrArg Family.interfaceName h.1
  refine ⟨?_, hwritten List.mem_cons_self, ?_, ?_⟩
  · rw [← hname]
    exact interface?_eq_some (interfaces_chapters ▸ hnodup) (hlayout List.mem_cons_self)
  · -- A command is one of those whose arguments the chapter declares, so its place is needed here.
    have hmem := (List.forall₂_and_left (p := (· ∈ Node.locatedIn [p.1.key] c.nodes)) _ _).2
      ⟨fun _ => id, hgives.flip⟩
    refine hmem.flip.imp fun k x hx => hx.2.signed fun i hi => hwritten (List.mem_cons_of_mem _ ?_)
    have hcommand : x.2 ∈ Node.commandsIn c.nodes := by
      rw [← Node.map_snd_locatedIn [p.1.key]]
      exact List.mem_map_of_mem hx.1
    exact List.mem_filterMap.2 ⟨x.2, hcommand, hi⟩
  · rw [← map_declarationLine hgives]
    exact Node.sublist_interfaceLines _ _ _ _

/-- The text of a schema declares each command that the schema calls for, at its place, with the
parameter list that its entries call for, and no other command. -/
theorem generate_signatures (h : generate o s = .ok text) :
    ∃ d es, compile o s = .ok d ∧ d.render = text ∧ s.bare = .map es ∧
      ∀ p ∈ familiesOf es, ∃ i, Signs d p i := by
  obtain ⟨d, hd, rfl⟩ := Except.map_eq_ok.1 h
  obtain ⟨es, cs, hes, hcs, hnames, rfl⟩ := compile_eq_ok.1 hd
  refine ⟨_, es, hd, rfl, hes, fun p hp => ?_⟩
  have hnodup := interfaceNames_nodup (List.nodup_cons.1 hnames).2
  obtain ⟨c, hc, houtlines⟩ := (Shuffled.of_forall₂ hcs).exists_of_mem hp
  exact ⟨c.interface, signs_chapter hc houtlines hnodup⟩

/-- A parameter that may be left out. -/
def optionalLeaf : Value :=
  .map [
    (.text requiredKey, .text "False"),
    (.text valueSpaceKey, .map [(.text typeKey, .text "String")])]

/-- Commands with and without parameters and bodies, in an object and in a keyed array. -/
def callCommands : Value :=
  .map [
    (.text "Standby", .map [(.text commandKey, .bool true)]),
    (.text "Message", .map [(.text commandKey, .bool true), (.text multilineKey, .bool true)]),
    (.text "Dial", .map [
      (.text commandKey, .text "True"), (.text "Number", textLeaf),
      (.text "Protocol", optionalLeaf)]),
    (.text "Line", .list [
      .map [(.text idKey, .int 1),
        (.text "Hold", .map [
          (.text commandKey, .text "True"), (.text "Reason", .list [optionalLeaf, textLeaf])])],
      .map [
        (.text "Upload", .map [
          (.text commandKey, .text "True"), (.text multilineKey, .text "True"),
          (.text "Name", optionalLeaf)])]])]

def callSchema : Value := .map [(.text "Command", callCommands)]

theorem signs_callSchema : ∃ text, generate {} callSchema = .ok text ∧
    ∃ d es, compile {} callSchema = .ok d ∧ d.render = text ∧ callSchema.bare = .map es ∧
      ∀ p ∈ familiesOf es, ∃ i, Signs d p i := by
  have hcompile : ∃ d, compile {} callSchema = .ok d := ⟨_, rfl⟩
  obtain ⟨d, hd⟩ := hcompile
  have htext : generate {} callSchema = .ok d.render := by
    rw [generate, hd]
    rfl
  exact ⟨d.render, htext, generate_signatures htext⟩

example : (familyCalls (.command, callCommands)).map Call.line =
    ["  Standby<R=any>(): Promise<R>;",
     "  Message<R=any>(body: string): Promise<R>;",
     "  Dial<R=any>(args: CommandDialArgs): Promise<R>;",
     "      Hold<R=any>(args?: CommandLine1HoldArgs): Promise<R>,",
     "    Upload<R=any>(args: CommandLineUploadArgs, body: string): Promise<R>,"] := by
  decide +kernel

end DeviceTypings.Schema
