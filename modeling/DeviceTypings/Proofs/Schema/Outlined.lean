import DeviceTypings.Proofs.Schema.Closed
import DeviceTypings.Proofs.Schema.Entrywise
import DeviceTypings.Proofs.Induction
import DeviceTypings.Proofs.Shuffled
import DeviceTypings.Proofs.Value.Text

namespace DeviceTypings

/-!
# Members that come of a schema

What holds of every leaf and command, and passes from members to their tree, holds of
all members that come of a schema. So whatever they write bare is a word, they have
no arrays of arrays, and no docstring of theirs is empty.
-/

/-- The types that are written so that they can be read back. -/
inductive TypeExpr.Legible : TypeExpr → Prop
  | plain {name : Text} (h : Text.isWord name.toList = true) : TypeExpr.Legible (.plain name)
  | plains {name : Text} (h : Text.isWord name.toList = true) :
      TypeExpr.Legible (.list (.plain name))
  | literal (v : Text) (vs : List Text) : TypeExpr.Legible (.literal v vs)
  | literals (v : Text) (vs : List Text) : TypeExpr.Legible (.list (.literal v vs))
  | generic {wrapper interface : Text} (hwrapper : Text.isWord wrapper.toList = true)
      (hinterface : Text.isWord interface.toList = true) :
      TypeExpr.Legible (.generic wrapper interface)

mutual

/-- Members that are written so that they can be read back. -/
inductive Node.Legible : Node → Prop
  | member {m : Member} (htype : m.type.Legible) (hdoc : m.docstring ≠ some ("" : Text)) :
      Node.Legible (.member m)
  | command {c : Command} (hreturn : Text.isWord c.returnType.toList = true)
      (hargs : ∀ i ∈ c.args, InterfaceOf.Legible i) (hdoc : c.docstring ≠ some ("" : Text)) :
      Node.Legible (.command c)
  | tree (kind : TreeKind) (name : Text) {ns : List Node} (h : ∀ n ∈ ns, Node.Legible n) :
      Node.Legible (.tree kind name ns)

inductive InterfaceOf.Legible : Interface → Prop
  | mk {name : Text} {bases : List Text} {ns : List Node}
      (hname : Text.isWord name.toList = true)
      (hbases : ∀ b ∈ bases, Text.isWord b.toList = true) (h : ∀ n ∈ ns, Node.Legible n) :
      InterfaceOf.Legible { name, bases, children := ns }

end

namespace Schema

/-! ## What all members have in common -/

section

variable {P : Node → Prop} {f : Family}

/-- The members of the family `f` that a value is outlined to have the property `P`. -/
structure Keeps (P : Node → Prop) (f : Family) (v : Value) : Prop where
  outline : ∀ {keys : List Text} {key : Text} {n : Node} {ts : List Step},
    (outline (f.key :: keys) key v).Yields n ts → P n
  element : ∀ {keys taken : List Text} {index : Nat} {ns : List Node} {ts : List Step},
    (outlineElement (f.key :: keys) index taken v).Yields ns ts → ∀ n ∈ ns, P n

theorem keeps_entries {keys : List Text} {ps : List (Text × Value)} {ns : List Node}
    (hps : ∀ p ∈ ps, Keeps P f p.2) (h : List.Forall₂ (OutlinesEntry (f.key :: keys)) ps ns) :
    ∀ n ∈ ns, P n := by
  intro n hn
  obtain ⟨p, hp, ts, hts⟩ := (Shuffled.of_forall₂ h).flip.exists_of_mem hn
  exact (hps p hp).outline hts

theorem keeps_outlineEntries {keys : List Text} {es : Entries} {ns : List Node}
    {ts : List Step} (hes : ∀ e ∈ es, Keeps P f e.2)
    (h : (outlineEntries (f.key :: keys) es).Yields ns ts) : ∀ n ∈ ns, P n :=
  keeps_entries (forall_structuralEntries hes) (outlineEntries_iff.1 ⟨ts, h⟩)

theorem keeps_elements {keys taken : List Text} {index : Nat} {vs : List Value}
    {ns : List Node} {ts : List Step} (hvs : ∀ v ∈ vs, Keeps P f v)
    (h : (outlineElements (f.key :: keys) index taken vs).Yields ns ts) : ∀ n ∈ ns, P n := by
  induction vs generalizing index taken ns ts with
  | nil =>
      obtain ⟨rfl, -⟩ := Script.yields_pure.1 h
      simp
  | cons v vs ih =>
      obtain ⟨hv, hvs⟩ := List.forall_mem_cons.1 hvs
      obtain ⟨fresh, us, ms, ws, hfresh, hms, rfl, -⟩ := outlineElements_cons.1 h
      intro n hn
      rcases List.mem_append.1 hn with hn | hn
      · exact hv.element hfresh n hn
      · exact ih hvs hms n hn

/-- A property of leaves and of commands that passes to trees holds of all members. -/
theorem keeps (hleaf : ∀ path key es space m, leaf path key es space = .ok m → P (.member m))
    (hcommand : ∀ keys key es n ts, (command (f.key :: keys) key es).Yields n ts → P n)
    (htree : ∀ kind name ns, (∀ n ∈ ns, P n) → P (.tree kind name ns)) (v : Value) :
    Keeps P f v := by
  induction v using Value.nestedInduction with
  | map es ih =>
      constructor
      · intro keys key n ts h
        rw [outline] at h
        split at h
        · exact hcommand _ _ _ _ _ h
        · split at h
          · obtain ⟨m, hm, rfl, -⟩ := leaf_yields.1 h
            exact hleaf _ _ _ _ _ hm
          · obtain ⟨ns, hns, rfl⟩ := Script.yields_map.1 h
            exact htree _ _ _ (keeps_outlineEntries ih hns)
      · intro keys taken index ns ts h
        cases hid : Entries.lookup idKey es with
        | some id =>
            obtain ⟨text, cs, -, hcs, rfl⟩ := (outlineElement_some hid).1 h
            have htext := htree .object text cs (keeps_outlineEntries ih hcs)
            simpa using htext
        | none =>
            rw [outlineElement_none hid] at h
            refine keeps_entries (fun p hp => ?_) (outlineFresh_iff.1 ⟨ts, h⟩)
            exact forall_structuralEntries ih p ((fresh_sublist _ _).subset hp)
  | list vs ih =>
      constructor
      · intro keys key n ts h
        rw [outline] at h
        split at h
        · obtain ⟨m, hm, rfl, -⟩ := leaf_yields.1 h
          exact hleaf _ _ _ _ _ hm
        · obtain ⟨ns, hns, rfl⟩ := Script.yields_map.1 h
          exact htree _ _ _ (keeps_elements ih hns)
      · intro keys taken index ns ts h
        simp [outlineElement, misplaced] at h
  | ring label v ih =>
      constructor
      · intro keys key n ts h
        rw [outline] at h
        exact ih.outline h
      · intro keys taken index ns ts h
        rw [outlineElement] at h
        exact ih.element h
  | scalar v hv =>
      constructor
      · intro keys key n ts h
        cases v <;> simp_all [Value.isNested, outline, misplaced]
      · intro keys taken index ns ts h
        cases v <;> simp_all [Value.isNested, outlineElement, misplaced]

theorem Chapter.Outlines.forall_nodes {p : Family × Value} {c : Chapter} (h : c.Outlines p)
    (hleaf : ∀ path key es space m, leaf path key es space = .ok m → P (.member m))
    (hcommand : ∀ keys key es n ts, (command (p.1.key :: keys) key es).Yields n ts → P n)
    (htree : ∀ kind name ns, (∀ n ∈ ns, P n) → P (.tree kind name ns)) : ∀ n ∈ c.nodes, P n := by
  obtain ⟨-, es, ts, -, hns⟩ := h
  exact keeps_outlineEntries (fun e _ => keeps hleaf hcommand htree e.2) hns

end

/-! ## What is written can be read -/

theorem legible_simpleType? {name : Text} {t : TypeExpr} (h : simpleType? name = some t) :
    t.Legible := by
  simp only [simpleType?, typeTable, List.lookup_cons, List.lookup_nil] at h
  repeat' split at h
  all_goals cases h
  · exact .plain (by decide)
  · exact .plain (by decide)
  · exact .plains (by decide)
  · exact .plains (by decide)

theorem legible_literalType? {name : Text} {wrap : TypeExpr → TypeExpr}
    (h : literalType? name = some wrap) (v : Text) (vs : List Text) :
    (wrap (.literal v vs)).Legible := by
  unfold literalType? at h
  split_ifs at h <;> cases h
  · exact .literal v vs
  · exact .literals v vs

theorem legible_inferType {path : List Text} {space : Value} {t : TypeExpr}
    (h : inferType path space = .ok t) : t.Legible := by
  unfold inferType spaceType at h
  split at h
  · split at h
    · simp at h
    · simp at h
    · unfold namedType at h
      split at h
      · obtain rfl := Except.ok.inj h
        exact legible_simpleType? ‹_›
      · split at h
        · simp at h
        · split at h
          · obtain ⟨u, hu, rfl⟩ := Except.map_eq_ok.1 h
            simp only [union, Except.do_eq_ok, Except.pure_eq_ok] at hu
            obtain ⟨text, -, texts, -, rfl⟩ := hu
            exact legible_literalType? ‹_› text texts
          · simp at h
    · simp at h
  · simp at h

/-- A description that says nothing is no docstring. -/
theorem docstring_ne_some_empty {es : Entries} {doc : Option Text}
    (h : docstring es = .ok doc) : doc ≠ some ("" : Text) := by
  rintro rfl
  unfold docstring at h
  split at h
  · rename_i v _
    cases hempty : v.isEmpty with
    | true => simp [hempty] at h
    | false =>
        rw [hempty, if_neg Bool.false_ne_true, Except.map_eq_ok] at h
        obtain ⟨text, htext, hsome⟩ := h
        unfold Fault.textOf at htext
        split at htext
        · rename_i hflaw
          obtain rfl := Except.ok.inj htext
          exact Value.toText_ne_empty hempty hflaw (Option.some.inj hsome)
        · simp at htext
  · simp at h

theorem legible_leaf {path : List Text} {key : Text} {es : Entries} {space : Value}
    {m : Member} (h : leaf path key es space = .ok m) : (Node.member m).Legible := by
  obtain ⟨type, doc, htype, hdoc, rfl⟩ := leaf_eq_ok.1 h
  exact .member (legible_inferType htype) (docstring_ne_some_empty hdoc)

theorem legible_command {f : Family} {keys : List Text} {key : Text} {es : Entries} {n : Node}
    {ts : List Step} (h : (command (f.key :: keys) key es).Yields n ts) : n.Legible := by
  obtain ⟨args, doc, hargs, hdoc, rfl⟩ := command_yields.1 h
  obtain ⟨ms, hms, rfl⟩ := arguments_iff.1 ⟨ts, hargs⟩
  have hany : Text.isWord (Text.toList "any") = true := by decide
  refine .command hany (fun i hi => ?_) (docstring_ne_some_empty hdoc)
  have hmembers : ∀ n ∈ ms.map Node.member, n.Legible := by
    intro n hn
    obtain ⟨m, hm, rfl⟩ := List.mem_map.1 hn
    obtain ⟨p, -, hp⟩ := (Shuffled.of_forall₂ hms).flip.exists_of_mem hm
    obtain ⟨u, es, space, -, -, -, hleaf⟩ := parameter_eq_ok.1 hp
    exact legible_leaf hleaf
  unfold argumentsOf at hi
  split at hi
  · simp at hi
  · obtain rfl := Option.some.inj hi
    exact .mk (isWord_argsName f keys) (by simp) hmembers

theorem Chapter.Outlines.legible {p : Family × Value} {c : Chapter} (h : c.Outlines p) :
    ∀ n ∈ c.nodes, n.Legible :=
  h.forall_nodes (fun _ _ _ _ _ => legible_leaf) (fun _ _ _ _ _ => legible_command)
    fun kind name _ => .tree kind name

end Schema

/-- The interfaces of arguments can be read if the commands can. -/
theorem Node.legible_argumentsIn {ns : List Node} (h : ∀ n ∈ ns, n.Legible) :
    ∀ i ∈ argumentsIn ns, i.Legible := by
  suffices hone : ∀ n : Node, n.Legible → ∀ i ∈ argumentsIn [n], i.Legible by
    intro i hi
    rw [argumentsIn_eq_flatMap] at hi
    obtain ⟨n, hn, hi⟩ := List.mem_flatMap.1 hi
    exact hone n (h n hn) i hi
  clear h
  intro n hn i hi
  induction n using treeInduction with
  | member m => simp at hi
  | command c =>
      cases hn with
      | command _ hargs => exact hargs i (by simpa using hi)
  | tree kind name ns ih =>
      rw [argumentsIn_tree, argumentsIn_eq_flatMap] at hi
      obtain ⟨n, hn', hi⟩ := List.mem_flatMap.1 hi
      cases hn with
      | tree _ _ h => exact ih n hn' (h n hn') hi

namespace Schema

theorem Chapter.legible_entry (c : Chapter) : c.entry.Legible := by
  have htype : ∀ f : Family, f.type.Legible := by
    intro f
    cases f with
    | command => exact .plain (by decide)
    | configuration => exact .generic (by decide) (by decide)
    | status => exact .generic (by decide) (by decide)
  exact .member (htype c.family) (by simp)

theorem Chapter.Outlines.legible_interfaces {p : Family × Value} {c : Chapter}
    (h : c.Outlines p) : ∀ i ∈ c.interfaces, i.Legible := by
  intro i hi
  rcases List.mem_cons.1 hi with rfl | hi
  · refine .mk ?_ (by simp) h.legible
    cases c.family <;> decide
  · exact Node.legible_argumentsIn h.legible i hi

end Schema

end DeviceTypings
