import DeviceTypings.Proofs.Document.Rearranged
import DeviceTypings.Proofs.Schema.Accepted
import DeviceTypings.Proofs.Schema.Entrywise

namespace DeviceTypings

theorem Entries.lookup_eq_some_iff_mem {es : Entries} (h : (Value.textKeys es).Nodup)
    {key : Text} {v : Value} : Entries.lookup key es = some v ↔ (.text key, v) ∈ es := by
  refine ⟨mem_of_lookup, fun hm => ?_⟩
  induction es with
  | nil => simp at hm
  | cons e es ih =>
      obtain ⟨k, w⟩ := e
      rw [lookup_cons]
      rcases List.mem_cons.1 hm with he | hm
      · obtain ⟨rfl, rfl⟩ := Prod.mk.inj he
        simp
      · have hlater : key ∈ Value.textKeys es := List.mem_filterMap.2 ⟨_, hm, rfl⟩
        have hk : k.isText key = false := by
          rw [Bool.eq_false_iff, ne_eq, Value.isText_iff]
          rintro rfl
          exact (List.nodup_cons.1 h).1 hlater
        rw [hk]
        exact ih (h.sublist ((List.sublist_cons_self _ es).filterMap _)) hm

namespace Schema

/-!
# Schemas in another order

The keys of an object may come in another order, at any depth that is reached
through structural keys and through the elements of arrays. Elements keep their
places, and what stands under an attribute or describes a type is left alone. Such
a schema compiles exactly if the first one does, to the same document up to order.
-/

mutual

inductive Reordered : Value → Value → Prop
  | refl (v : Value) : Reordered v v
  | map {es fs : Entries} (hkeys : (Value.textKeys es).Nodup) (h : Shuffled EntryReordered es fs) :
      Reordered (.map es) (.map fs)
  | list {vs ws : List Value} (h : List.Forall₂ Reordered vs ws) : Reordered (.list vs) (.list ws)
  | ring (label : Nat) {v w : Value} (h : Reordered v w) : Reordered (.ring label v) (.ring label w)

inductive EntryReordered : Value × Value → Value × Value → Prop
  | keep (e : Value × Value) : EntryReordered e e
  | inside {key : Text} {v w : Value} (hkey : isStructural key = true)
      (hspace : key ≠ valueSpaceKey) (h : Reordered v w) :
      EntryReordered (.text key, v) (.text key, w)

end

/-- The same key, with values of which one is the other in another order. -/
def SameKey {κ : Type} (p q : κ × Value) : Prop := p.1 = q.1 ∧ Reordered p.2 q.2

theorem EntryReordered.sameKey {e f : Value × Value} (h : EntryReordered e f) : SameKey e f := by
  cases h with
  | keep => exact ⟨rfl, .refl _⟩
  | inside _ _ h => exact ⟨rfl, h⟩

variable {es fs : Entries} {v w : Value}

/-- What is picked by its key is picked on both sides. -/
theorem pick_shuffled {κ : Type} (pick : Value → Option κ) (h : Shuffled EntryReordered es fs) :
    Shuffled SameKey (es.filterMap fun (k, v) => (pick k).map (·, v))
      (fs.filterMap fun (k, v) => (pick k).map (·, v)) := by
  refine h.filterMap fun e f hef => ?_
  obtain ⟨hkey, hvalue⟩ := hef.sameKey
  obtain ⟨k, v⟩ := e
  obtain ⟨k', w⟩ := f
  obtain rfl : k = k' := hkey
  show Option.Rel SameKey ((pick k).map (·, v)) ((pick k).map (·, w))
  cases pick k with
  | none => exact .none
  | some key => exact .some ⟨rfl, hvalue⟩

theorem textKeys_perm (h : Shuffled EntryReordered es fs) :
    (Value.textKeys es).Perm (Value.textKeys fs) := by
  have hkeys (es : Entries) : Value.textKeys es =
      (es.filterMap fun (k, v) => k.text?.map (·, v)).map Prod.fst := by
    simp [Value.textKeys, List.map_filterMap, Option.map_map, Function.comp_def]
  rw [hkeys, hkeys]
  exact (pick_shuffled Value.text? h).map_perm fun _ _ hpq => hpq.1

namespace Reordered

theorem bare (h : Reordered v w) : Reordered v.bare w.bare := by
  cases h with
  | refl => exact .refl _
  | map hkeys h => exact .map hkeys h
  | list h => exact .list h
  | ring _ h => exact h

theorem symm (v : Value) {w : Value} (h : Reordered v w) : Reordered w v := by
  induction v using Value.nestedInduction generalizing w with
  | map es ih =>
      cases h with
      | refl => exact .refl _
      | map hkeys h =>
          refine .map ((textKeys_perm h).nodup_iff.1 hkeys) (Shuffled.flip ?_)
          refine h.imp_of_mem fun e he f hef => ?_
          cases hef with
          | keep => exact .keep _
          | inside hkey hspace h => exact .inside hkey hspace (ih _ he h)
  | list vs ih =>
      cases h with
      | refl => exact .refl _
      | list h =>
          have hmem := (List.forall₂_and_left vs _).2 ⟨ih, h⟩
          exact .list (hmem.imp fun _ _ hvw => hvw.1 hvw.2).flip
  | ring label v ih =>
      cases h with
      | refl => exact .refl _
      | ring _ h => exact .ring label (ih h)
  | scalar v hv =>
      cases h with
      | refl => exact .refl _
      | _ => simp [Value.isNested] at hv

end Reordered

/-- Elements keep their places. -/
theorem Reordered.elements {vs : List Value} (h : Reordered (.list vs) w) :
    ∃ ws, w = .list ws ∧ List.Forall₂ Reordered vs ws := by
  cases h with
  | refl => exact ⟨vs, rfl, List.forall₂_same.2 fun v _ => .refl v⟩
  | list h => exact ⟨_, rfl, h⟩

/-! ## Objects that agree -/

/-- Entries with the same attributes and, up to order, the same structure. -/
structure Agree (es fs : Entries) : Prop where
  lookup_eq : ∀ key, isStructural key = false ∨ key = valueSpaceKey →
    Entries.lookup key fs = Entries.lookup key es
  structural : Shuffled SameKey (structuralEntries es) (structuralEntries fs)
  fresh : ∀ taken, Shuffled SameKey (fresh taken (structuralEntries es))
    (fresh taken (structuralEntries fs))

theorem Agree.refl (es : Entries) : Agree es es :=
  ⟨fun _ _ => rfl, .refl (fun _ => ⟨rfl, .refl _⟩) _, fun _ => .refl (fun _ => ⟨rfl, .refl _⟩) _⟩

/-- An entry that is left alone is found on both sides. -/
theorem mem_iff_of_shuffled (h : Shuffled EntryReordered es fs) {key : Text}
    (hkey : isStructural key = false ∨ key = valueSpaceKey) :
    (.text key, v) ∈ es ↔ (.text key, v) ∈ fs := by
  constructor
  · intro hm
    obtain ⟨f, hf, hef⟩ := h.exists_of_mem hm
    cases hef with
    | keep => exact hf
    | inside hkey' hspace => simp_all
  · intro hm
    obtain ⟨e, he, hef⟩ := h.flip.exists_of_mem hm
    cases hef with
    | keep => exact he
    | inside hkey' hspace => simp_all

theorem Agree.of_shuffled (hkeys : (Value.textKeys es).Nodup)
    (h : Shuffled EntryReordered es fs) : Agree es fs := by
  have hkeys' : (Value.textKeys fs).Nodup := (textKeys_perm h).nodup_iff.1 hkeys
  have hstructural := pick_shuffled structuralKey? h
  refine ⟨fun key hkey => ?_, hstructural, fun taken => ?_⟩
  · ext v
    rw [Entries.lookup_eq_some_iff_mem hkeys, Entries.lookup_eq_some_iff_mem hkeys',
      mem_iff_of_shuffled h hkey]
  · rw [fresh_eq_filter (structuralKeys_nodup hkeys), fresh_eq_filter (structuralKeys_nodup hkeys')]
    exact hstructural.filter fun p q hpq => by rw [hpq.1]

theorem Reordered.agree (h : Reordered (.map es) w) : ∃ fs, w = .map fs ∧ Agree es fs := by
  cases h with
  | refl => exact ⟨es, rfl, .refl es⟩
  | map hkeys h => exact ⟨_, rfl, .of_shuffled hkeys h⟩

namespace Agree

variable {path : List Text} {key : Text}

theorem valueSpace_eq (h : Agree es fs) :
    Entries.lookup valueSpaceKey fs = Entries.lookup valueSpaceKey es :=
  h.lookup_eq _ (.inr rfl)

theorem docstring_eq (h : Agree es fs) : docstring fs = docstring es := by
  unfold docstring
  rw [h.lookup_eq descriptionKey (.inl (by decide))]

theorem leaf_eq (h : Agree es fs) (space : Value) :
    leaf path key fs space = leaf path key es space := by
  unfold leaf
  rw [h.docstring_eq, h.lookup_eq requiredKey (.inl (by decide))]

end Agree

/-! ## Parameters -/

variable {path : List Text} {key : Text}

theorem describedBy_eq_ok {u : Value} : describedBy v = .ok u ↔
    (∃ vs, v.bare = .list (u :: vs)) ∨ (∀ vs, v.bare ≠ .list vs) ∧ u = v := by
  unfold describedBy
  split
  · simp_all
  · simp_all [eq_comm]
  · rename_i hnil hcons
    have hlist (vs : List Value) : v.bare ≠ .list vs := by
      cases vs with
      | nil => exact hnil
      | cons v vs => exact hcons v vs
    simp [hlist, eq_comm]

theorem describedBy_reordered {u : Value} (h : Reordered v w) (hu : describedBy v = .ok u) :
    ∃ x, describedBy w = .ok x ∧ Reordered u x := by
  simp only [describedBy_eq_ok] at hu ⊢
  have hb := h.bare
  rcases hu with ⟨vs, hvs⟩ | ⟨hvs, rfl⟩
  · rw [hvs] at hb
    obtain ⟨ws, hws, hvw⟩ := hb.elements
    obtain ⟨x, xs, hx, -, rfl⟩ := List.forall₂_cons_left_iff.1 hvw
    exact ⟨x, .inl ⟨xs, hws⟩, hx⟩
  · refine ⟨w, .inr ⟨fun ws hws => ?_, rfl⟩, h⟩
    obtain ⟨vs, hvs', -⟩ := (hws ▸ Reordered.symm _ hb).elements
    exact hvs vs hvs'

theorem parameter_reordered {m : Member} (h : Reordered v w)
    (hm : parameter path key v = .ok m) : parameter path key w = .ok m := by
  obtain ⟨u, es, space, hu, hes, hspace, hleaf⟩ := parameter_eq_ok.1 hm
  obtain ⟨x, hx, hux⟩ := describedBy_reordered h hu
  obtain ⟨fs, hfs, hagree⟩ := (hes ▸ hux.bare).agree
  exact parameter_eq_ok.2 ⟨x, fs, space, hx, hfs, hagree.valueSpace_eq.trans hspace,
    (hagree.leaf_eq space).trans hleaf⟩

theorem argumentsOf_rearranged {ms ms' : List Member} (h : ms.Perm ms') :
    Option.Rel InterfaceOf.Rearranged (argumentsOf path ms) (argumentsOf path ms') := by
  cases ms with
  | nil =>
      rw [List.nil_perm.1 h]
      exact .none
  | cons m ms =>
      cases ms' with
      | nil => simp at h
      | cons m' ms' => exact .some (.mk ((Node.rearranged_refl _).trans_perm (h.map _)))

/-- The interface of arguments has its members in another order. -/
theorem arguments_shuffled {ps qs : List (Text × Value)} {args : Option Interface}
    {ts : List Step} (h : Shuffled SameKey ps qs) (hargs : (arguments path ps).Yields args ts) :
    ∃ args' us, (arguments path qs).Yields args' us ∧
      Option.Rel InterfaceOf.Rearranged args args' := by
  obtain ⟨ms, hms, rfl⟩ := arguments_iff.1 ⟨ts, hargs⟩
  have hread (p q : Text × Value) (m : Member) (hpq : SameKey p q)
      (hm : parameter (path ++ [p.1]) p.1 p.2 = .ok m) :
      ∃ m', parameter (path ++ [q.1]) q.1 q.2 = .ok m' ∧ m = m' :=
    ⟨m, hpq.1 ▸ parameter_reordered hpq.2 hm, rfl⟩
  obtain ⟨ms', hms', hperm⟩ := h.exists_forall₂ hms hread
  obtain ⟨us, hus⟩ := arguments_iff.2 ⟨ms', hms', rfl⟩
  exact ⟨_, us, hus, argumentsOf_rearranged hperm.perm_of_eq⟩

/-! ## Outlines -/

theorem leadingLeaf?_reordered {vs ws : List Value} (h : List.Forall₂ Reordered vs ws) :
    Option.Rel (fun p q => Agree p.1 q.1 ∧ p.2 = q.2) (leadingLeaf? vs) (leadingLeaf? ws) := by
  cases h with
  | nil => exact .none
  | @cons v w vs ws h _ =>
      have hb := h.bare
      rw [leadingLeaf?, leadingLeaf?]
      generalize v.bare = a at hb ⊢
      generalize w.bare = b at hb ⊢
      cases a with
      | map es =>
          obtain ⟨fs, hfs, hagree⟩ := hb.agree
          simp only [hfs, hagree.valueSpace_eq]
          cases Entries.lookup valueSpaceKey es with
          | none => exact .none
          | some space => exact .some ⟨hagree, rfl⟩
      | _ => cases hb <;> exact .none

/-- In whatever order a value is put, its outline is the same up to order. -/
structure Stable (v : Value) : Prop where
  outline : ∀ {path : List Text} {key : Text} {w : Value} {n : Node} {ts : List Step},
    Reordered v w → (outline path key v).Yields n ts →
      ∃ m us, (outline path key w).Yields m us ∧ n.Rearranged m
  element : ∀ {path taken taken' : List Text} {index : Nat} {w : Value} {ns : List Node}
    {ts : List Step}, Reordered v w → (∀ key, key ∈ taken ↔ key ∈ taken') →
      (outlineElement path index taken v).Yields ns ts →
        ∃ ms us, (outlineElement path index taken' w).Yields ms us ∧
          Shuffled Node.Rearranged ns ms

/-- Entries give the same members if each of them does. -/
theorem entries_stable {ps qs : List (Text × Value)} {ns : List Node}
    (hps : ∀ p ∈ ps, Stable p.2) (h : Shuffled SameKey ps qs)
    (hns : List.Forall₂ (OutlinesEntry path) ps ns) :
    ∃ ms, List.Forall₂ (OutlinesEntry path) qs ms ∧ Shuffled Node.Rearranged ns ms := by
  have hstable : Shuffled (fun p q => SameKey p q ∧ Stable p.2) ps qs :=
    h.imp_of_mem fun p hp q hpq => ⟨hpq, hps p hp⟩
  refine hstable.exists_forall₂ hns fun p q n hpq hn => ?_
  obtain ⟨⟨hkey, hvalue⟩, hp⟩ := hpq
  obtain ⟨ts, hts⟩ := hn
  obtain ⟨m, us, hm, hnm⟩ := hp.outline hvalue hts
  exact ⟨m, ⟨us, hkey ▸ hm⟩, hnm⟩

theorem outlineEntries_stable {ns : List Node} {ts : List Step} (hes : ∀ e ∈ es, Stable e.2)
    (h : Agree es fs) (hns : (outlineEntries path es).Yields ns ts) :
    ∃ ms us, (outlineEntries path fs).Yields ms us ∧ Shuffled Node.Rearranged ns ms := by
  have hps : ∀ p ∈ structuralEntries es, Stable p.2 := forall_structuralEntries hes
  obtain ⟨ms, hms, hnm⟩ := entries_stable hps h.structural (outlineEntries_iff.1 ⟨ts, hns⟩)
  obtain ⟨us, hus⟩ := outlineEntries_iff.2 hms
  exact ⟨ms, us, hus, hnm⟩

theorem outlineFresh_stable {taken taken' : List Text} {ns : List Node} {ts : List Step}
    (hes : ∀ e ∈ es, Stable e.2) (h : Agree es fs) (htaken : ∀ key, key ∈ taken ↔ key ∈ taken')
    (hns : (outlineFresh path taken es).Yields ns ts) :
    ∃ ms us, (outlineFresh path taken' fs).Yields ms us ∧ Shuffled Node.Rearranged ns ms := by
  have hps : ∀ p ∈ fresh taken (structuralEntries es), Stable p.2 := fun p hp =>
    forall_structuralEntries hes p ((fresh_sublist _ _).subset hp)
  obtain ⟨ms, hms, hnm⟩ := entries_stable hps (h.fresh taken) (outlineFresh_iff.1 ⟨ts, hns⟩)
  rw [fresh_congr _ htaken] at hms
  obtain ⟨us, hus⟩ := outlineFresh_iff.2 hms
  exact ⟨ms, us, hus, hnm⟩

theorem outlineElements_stable {vs ws : List Value} {taken taken' : List Text} {index : Nat}
    {ns : List Node} {ts : List Step} (hvs : ∀ v ∈ vs, Stable v)
    (h : List.Forall₂ Reordered vs ws) (htaken : ∀ key, key ∈ taken ↔ key ∈ taken')
    (hns : (outlineElements path index taken vs).Yields ns ts) :
    ∃ ms us, (outlineElements path index taken' ws).Yields ms us ∧
      Shuffled Node.Rearranged ns ms := by
  induction h generalizing index taken taken' ns ts with
  | nil =>
      obtain ⟨rfl, -⟩ := Script.yields_pure.1 hns
      exact ⟨[], [], Script.yields_pure.2 ⟨rfl, rfl⟩, .nil⟩
  | cons hvw _ ih =>
      obtain ⟨hv, hvs⟩ := List.forall_mem_cons.1 hvs
      obtain ⟨first, us, rest, us', hfirst, hrest, rfl, rfl⟩ := outlineElements_cons.1 hns
      obtain ⟨first', xs, hfirst', hshuffled⟩ := hv.element hvw htaken hfirst
      -- The names that the element takes are the same on both sides, in another order.
      have hnames := hshuffled.map_perm fun _ _ hnm => hnm.name_eq
      have htaken' (key : Text) : key ∈ first.map Node.name ++ taken ↔
          key ∈ first'.map Node.name ++ taken' := by
        rw [List.mem_append, List.mem_append, hnames.mem_iff, htaken]
      obtain ⟨rest', xs', hrest', hshuffled'⟩ := ih hvs htaken' hrest
      exact ⟨_, _, outlineElements_cons.2 ⟨first', xs, rest', xs', hfirst', hrest', rfl, rfl⟩,
        hshuffled.append hshuffled'⟩

theorem command_stable {n : Node} {ts : List Step} (h : Agree es fs)
    (hn : (command path key es).Yields n ts) :
    ∃ m us, (command path key fs).Yields m us ∧ n.Rearranged m := by
  obtain ⟨args, doc, hargs, hdoc, rfl⟩ := command_yields.1 hn
  obtain ⟨args', us, hargs', hrel⟩ := arguments_shuffled h.structural hargs
  refine ⟨_, us, command_yields.2 ⟨args', doc, hargs', h.docstring_eq.trans hdoc, rfl⟩, ?_⟩
  rw [h.lookup_eq multilineKey (.inl (by decide))]
  exact .command hrel

theorem stable_map (hes : ∀ e ∈ es, Stable e.2) : Stable (.map es) where
  outline := by
    intro path key w n ts h hn
    obtain ⟨fs, rfl, hagree⟩ := h.agree
    rw [outline] at hn ⊢
    rw [hagree.lookup_eq commandKey (.inl (by decide)), hagree.valueSpace_eq]
    split at hn
    · rename_i hcommand
      rw [if_pos hcommand]
      exact command_stable hagree hn
    · rename_i hcommand
      rw [if_neg hcommand]
      split at hn
      · exact ⟨n, ts, by rwa [hagree.leaf_eq], .refl n⟩
      · obtain ⟨ns, hns, rfl⟩ := Script.yields_map.1 hn
        obtain ⟨ms, us, hms, hnm⟩ := outlineEntries_stable hes hagree hns
        exact ⟨_, us, Script.yields_map.2 ⟨ms, hms, rfl⟩, .tree .object key hnm⟩
  element := by
    intro path taken taken' index w ns ts h htaken hns
    obtain ⟨fs, rfl, hagree⟩ := h.agree
    have hid : Entries.lookup idKey fs = Entries.lookup idKey es :=
      hagree.lookup_eq idKey (.inl (by decide))
    cases hes' : Entries.lookup idKey es with
    | some id =>
        obtain ⟨text, cs, htext, hcs, rfl⟩ := (outlineElement_some hes').1 hns
        obtain ⟨ms, us, hms, hnm⟩ := outlineEntries_stable hes hagree hcs
        exact ⟨_, us, (outlineElement_some (hid.trans hes')).2 ⟨text, ms, htext, hms, rfl⟩,
          .cons (.tree .object text hnm) .nil⟩
    | none =>
        rw [outlineElement_none hes'] at hns
        rw [outlineElement_none (hid.trans hes')]
        exact outlineFresh_stable hes hagree htaken hns

theorem stable_list {vs : List Value} (hvs : ∀ v ∈ vs, Stable v) : Stable (.list vs) where
  outline := by
    intro path key w n ts h hn
    obtain ⟨ws, rfl, hvw⟩ := h.elements
    have hleaf := leadingLeaf?_reordered hvw
    rw [outline] at hn ⊢
    split at hn
    · rename_i es space hes
      rw [hes] at hleaf
      generalize leadingLeaf? ws = leading at hleaf ⊢
      cases hleaf with
      | @some _ q hq =>
          obtain ⟨fs, space'⟩ := q
          obtain ⟨hagree, rfl⟩ : Agree es fs ∧ space = space' := hq
          refine ⟨n, ts, ?_, .refl n⟩
          show (Script.ofExcept ((leaf path key fs space).map Node.member)).Yields n ts
          rwa [hagree.leaf_eq]
    · rename_i hes
      rw [hes] at hleaf
      generalize leadingLeaf? ws = leading at hleaf ⊢
      cases hleaf
      obtain ⟨ns, hns, rfl⟩ := Script.yields_map.1 hn
      obtain ⟨ms, us, hms, hnm⟩ := outlineElements_stable hvs hvw (fun _ => Iff.rfl) hns
      exact ⟨_, us, Script.yields_map.2 ⟨ms, hms, rfl⟩, .tree .collection key hnm⟩
  element := by
    intro path taken taken' index w ns ts _ _ hns
    simp [outlineElement, misplaced] at hns

theorem stable (v : Value) : Stable v := by
  induction v using Value.nestedInduction with
  | map es ih => exact stable_map ih
  | list vs ih => exact stable_list ih
  | ring label v ih =>
      constructor
      · intro path key w n ts h hn
        cases h with
        | refl => exact ⟨n, ts, hn, .refl n⟩
        | ring _ h =>
            rw [outline] at hn ⊢
            exact ih.outline h hn
      · intro path taken taken' index w ns ts h htaken hns
        cases h with
        | refl =>
            rw [outlineElement] at hns ⊢
            exact ih.element (.refl v) htaken hns
        | ring _ h =>
            rw [outlineElement] at hns ⊢
            exact ih.element h htaken hns
  | scalar v hv =>
      constructor
      · intro path key w n ts h hn
        cases v <;> simp_all [Value.isNested, outline, misplaced]
      · intro path taken taken' index w ns ts h htaken hns
        cases v <;> simp_all [Value.isNested, outlineElement, misplaced]

/-! ## Chapters and documents -/

/-- The chapter of one family, with its members in another order. -/
def Chapter.Rearranged (c c' : Chapter) : Prop :=
  c.family = c'.family ∧ Shuffled Node.Rearranged c.nodes c'.nodes

theorem Chapter.Outlines.rearranged {p q : Family × Value} {c : Chapter} (h : SameKey p q)
    (hc : c.Outlines p) : ∃ c' : Chapter, c'.Outlines q ∧ c.Rearranged c' := by
  obtain ⟨hfamily, es, ts, hes, hns⟩ := hc
  obtain ⟨hkey, hvalue⟩ := h
  obtain ⟨fs, hfs, hagree⟩ := (hes ▸ hvalue.bare).agree
  obtain ⟨ms, us, hms, hnm⟩ := outlineEntries_stable (fun e _ => stable e.2) hagree hns
  exact ⟨⟨q.1, ms⟩, ⟨rfl, fs, us, hfs, hkey ▸ hms⟩, hfamily.trans hkey, hnm⟩

theorem familiesOf_shuffled (h : Reordered v w) (hv : v.bare = .map es) :
    ∃ fs, w.bare = .map fs ∧ Shuffled SameKey (familiesOf es) (familiesOf fs) := by
  have hb := h.bare
  rw [hv] at hb
  generalize w.bare = b at hb ⊢
  cases hb with
  | refl => exact ⟨es, rfl, .refl (fun _ => ⟨rfl, .refl _⟩) _⟩
  | map _ h => exact ⟨_, rfl, pick_shuffled Family.ofKey? h⟩

variable {cs cs' : List Chapter} {o : Options}

theorem interfaces_shuffled (h : Shuffled Chapter.Rearranged cs cs') :
    Shuffled InterfaceOf.Rearranged (cs.flatMap Chapter.interfaces)
      (cs'.flatMap Chapter.interfaces) := by
  refine h.flatMap fun c c' hc => ?_
  obtain ⟨f, ns⟩ := c
  obtain ⟨f', ms⟩ := c'
  obtain ⟨rfl, hnm⟩ : f = f' ∧ Shuffled Node.Rearranged ns ms := hc
  exact .cons (.mk hnm) (Node.argumentsIn_shuffled hnm)

theorem any_isWrapped_shuffled (h : Shuffled Chapter.Rearranged cs cs') :
    cs.any Chapter.isWrapped = cs'.any Chapter.isWrapped := by
  have hperm : (cs.map Chapter.isWrapped).Perm (cs'.map Chapter.isWrapped) :=
    h.map_perm fun c c' hc => by rw [Chapter.isWrapped, Chapter.isWrapped, hc.1]
  simpa using hperm.any_eq (f := id)

theorem chapterNames_shuffled (h : Shuffled Chapter.Rearranged cs cs') :
    (chapterNames false cs).Perm (chapterNames false cs') := by
  have hnames := (interfaces_shuffled h).map_perm fun _ _ hij => hij.name_eq
  refine (chapterNames_perm false cs).trans (List.Perm.trans ?_ (chapterNames_perm false cs').symm)
  rw [any_isWrapped_shuffled h]
  exact hnames.append_left _

/-- Documents with the same interfaces up to order find them under the same names. -/
theorem found_of_shuffled {d e : Document} (hd : (d.interfaces.map InterfaceOf.name).Nodup)
    (he : (e.interfaces.map InterfaceOf.name).Nodup)
    (h : Shuffled InterfaceOf.Rearranged d.interfaces e.interfaces) (name : Text) :
    Option.Rel InterfaceOf.Rearranged (d.interface? name) (e.interface? name) := by
  cases hi : d.interface? name with
  | some i =>
      obtain rfl : i.name = name := by simpa using List.find?_some hi
      obtain ⟨j, hj, hij⟩ := h.exists_of_mem (List.mem_of_find?_eq_some hi)
      rw [hij.name_eq, interface?_eq_some he hj]
      exact .some hij
  | none =>
      cases hj : e.interface? name with
      | none => exact .none
      | some j =>
          obtain rfl : j.name = name := by simpa using List.find?_some hj
          obtain ⟨i, hi', hij⟩ := h.flip.exists_of_mem (List.mem_of_find?_eq_some hj)
          have hfound := interface?_eq_some hd hi'
          rw [hij.name_eq, hi] at hfound
          simp at hfound

theorem document_rearranged (h : Shuffled Chapter.Rearranged cs cs')
    (hnames : (chapterNames false cs).Nodup) :
    (o.layout.addChapters cs).document.Rearranged (o.layout.addChapters cs').document := by
  have hinterfaces : Shuffled InterfaceOf.Rearranged (o.layout.addChapters cs).document.interfaces
      (o.layout.addChapters cs').document.interfaces := by
    rw [interfaces_chapters, interfaces_chapters]
    exact interfaces_shuffled h
  have hnodup {ds : List Chapter} (hds : (chapterNames false ds).Nodup) :
      ((o.layout.addChapters ds).document.interfaces.map InterfaceOf.name).Nodup :=
    @interfaces_chapters o ds ▸ interfaceNames_nodup hds
  have hentries : Shuffled Node.Rearranged (cs.map Chapter.entry) (cs'.map Chapter.entry) := by
    refine h.map fun c c' hc => ?_
    rw [Chapter.entry, Chapter.entry, hc.1]
    exact .refl _
  have hregistered := chapterNames_shuffled h
  refine ⟨rfl, rfl, ?_, hinterfaces, ?_, ?_⟩
  · simp only [Layout.document, Layout.addChapters, any_isWrapped_shuffled h]
    refine List.rel_append (List.forall₂_same.2 ?_) (.cons (.main ?_) ?_)
    · intro d hd
      split at hd
      · obtain rfl := List.mem_singleton.1 hd
        exact .builtins
      · simp at hd
    · exact (Node.rearranged_refl _).append hentries
    · exact Declaration.inPlace_interfaces (by simp [(interfaces_shuffled h).length_eq])
  · rwa [registered_chapters, registered_chapters]
  · exact found_of_shuffled (hnodup hnames) (hnodup (hregistered.nodup_iff.1 hnames)) hinterfaces

theorem exists_compile_reordered {s s' : Value} {d : Document} (h : Reordered s s')
    (hd : compile o s = .ok d) : ∃ d', compile o s' = .ok d' ∧ d.Rearranged d' := by
  obtain ⟨es, cs, hes, hcs, hnames, rfl⟩ := compile_eq_ok.1 hd
  obtain ⟨fs, hfs, hfamilies⟩ := familiesOf_shuffled h hes
  obtain ⟨cs', hcs', hshuffled⟩ := hfamilies.exists_forall₂ hcs fun _ _ _ hpq hc =>
    hc.rearranged hpq
  have hperm := (chapterNames_shuffled hshuffled).cons o.className
  exact ⟨_, compile_eq_ok.2 ⟨fs, cs', hfs, hcs', hperm.nodup_iff.1 hnames, rfl⟩,
    document_rearranged hshuffled (List.nodup_cons.1 hnames).2⟩

/-- Putting the keys of a schema in another order changes its document only up to
order, and no fault comes or goes. -/
theorem compile_reordered {s s' : Value} (h : Reordered s s') :
    ((∃ d, compile o s = .ok d) ↔ ∃ d, compile o s' = .ok d) ∧
      ∀ d d', compile o s = .ok d → compile o s' = .ok d' → d.Rearranged d' := by
  refine ⟨⟨?_, ?_⟩, ?_⟩
  · rintro ⟨d, hd⟩
    obtain ⟨d', hd', -⟩ := exists_compile_reordered h hd
    exact ⟨d', hd'⟩
  · rintro ⟨d', hd'⟩
    obtain ⟨d, hd, -⟩ := exists_compile_reordered (Reordered.symm _ h) hd'
    exact ⟨d, hd⟩
  · intro d d' hd hd'
    obtain ⟨e, he, hde⟩ := exists_compile_reordered h hd
    obtain rfl := Except.ok.inj (he.symm.trans hd')
    exact hde

/-- The schema `lineSchema` with its families, the keys of one of them and those of one
element the other way round. -/
def turnedLineSchema : Value :=
  .map [
    (.text "StatusSchema", .map [(.text "Volume", textLeaf)]),
    (.text "Command", .map [
      (.text "Line", .list [
        .map [(.text idKey, .int 1), (.text "Hold", textCommand)],
        .map [(.text "Mode", textLeaf)],
        .map [(.text "Drop", textCommand), (.text "Mode", .null)]]),
      (.text "Dial", textCommand)])]

theorem reordered_lineSchema : Reordered lineSchema turnedLineSchema := by
  have hswap {e f e' f' : Value × Value} (hkeys : (Value.textKeys [e, f]).Nodup)
      (he : EntryReordered e e') (hf : EntryReordered f f') :
      Reordered (.map [e, f]) (.map [f', e']) :=
    .map hkeys ⟨.cons he (.cons hf .nil), .swap _ _ _⟩
  have hinside (key : Text) {v w : Value} (hkey : isStructural key = true)
      (hspace : key ≠ valueSpaceKey) (h : Reordered v w) :
      EntryReordered (.text key, v) (.text key, w) :=
    .inside hkey hspace h
  have hlast : Reordered (.map [(.text "Mode", .null), (.text "Drop", textCommand)])
      (.map [(.text "Drop", textCommand), (.text "Mode", .null)]) :=
    hswap (by decide) (.keep _) (.keep _)
  have hline := Reordered.list (.cons (.refl (.map [(.text idKey, .int 1), (.text "Hold", textCommand)]))
    (.cons (.refl (.map [(.text "Mode", textLeaf)])) (.cons hlast .nil)))
  have hcommand := hswap (by decide) (.keep (.text "Dial", textCommand))
    (hinside "Line" (by decide) (by decide) hline)
  exact hswap (by decide) (hinside "Command" (by decide) (by decide) hcommand) (.keep _)

theorem compile_turnedLineSchema : ∃ d d', compile {} lineSchema = .ok d ∧
    compile {} turnedLineSchema = .ok d' ∧ d.Rearranged d' := by
  obtain ⟨hiff, hrearranged⟩ := compile_reordered (o := {}) reordered_lineSchema
  obtain ⟨d, hd⟩ := exists_compile_lineSchema
  obtain ⟨d', hd'⟩ := hiff.1 ⟨d, hd⟩
  exact ⟨d, d', hd, hd', hrearranged d d' hd hd'⟩

end Schema

end DeviceTypings
