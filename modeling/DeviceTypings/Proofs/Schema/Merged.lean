import DeviceTypings.Proofs.Schema.Entrywise
import DeviceTypings.Proofs.Schema.Stripped

namespace DeviceTypings.Schema

/-!
# Arrays without ids

The elements of a keyed array that have no ids are read as if they were one object, in which
the first entry under a key counts. Such an array may be replaced by this one object, wherever
in a schema it stands. An element may also be written once more, or one added whose keys are all
there before it.
-/

variable {path taken : List Text} {key : Text} {es fs : Entries} {v w : Value}
  {vs ws : List Value} {ps qs rs : List (Text × Value)}

/-! ## Listed entries -/

/-- The members for some entries in a row. -/
def outlineListed (path : List Text) : List (Text × Value) → Script (List Node)
  | [] => pure []
  | p :: ps => do
      let n ← outline (path ++ [p.1]) p.1 p.2
      let ns ← outlineListed path ps
      return n :: ns

theorem outlineListed_append (path : List Text) (ps qs : List (Text × Value)) :
    outlineListed path (ps ++ qs) = do
      let ns ← outlineListed path ps
      let ms ← outlineListed path qs
      return ns ++ ms := by
  induction ps with
  | nil => simp [outlineListed]
  | cons p ps ih => simp [outlineListed, ih]

theorem outlineEntries_eq_listed (path : List Text) (es : Entries) :
    outlineEntries path es = outlineListed path (structuralEntries es) := by
  induction es with
  | nil => rfl
  | cons e es ih =>
      obtain ⟨k, v⟩ := e
      cases hk : structuralKey? k with
      | none => rw [outlineEntries_cons_none hk, structuralEntries_cons_none hk, ih]
      | some key =>
          rw [structuralEntries_cons_some hk, outlineListed, ← ih, outlineEntries]
          simp only [hk]

/-- What is passed over is noted only. -/
theorem effect_outlineFresh (path taken : List Text) (es : Entries) :
    (outlineFresh path taken es).effect =
      (outlineListed path (fresh taken (structuralEntries es))).effect := by
  induction es generalizing taken with
  | nil => rfl
  | cons e es ih =>
      obtain ⟨k, v⟩ := e
      cases hk : structuralKey? k with
      | none => rw [outlineFresh_cons_none hk, structuralEntries_cons_none hk, ih]
      | some key =>
          rw [structuralEntries_cons_some hk, outlineFresh]
          simp only [hk, List.contains_iff_mem]
          by_cases ht : key ∈ taken
          · rw [if_pos ht, fresh_cons_mem (p := (key, v)) ht, ← ih]
            exact Script.effect_note_bind (.repeatedKey key path) fun _ =>
              outlineFresh path taken es
          · rw [if_neg ht, fresh_cons_notMem (p := (key, v)) ht]
            exact Script.effect_bind rfl fun n _ _ =>
              Script.effect_bind (ih (key :: taken)) fun _ _ _ => rfl

/-! ## Entries whose keys were there before -/

theorem fresh_append {taken' : List Text}
    (h : ∀ key, key ∈ taken' ↔ key ∈ taken ++ ps.map Prod.fst) :
    fresh taken (ps ++ qs) = fresh taken ps ++ fresh taken' qs := by
  induction ps generalizing taken with
  | nil => exact fresh_congr qs fun key => by simpa using (h key).symm
  | cons p ps ih =>
      by_cases hp : p.1 ∈ taken
      · rw [List.cons_append, fresh_cons_mem hp, fresh_cons_mem hp]
        exact ih fun key => by rw [h key]; grind
      · rw [List.cons_append, fresh_cons_notMem hp, fresh_cons_notMem hp, List.cons_append,
          ih fun key => by rw [h key]; grind]

theorem fresh_eq_nil (h : ∀ key ∈ ps.map Prod.fst, key ∈ taken) : fresh taken ps = [] := by
  induction ps with
  | nil => rfl
  | cons p ps ih =>
      obtain ⟨hp, hps⟩ := List.forall_mem_cons.1 h
      rw [fresh_cons_mem hp, ih hps]

/-- Entries under keys that were there before change nothing. -/
theorem fresh_append_append (h : ∀ key ∈ qs.map Prod.fst, key ∈ taken ++ ps.map Prod.fst) :
    fresh taken (ps ++ (qs ++ rs)) = fresh taken (ps ++ rs) := by
  have hseen (key : Text) : key ∈ taken ++ ps.map Prod.fst ↔
      key ∈ (taken ++ ps.map Prod.fst) ++ qs.map Prod.fst := by grind
  rw [fresh_append (fun _ => Iff.rfl), fresh_append hseen, fresh_eq_nil h, List.nil_append,
    ← fresh_append fun _ => Iff.rfl]

theorem fresh_idem (taken : List Text) (ps : List (Text × Value)) :
    fresh taken (fresh taken ps) = fresh taken ps := by
  induction ps generalizing taken with
  | nil => rfl
  | cons p ps ih =>
      by_cases hp : p.1 ∈ taken
      · rw [fresh_cons_mem hp, ih]
      · rw [fresh_cons_notMem hp, fresh_cons_notMem hp, ih]

/-! ## The elements as one object -/

/-- The entries of an object. Other values have none. -/
def objectEntries (v : Value) : Entries :=
  match v.bare with
  | .map es => es
  | _ => []

/-- An object whose entries are those of the array that it is in. -/
structure IsUnnamed (v : Value) : Prop where
  isMap : v.bare = .map (objectEntries v)
  noId : Entries.lookup idKey (objectEntries v) = none
  noSpace : Entries.lookup valueSpaceKey (objectEntries v) = none

/-- Leaves out the entries under keys that are seen before. -/
def firstEntries (seen : List Value) : Entries → Entries
  | [] => []
  | (k, v) :: es =>
      if seen.any (·.sameKey k) then firstEntries seen es
      else (k, v) :: firstEntries (k :: seen) es

/-- The entries of some objects, and of those under one key the first. -/
def mergedEntries (vs : List Value) : Entries := firstEntries [] (vs.flatMap objectEntries)

/-- The structural entries of the elements of an array. -/
def listedEntries (vs : List Value) : List (Text × Value) :=
  vs.flatMap fun v => structuralEntries (objectEntries v)

theorem outlineElement_unnamed (hv : IsUnnamed v) (path : List Text) (index : Nat)
    (taken : List Text) :
    outlineElement path index taken v = outlineFresh path taken (objectEntries v) := by
  have hmap := hv.isMap
  cases v with
  | map es => exact outlineElement_none hv.noId
  | ring label u =>
      have hu : u = .map (objectEntries (.ring label u)) := hmap
      rw [outlineElement, hu]
      exact outlineElement_none hv.noId
  | _ => simp [Value.bare] at hmap

/-- Elements without ids have the members of all their entries in a row. -/
theorem effect_outlineElements (hvs : ∀ v ∈ vs, IsUnnamed v) (path : List Text) (index : Nat)
    (taken : List Text) : (outlineElements path index taken vs).effect =
      (outlineListed path (fresh taken (listedEntries vs))).effect := by
  induction vs generalizing index taken with
  | nil => rfl
  | cons v vs ih =>
      obtain ⟨hv, hvs⟩ := List.forall_mem_cons.1 hvs
      have hlisted : listedEntries (v :: vs) =
          structuralEntries (objectEntries v) ++ listedEntries vs := List.flatMap_cons
      rw [hlisted, fresh_append fun _ => Iff.rfl, outlineListed_append, outlineElements,
        outlineElement_unnamed hv]
      refine Script.effect_bind (effect_outlineFresh path taken _) fun ns ts hns => ?_
      have hlater := outlineFresh_names hns
      rw [structuralKeys] at hlater
      rw [← fresh_congr _ hlater]
      exact Script.effect_bind (ih hvs _ _) fun _ _ _ => rfl

theorem sameKey_text (k : Value) (key : Text) : k.sameKey (.text key) = k.isText key := by
  cases k <;> simp [Value.sameKey, Value.integer?, Value.isText]

theorem any_sameKey_text {seen : List Value} :
    seen.any (·.sameKey (.text key)) = true ↔ .text key ∈ seen := by
  simp [sameKey_text]

/-- Keys that are no structural ones are never in the way of those that are. -/
theorem structuralEntries_firstEntries {seen : List Value}
    (h : ∀ key, isStructural key = true → (.text key ∈ seen ↔ key ∈ taken)) (es : Entries) :
    structuralEntries (firstEntries seen es) = fresh taken (structuralEntries es) := by
  induction es generalizing seen taken with
  | nil => rfl
  | cons e es ih =>
      obtain ⟨k, v⟩ := e
      rw [firstEntries]
      cases hk : structuralKey? k with
      | none =>
          have hother (key : Text) (hkey : isStructural key = true) :
              .text key ∈ k :: seen ↔ key ∈ taken := by
            have hne : .text key ≠ k := by
              rintro rfl
              simp [structuralKey?, hkey] at hk
            rw [List.mem_cons, or_iff_right hne, h key hkey]
          rw [structuralEntries_cons_none hk]
          split
          · exact ih h
          · rw [structuralEntries_cons_none hk, ih hother]
      | some key =>
          obtain ⟨rfl, hkey⟩ := structuralKey?_eq_some.1 hk
          have hcons (key' : Text) (hkey' : isStructural key' = true) :
              .text key' ∈ .text key :: seen ↔ key' ∈ key :: taken := by
            simp [h key' hkey']
          rw [structuralEntries_cons_some hk]
          by_cases ht : key ∈ taken
          · rw [if_pos (any_sameKey_text.2 ((h key hkey).2 ht)), ih h,
              fresh_cons_mem (p := (key, v)) ht]
          · rw [if_neg fun hseen => ht ((h key hkey).1 (any_sameKey_text.1 hseen)),
              structuralEntries_cons_some hk, ih hcons, fresh_cons_notMem (p := (key, v)) ht]

theorem structuralEntries_flatMap (vs : List Value) :
    structuralEntries (vs.flatMap objectEntries) = listedEntries vs := by
  simp [structuralEntries, listedEntries, List.filterMap_flatMap]

theorem structuralEntries_mergedEntries (vs : List Value) :
    structuralEntries (mergedEntries vs) = fresh [] (listedEntries vs) := by
  have hnone (key : Text) (_ : isStructural key = true) :
      Value.text key ∈ ([] : List Value) ↔ key ∈ ([] : List Text) := by simp
  rw [mergedEntries, structuralEntries_firstEntries hnone, structuralEntries_flatMap]

theorem firstEntries_subset (seen : List Value) (es : Entries) : firstEntries seen es ⊆ es := by
  induction es generalizing seen with
  | nil => exact List.Subset.refl _
  | cons e es ih =>
      rw [firstEntries]
      split
      · exact List.subset_cons_of_subset _ (ih seen)
      · exact List.cons_subset_cons _ (ih _)

theorem lookup_mergedEntries (h : ∀ v ∈ vs, Entries.lookup key (objectEntries v) = none) :
    Entries.lookup key (mergedEntries vs) = none := by
  by_contra hne
  obtain ⟨w, hw⟩ := Option.ne_none_iff_exists'.1 hne
  obtain ⟨v, hv, hmem⟩ := List.mem_flatMap.1 (firstEntries_subset _ _ (Entries.mem_of_lookup hw))
  exact Entries.notMem_of_lookup (h v hv) w hmem

theorem isUnnamed_merged (hvs : ∀ v ∈ vs, IsUnnamed v) : IsUnnamed (.map (mergedEntries vs)) where
  isMap := rfl
  noId := lookup_mergedEntries fun v hv => (hvs v hv).noId
  noSpace := lookup_mergedEntries fun v hv => (hvs v hv).noSpace

/-! ## Arrays -/

/-- Values that are outlined in the same way. -/
def SameOutline (v w : Value) : Prop :=
  ∀ path key, (outline path key v).effect = (outline path key w).effect

/-- Two ways in which an array without ids may be written otherwise. -/
inductive Rewrites : List Value → List Value → Prop
  | merged {vs : List Value} (h : ∀ v ∈ vs, IsUnnamed v) : Rewrites vs [.map (mergedEntries vs)]
  | repeated {vs ws : List Value} {v : Value} (hvs : ∀ u ∈ vs ++ ws, IsUnnamed u)
      (hv : IsUnnamed v) (hkeys : ∀ key ∈ structuralKeys (objectEntries v),
        ∃ u ∈ vs, key ∈ structuralKeys (objectEntries u)) : Rewrites (vs ++ ws) (vs ++ v :: ws)

theorem leadingLeaf?_unnamed (hvs : ∀ v ∈ vs, IsUnnamed v) : leadingLeaf? vs = none := by
  cases vs with
  | nil => rfl
  | cons v vs =>
      have hv := hvs v List.mem_cons_self
      rw [leadingLeaf?, hv.isMap]
      simp [hv.noSpace]

theorem sameOutline_of_listed (hvs : ∀ v ∈ vs, IsUnnamed v) (hws : ∀ w ∈ ws, IsUnnamed w)
    (h : fresh [] (listedEntries vs) = fresh [] (listedEntries ws)) :
    SameOutline (.list vs) (.list ws) := by
  intro path key
  rw [outline, outline, leadingLeaf?_unnamed hvs, leadingLeaf?_unnamed hws]
  refine Script.effect_map _ ?_
  rw [effect_outlineElements hvs, effect_outlineElements hws, h]

theorem Rewrites.sameOutline (h : Rewrites vs ws) : SameOutline (.list vs) (.list ws) := by
  cases h with
  | merged hvs =>
      have hmerged := isUnnamed_merged hvs
      refine sameOutline_of_listed hvs (by simpa using hmerged) ?_
      have hlisted : listedEntries [.map (mergedEntries vs)] =
          structuralEntries (mergedEntries vs) := List.flatMap_singleton _ _
      rw [hlisted, structuralEntries_mergedEntries, fresh_idem]
  | @repeated vs ws v hvs hv hkeys =>
      have hall : ∀ u ∈ vs ++ v :: ws, IsUnnamed u := by
        intro u hu
        grind
      have hseen : ∀ key ∈ (structuralEntries (objectEntries v)).map Prod.fst,
          key ∈ [] ++ (listedEntries vs).map Prod.fst := by
        intro key hkey
        obtain ⟨u, hu, hmem⟩ := hkeys key hkey
        obtain ⟨p, hp, rfl⟩ := List.mem_map.1 hmem
        exact List.mem_map_of_mem (List.mem_flatMap.2 ⟨u, hu, hp⟩)
      refine sameOutline_of_listed hvs hall ?_
      rw [listedEntries, listedEntries, List.flatMap_append, List.flatMap_append, List.flatMap_cons]
      exact (fresh_append_append hseen).symm

/-! ## Objects -/

/-- An object of which the value under one structural key is another one. -/
inductive EntryReplaced (P : Value → Value → Prop) : Entries → Entries → Prop
  | mk {before after : Entries} {key : Text} {v w : Value} (hkey : isStructural key = true)
      (h : P v w) :
      EntryReplaced P (before ++ (.text key, v) :: after) (before ++ (.text key, w) :: after)

/-- Entries under the same key that are outlined in the same way. -/
def SameEntry (p q : Text × Value) : Prop := p.1 = q.1 ∧ SameOutline p.2 q.2

theorem SameEntry.refl (p : Text × Value) : SameEntry p p := ⟨rfl, fun _ _ => rfl⟩

theorem effect_outlineListed (h : List.Forall₂ SameEntry ps qs) (path : List Text) :
    (outlineListed path ps).effect = (outlineListed path qs).effect := by
  induction h with
  | nil => rfl
  | cons hpq _ ih =>
      obtain ⟨hkey, hvalue⟩ := hpq
      rw [outlineListed, outlineListed, ← hkey]
      exact Script.effect_bind (hvalue _ _) fun _ _ _ => Script.effect_bind ih fun _ _ _ => rfl

theorem forall₂_fresh (h : List.Forall₂ SameEntry ps qs) (taken : List Text) :
    List.Forall₂ SameEntry (fresh taken ps) (fresh taken qs) := by
  induction h generalizing taken with
  | nil => exact .nil
  | @cons p q _ _ hpq _ ih =>
      by_cases hp : p.1 ∈ taken
      · rw [fresh_cons_mem hp, fresh_cons_mem (hpq.1 ▸ hp)]
        exact ih taken
      · rw [fresh_cons_notMem hp, fresh_cons_notMem (hpq.1 ▸ hp), ← hpq.1]
        exact .cons hpq (ih _)

namespace EntryReplaced

variable {P : Value → Value → Prop}

theorem forall₂_structural (h : EntryReplaced SameOutline es fs) :
    List.Forall₂ SameEntry (structuralEntries es) (structuralEntries fs) := by
  obtain ⟨hkey, hvw⟩ := h
  have hsame (es : Entries) :
      List.Forall₂ SameEntry (structuralEntries es) (structuralEntries es) :=
    List.forall₂_same.2 fun p _ => SameEntry.refl p
  have hstructural {key : Text} (hkey : isStructural key = true) :
      structuralKey? (.text key) = some key := structuralKey?_eq_some.2 ⟨rfl, hkey⟩
  rw [structuralEntries, structuralEntries, List.filterMap_append, List.filterMap_append]
  refine List.rel_append (hsame _) ?_
  rw [← structuralEntries, ← structuralEntries, structuralEntries_cons_some (hstructural hkey),
    structuralEntries_cons_some (hstructural hkey)]
  exact .cons ⟨rfl, hvw⟩ (hsame _)

/-- Attributes are not under structural keys. -/
theorem lookup_attribute (h : EntryReplaced P es fs) (hkey : isStructural key = false) :
    Entries.lookup key fs = Entries.lookup key es := by
  obtain @⟨before, after, name, v, w, hname, -⟩ := h
  have hne : ¬ (Value.text name).isText key = true := by
    rw [Value.isText_iff, Value.text.injEq]
    rintro rfl
    simp [hkey] at hname
  induction before with
  | nil => simp only [List.nil_append, Entries.lookup_cons, if_neg hne]
  | cons e before ih =>
      obtain ⟨k, u⟩ := e
      simp only [List.cons_append, Entries.lookup_cons, ih]

theorem lookup_eq_none (h : EntryReplaced P es fs) (hes : Entries.lookup key es = none) :
    Entries.lookup key fs = none := by
  obtain @⟨before, after, name, v, w, -, -⟩ := h
  induction before with
  | nil =>
      rw [List.nil_append, Entries.lookup_cons] at hes ⊢
      split at hes
      · simp at hes
      · rename_i hne
        rw [if_neg hne, hes]
  | cons e before ih =>
      rw [List.cons_append, Entries.lookup_cons] at hes ⊢
      split at hes
      · simp at hes
      · rename_i hne
        rw [if_neg hne, ih hes]

theorem effect_outlineEntries (h : EntryReplaced SameOutline es fs) (path : List Text) :
    (outlineEntries path es).effect = (outlineEntries path fs).effect := by
  rw [outlineEntries_eq_listed, outlineEntries_eq_listed, effect_outlineListed h.forall₂_structural]

theorem sameOutline_map (h : EntryReplaced SameOutline es fs)
    (hcommand : isSet (Entries.lookup commandKey es) = false)
    (hspace : Entries.lookup valueSpaceKey es = none) : SameOutline (.map es) (.map fs) := by
  intro path key
  have hsame : Entries.lookup commandKey fs = Entries.lookup commandKey es :=
    h.lookup_attribute (by decide)
  rw [outline, outline, hsame, hcommand, hspace, h.lookup_eq_none hspace]
  exact Script.effect_map _ (h.effect_outlineEntries path)

theorem effect_outlineElement (h : EntryReplaced SameOutline es fs) (path : List Text)
    (index : Nat) (taken : List Text) :
    (outlineElement path index taken (.map es)).effect =
      (outlineElement path index taken (.map fs)).effect := by
  have hid : Entries.lookup idKey fs = Entries.lookup idKey es := h.lookup_attribute (by decide)
  rw [outlineElement, outlineElement, hid]
  cases Entries.lookup idKey es with
  | none =>
      have hfresh := forall₂_fresh h.forall₂_structural taken
      exact (effect_outlineFresh _ _ _).trans
        ((effect_outlineListed hfresh path).trans (effect_outlineFresh _ _ _).symm)
  | some id =>
      exact Script.effect_bind rfl fun text _ _ =>
        Script.effect_bind (h.effect_outlineEntries _) fun _ _ _ => rfl

end EntryReplaced

theorem outlineElement_bare (path : List Text) (index : Nat) (taken : List Text) (v : Value) :
    outlineElement path index taken v = outlineElement path index taken v.bare := by
  cases v with
  | ring label v => rw [outlineElement, Value.bare]
  | _ => rfl

theorem outline_bare (path : List Text) (key : Text) (v : Value) :
    outline path key v = outline path key v.bare := by
  cases v with
  | ring label v => rw [outline, Value.bare]
  | _ => rfl

theorem leadingLeaf?_replaced (hleaf : leadingLeaf? (vs ++ v :: ws) = none)
    (hv : v.bare = .map es) (hw : w.bare = .map fs) {P : Value → Value → Prop}
    (h : EntryReplaced P es fs) : leadingLeaf? (vs ++ w :: ws) = none := by
  cases vs with
  | nil =>
      simp only [List.nil_append, leadingLeaf?, hv, hw, Option.map_eq_none_iff] at hleaf ⊢
      exact h.lookup_eq_none hleaf
  | cons u vs => exact hleaf

theorem effect_outlineElements_replaced (hv : v.bare = .map es) (hw : w.bare = .map fs)
    (h : EntryReplaced SameOutline es fs) (path : List Text) (index : Nat) (taken : List Text) :
    (outlineElements path index taken (vs ++ v :: ws)).effect =
      (outlineElements path index taken (vs ++ w :: ws)).effect := by
  induction vs generalizing index taken with
  | nil =>
      have helement := h.effect_outlineElement path index taken
      rw [← hv, ← hw, ← outlineElement_bare, ← outlineElement_bare] at helement
      rw [List.nil_append, List.nil_append, outlineElements, outlineElements]
      exact Script.effect_bind helement fun _ _ _ => rfl
  | cons u vs ih =>
      rw [List.cons_append, List.cons_append, outlineElements, outlineElements]
      exact Script.effect_bind_congr _ fun ns =>
        Script.effect_bind (ih (index + 1) (ns.map Node.name ++ taken)) fun _ _ _ => rfl

theorem sameOutline_list (hleaf : leadingLeaf? (vs ++ v :: ws) = none) (hv : v.bare = .map es)
    (hw : w.bare = .map fs) (h : EntryReplaced SameOutline es fs) :
    SameOutline (.list (vs ++ v :: ws)) (.list (vs ++ w :: ws)) := by
  intro path key
  rw [outline, outline, hleaf, leadingLeaf?_replaced hleaf hv hw h]
  exact Script.effect_map _ (effect_outlineElements_replaced hv hw h path 0 [])

/-- A value with an array below it written otherwise. The array stands under a structural key of a
tree, or of an element of a keyed array. -/
inductive Rewritten (R : List Value → List Value → Prop) : Value → Value → Prop
  | array {v : Value} {vs ws : List Value} (hv : v.bare = .list vs) (h : R vs ws) :
      Rewritten R v (.list ws)
  | tree {v w : Value} {before after : Entries} {key : Text}
      (hcommand : isSet (Entries.lookup commandKey (before ++ (.text key, v) :: after)) = false)
      (hspace : Entries.lookup valueSpaceKey (before ++ (.text key, v) :: after) = none)
      (hkey : isStructural key = true) (h : Rewritten R v w) :
      Rewritten R (.map (before ++ (.text key, v) :: after))
        (.map (before ++ (.text key, w) :: after))
  | element {u u' v w : Value} {vs ws : List Value} {before after : Entries} {key : Text}
      (hleaf : leadingLeaf? (vs ++ u :: ws) = none)
      (hu : u.bare = .map (before ++ (.text key, v) :: after))
      (hu' : u'.bare = .map (before ++ (.text key, w) :: after))
      (hkey : isStructural key = true) (h : Rewritten R v w) :
      Rewritten R (.list (vs ++ u :: ws)) (.list (vs ++ u' :: ws))
  | ring {v w : Value} (label : Nat) (h : Rewritten R v w) :
      Rewritten R (.ring label v) (.ring label w)

theorem Rewritten.sameOutline {R : List Value → List Value → Prop}
    (hR : ∀ vs ws, R vs ws → SameOutline (.list vs) (.list ws)) (h : Rewritten R v w) :
    SameOutline v w := by
  induction h with
  | array hv h =>
      intro path key
      rw [outline_bare, hv, hR _ _ h]
  | tree hcommand hspace hkey _ ih =>
      exact (EntryReplaced.mk hkey ih).sameOutline_map hcommand hspace
  | element hleaf hu hu' hkey _ ih => exact sameOutline_list hleaf hu hu' (.mk hkey ih)
  | ring label _ ih =>
      intro path key
      rw [outline, outline, ih]

/-! ## Schemas -/

/-- A schema with an array in one of its families written otherwise. -/
inductive RewrittenIn (R : List Value → List Value → Prop) : Value → Value → Prop
  | mk {s t u u' k v w : Value} {f : Family} {es fs before after : Entries} {key : Text}
      (hs : s.bare = .map (es ++ (k, u) :: fs)) (ht : t.bare = .map (es ++ (k, u') :: fs))
      (hfamily : Family.ofKey? k = some f)
      (hu : u.bare = .map (before ++ (.text key, v) :: after))
      (hu' : u'.bare = .map (before ++ (.text key, w) :: after))
      (hkey : isStructural key = true) (h : Rewritten R v w) : RewrittenIn R s t

theorem effect_family (f : Family) (hasBuiltins : Bool) (h : EntryReplaced SameOutline es fs) :
    (family f hasBuiltins es).effect = (family f hasBuiltins fs).effect := by
  have hnodes := h.effect_outlineEntries [f.key]
  rw [family, family]
  split
  · exact Script.effect_bind_congr _ fun _ => Script.effect_bind_congr _ fun _ =>
      Script.effect_bind_congr _ fun _ => Script.effect_bind hnodes fun _ _ _ => rfl
  · exact Script.effect_bind_congr _ fun _ => Script.effect_bind_congr _ fun _ =>
      Script.effect_bind hnodes fun _ _ _ => rfl

theorem effect_families {k : Value} {f : Family} {as bs : Entries}
    (hfamily : Family.ofKey? k = some f) (hv : v.bare = .map es) (hw : w.bare = .map fs)
    (h : EntryReplaced SameOutline es fs) (hasBuiltins : Bool) :
    (families hasBuiltins (as ++ (k, v) :: bs)).effect =
      (families hasBuiltins (as ++ (k, w) :: bs)).effect := by
  induction as generalizing hasBuiltins with
  | nil =>
      simp only [List.nil_append, families, hfamily, hv, hw]
      exact Script.effect_bind (effect_family f hasBuiltins h) fun _ _ _ => rfl
  | cons e as ih =>
      obtain ⟨k', u⟩ := e
      rw [List.cons_append, List.cons_append, families, families]
      split
      · exact Script.effect_bind_congr _ fun _ => ih _
      · rfl
      · exact Script.effect_bind_congr _ fun _ => ih _

/-- A schema compiles to the same document, or has the same fault, if an array without ids is
merged into one object, or holds an element whose keys were all there before. -/
theorem compile_merged {s t : Value} (h : RewrittenIn Rewrites s t) (o : Options) :
    compile o t = compile o s := by
  obtain ⟨hs, ht, hfamily, hu, hu', hkey, h⟩ := h
  have hsame := h.sameOutline fun _ _ => Rewrites.sameOutline
  refine (compile_congr ?_).symm
  rw [script, script, hs, ht]
  exact Script.effect_bind_congr _ fun _ => effect_families hfamily hu hu' (.mk hkey hsame) false

/-- The second element has a key of the first. What stands under it there is no object. -/
def inputElements : List Value :=
  [.map [
    (.text descriptionKey, .text "Any input"),
    (.text "Mute", .map [(.text commandKey, .text "True")])],
   .map [
    (.text "Mute", .int 1),
    (.text "Gain", .map [
      (.text commandKey, .text "True"),
      (.text "Level", .map [(.text valueSpaceKey, .map [(.text typeKey, .text "Integer")])])])]]

def inputSchema (elements : List Value) : Value := .map [
  (.text "Command", .map [(.text "Audio", .map [(.text "Input", .list elements)])])]

example : mergedEntries inputElements = [
    (.text descriptionKey, .text "Any input"),
    (.text "Mute", .map [(.text commandKey, .text "True")]),
    (.text "Gain", .map [
      (.text commandKey, .text "True"),
      (.text "Level", .map [(.text valueSpaceKey, .map [(.text typeKey, .text "Integer")])])])] := by
  rfl

theorem merged_inputSchema :
    RewrittenIn Rewrites (inputSchema inputElements)
      (inputSchema [.map (mergedEntries inputElements)]) ∧
    compile {} (inputSchema [.map (mergedEntries inputElements)]) =
      compile {} (inputSchema inputElements) := by
  have hunnamed : ∀ v ∈ inputElements, IsUnnamed v := by
    simp only [inputElements, List.forall_mem_cons, List.not_mem_nil, false_imp_iff, implies_true,
      and_true]
    exact ⟨⟨rfl, rfl, rfl⟩, ⟨rfl, rfl, rfl⟩⟩
  have hinput : Rewritten Rewrites (.list inputElements)
      (.list [.map (mergedEntries inputElements)]) := .array rfl (.merged hunnamed)
  have haudio : Rewritten Rewrites (.map ([] ++ (.text "Input", .list inputElements) :: []))
      (.map ([] ++ (.text "Input", .list [.map (mergedEntries inputElements)]) :: [])) :=
    .tree rfl rfl (by decide) hinput
  have hschema : RewrittenIn Rewrites (inputSchema inputElements)
      (inputSchema [.map (mergedEntries inputElements)]) :=
    @RewrittenIn.mk Rewrites _ _ _ _ _ _ _ .command [] [] [] [] "Audio" rfl rfl rfl rfl rfl
      (by decide) haudio
  exact ⟨hschema, compile_merged hschema {}⟩

end DeviceTypings.Schema
