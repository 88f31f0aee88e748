import Mathlib.Data.List.Perm.Basic

namespace DeviceTypings

/-!
# Lists up to order

Two lists whose elements agree by some relation once one of the lists is put in
another order. This is how lists of members, of interfaces and of entries compare
when the order of keys is of no account.
-/

inductive Shuffled {α β : Type} (R : α → β → Prop) : List α → List β → Prop
  | mk {bs : List β} {as : List α} {cs : List β} (h : List.Forall₂ R as bs) (hperm : bs.Perm cs) :
      Shuffled R as cs

namespace Shuffled

variable {α β γ δ : Type} {R : α → β → Prop} {S : γ → δ → Prop} {as as' : List α}
  {bs bs' : List β}

theorem of_forall₂ (h : List.Forall₂ R as bs) : Shuffled R as bs := ⟨h, .refl _⟩

theorem nil : Shuffled R [] [] := of_forall₂ .nil

theorem cons {a : α} {b : β} (hab : R a b) (h : Shuffled R as bs) :
    Shuffled R (a :: as) (b :: bs) := by
  obtain ⟨h, hperm⟩ := h
  exact ⟨.cons hab h, hperm.cons b⟩

theorem refl {R : α → α → Prop} (hR : ∀ a, R a a) (as : List α) : Shuffled R as as :=
  of_forall₂ (List.forall₂_same.2 fun a _ => hR a)

theorem trans_perm (h : Shuffled R as bs) (hperm : bs.Perm bs') : Shuffled R as bs' := by
  obtain ⟨h, hperm'⟩ := h
  exact ⟨h, hperm'.trans hperm⟩

theorem perm_trans (hperm : as'.Perm as) (h : Shuffled R as bs) : Shuffled R as' bs := by
  obtain ⟨h, hperm'⟩ := h
  obtain ⟨bs', h', hbs'⟩ := List.perm_comp_forall₂ hperm h
  exact ⟨h', hbs'.trans hperm'⟩

theorem append (h : Shuffled R as bs) (h' : Shuffled R as' bs') :
    Shuffled R (as ++ as') (bs ++ bs') := by
  obtain ⟨h, hperm⟩ := h
  obtain ⟨h', hperm'⟩ := h'
  exact ⟨List.rel_append h h', hperm.append hperm'⟩

theorem flip (h : Shuffled R as bs) : Shuffled (fun b a => R a b) bs as := by
  obtain ⟨h, hperm⟩ := h
  exact (of_forall₂ h.flip).perm_trans hperm.symm

/-- The relation may be replaced by another one that follows from it for the elements of
the first list. -/
theorem imp_of_mem {T : α → β → Prop} (h : Shuffled R as bs)
    (hT : ∀ a ∈ as, ∀ b, R a b → T a b) : Shuffled T as bs := by
  obtain ⟨h, hperm⟩ := h
  have hmem := (List.forall₂_and_left (p := (· ∈ as)) as _).2 ⟨fun _ => id, h⟩
  exact ⟨hmem.imp fun a b hab => hT a hab.1 b hab.2, hperm⟩

theorem length_eq (h : Shuffled R as bs) : as.length = bs.length := by
  obtain ⟨h, hperm⟩ := h
  exact h.length_eq.trans hperm.length_eq

theorem exists_of_mem (h : Shuffled R as bs) {a : α} (ha : a ∈ as) : ∃ b ∈ bs, R a b := by
  obtain ⟨h, hperm⟩ := h
  suffices ∃ b, b ∈ _ ∧ R a b by
    obtain ⟨b, hb, hab⟩ := this
    exact ⟨b, hperm.mem_iff.1 hb, hab⟩
  clear hperm
  induction h with
  | nil => simp at ha
  | cons hab _ ih =>
      rcases List.mem_cons.1 ha with rfl | ha
      · exact ⟨_, List.mem_cons_self, hab⟩
      · obtain ⟨b, hb, h⟩ := ih ha
        exact ⟨b, List.mem_cons_of_mem _ hb, h⟩

theorem map {f : α → γ} {g : β → δ} (h : Shuffled R as bs)
    (hfg : ∀ a b, R a b → S (f a) (g b)) : Shuffled S (as.map f) (bs.map g) := by
  obtain ⟨h, hperm⟩ := h
  exact ⟨List.rel_map (fun _ _ hab => hfg _ _ hab) h, hperm.map g⟩

theorem flatMap {f : α → List γ} {g : β → List δ} (h : Shuffled R as bs)
    (hfg : ∀ a b, R a b → Shuffled S (f a) (g b)) :
    Shuffled S (as.flatMap f) (bs.flatMap g) := by
  obtain ⟨h, hperm⟩ := h
  refine trans_perm ?_ (hperm.flatMap_right g)
  clear hperm
  induction h with
  | nil => exact nil
  | cons hab _ ih => exact (hfg _ _ hab).append ih

theorem filterMap {f : α → Option γ} {g : β → Option δ} (h : Shuffled R as bs)
    (hfg : ∀ a b, R a b → Option.Rel S (f a) (g b)) :
    Shuffled S (as.filterMap f) (bs.filterMap g) := by
  obtain ⟨h, hperm⟩ := h
  exact ⟨List.rel_filterMap (fun _ _ hab => hfg _ _ hab) h, hperm.filterMap g⟩

theorem filter {p : α → Bool} {q : β → Bool} (h : Shuffled R as bs)
    (hpq : ∀ a b, R a b → p a = q b) : Shuffled R (as.filter p) (bs.filter q) := by
  obtain ⟨h, hperm⟩ := h
  exact ⟨List.rel_filter (fun a b hab => Bool.eq_iff_iff.1 (hpq a b hab)) h, hperm.filter q⟩

theorem map_perm {f : α → γ} {g : β → γ} (h : Shuffled R as bs)
    (hfg : ∀ a b, R a b → f a = g b) : (as.map f).Perm (bs.map g) := by
  obtain ⟨h, hperm⟩ := h
  refine List.Perm.trans (List.Perm.of_eq ?_) (hperm.map g)
  clear hperm
  induction h with
  | nil => rfl
  | cons hab _ ih => rw [List.map_cons, List.map_cons, hfg _ _ hab, ih]

theorem perm_of_eq {as bs : List α} (h : Shuffled Eq as bs) : as.Perm bs := by
  simpa using h.map_perm (f := id) (g := id) fun _ _ => id

/-- If each element of the second list makes something of its own out of what the
first list makes, then so does the whole list, in its order. -/
theorem exists_forall₂ {O : α → γ → Prop} {O' : β → δ → Prop} (h : Shuffled R as bs)
    {cs : List γ} (hcs : List.Forall₂ O as cs)
    (hO : ∀ a b c, R a b → O a c → ∃ d, O' b d ∧ S c d) :
    ∃ ds, List.Forall₂ O' bs ds ∧ Shuffled S cs ds := by
  obtain ⟨h, hperm⟩ := h
  suffices ∃ ds, List.Forall₂ O' _ ds ∧ List.Forall₂ S cs ds by
    obtain ⟨ds, hds, hcd⟩ := this
    obtain ⟨es, hes, hde⟩ := List.perm_comp_forall₂ hperm.symm hds
    exact ⟨es, hes, hcd, hde.symm⟩
  clear hperm
  induction h generalizing cs with
  | nil =>
      cases hcs
      exact ⟨[], .nil, .nil⟩
  | cons hab _ ih =>
      obtain _ | ⟨hac, hcs⟩ := hcs
      obtain ⟨d, hd, hcd⟩ := hO _ _ _ hab hac
      obtain ⟨ds, hds, hcds⟩ := ih hcs
      exact ⟨d :: ds, .cons hd hds, .cons hcd hcds⟩

end Shuffled

end DeviceTypings
