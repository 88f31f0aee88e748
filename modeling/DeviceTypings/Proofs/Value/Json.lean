import DeviceTypings.Value.Text

namespace DeviceTypings.Value

/-!
# JSON values

The values that a JSON text can stand for: truth values, numbers, texts, lists,
and maps whose keys are different texts. Each of them has a text of its own.
-/

def text? : Value → Option Text
  | text s => some s
  | _ => none

@[simp] theorem text?_text (s : Text) : (text s).text? = some s := rfl

/-- The keys that are texts. -/
def textKeys (es : Entries) : List Text := es.filterMap fun e => e.1.text?

mutual

/-- Whether a value is one of JSON. Numbers of more digits than are read are
none. -/
def isJson : Value → Bool
  | null => true
  | bool _ => true
  | int i => !Number.isLong i
  | float _ => true
  | text _ => true
  | list items => areJson items
  | map entries => decide (textKeys entries).Nodup && areJsonEntries entries
  | _ => false
termination_by structural v => v

def areJson : List Value → Bool
  | [] => true
  | v :: vs => v.isJson && areJson vs
termination_by structural vs => vs

def areJsonEntries : List (Value × Value) → Bool
  | [] => true
  | (k, v) :: es => k.text?.isSome && v.isJson && areJsonEntries es
termination_by structural es => es

end

theorem areJson_iff {vs : List Value} : areJson vs = true ↔ ∀ v ∈ vs, v.isJson = true := by
  induction vs with
  | nil => simp [areJson]
  | cons v vs ih => simp [areJson, ih]

theorem areJsonEntries_iff {es : Entries} :
    areJsonEntries es = true ↔ ∀ e ∈ es, e.1.text?.isSome = true ∧ e.2.isJson = true := by
  induction es with
  | nil => simp [areJsonEntries]
  | cons e es ih => simp [areJsonEntries, ih]

theorem areJsonEntries_cons {k v : Value} {es : Entries}
    (h : areJsonEntries ((k, v) :: es) = true) : v.isJson = true ∧ areJsonEntries es = true := by
  rw [areJsonEntries, Bool.and_eq_true, Bool.and_eq_true] at h
  exact ⟨h.1.2, h.2⟩

@[simp] theorem isJson_list {vs : List Value} :
    (list vs).isJson = true ↔ ∀ v ∈ vs, v.isJson = true := areJson_iff

theorem isJson_map {es : Entries} :
    (map es).isJson = true ↔ (textKeys es).Nodup ∧ areJsonEntries es = true := by
  rw [isJson, Bool.and_eq_true, decide_eq_true_eq]

theorem isJson_of_lookup {es : Entries} {key : Text} {v : Value}
    (hes : areJsonEntries es = true) (h : Entries.lookup key es = some v) : v.isJson = true :=
  (areJsonEntries_iff.1 hes _ (Entries.mem_of_lookup h)).2

/-- Whatever is picked from an object by its keys is a JSON value. -/
theorem isJson_of_mem_filterMap {β : Type} {f : Value → Option β} {es : Entries} {p : β × Value}
    (hes : areJsonEntries es = true)
    (h : p ∈ es.filterMap fun (k, v) => (f k).map (·, v)) : p.2.isJson = true := by
  obtain ⟨⟨k, v⟩, he, hp⟩ := List.mem_filterMap.1 h
  obtain ⟨b, -, rfl⟩ := Option.map_eq_some_iff.1 hp
  exact (areJsonEntries_iff.1 hes _ he).2

/-- The texts of some of the keys are different if those of all are. -/
theorem filterMap_keys_nodup {f : Value → Option Text} {es : Entries}
    (hf : ∀ k key, f k = some key → k = text key)
    (h : (textKeys es).Nodup) : (es.filterMap fun e => f e.1).Nodup := by
  refine h.sublist ?_
  clear h
  induction es with
  | nil => exact List.Sublist.slnil
  | cons e es ih =>
      cases hk : f e.1 with
      | none =>
          have hes : (e :: es).filterMap (fun e => f e.1) = es.filterMap fun e => f e.1 :=
            List.filterMap_cons_none hk
          rw [hes]
          exact ih.trans ((List.sublist_cons_self e es).filterMap _)
      | some key =>
          have ht : e.1.text? = some key := by rw [hf e.1 key hk, text?]
          simp only [textKeys, List.filterMap_cons, hk, ht]
          exact ih.cons_cons key

theorem bare_of_isJson {v : Value} (h : v.isJson = true) : v.bare = v := by
  cases v <;> simp_all [isJson, bare]

theorem flawIn?_text? {k : Value} (h : k.text?.isSome = true) (outer : List Nat) :
    k.flawIn? outer = none := by
  cases k <;> simp_all [text?, flawIn?]

mutual

theorem flawIn?_of_isJson {outer : List Nat} (v : Value) (h : v.isJson = true) :
    v.flawIn? outer = none := by
  cases v with
  | int i => simp_all [isJson, flawIn?]
  | list vs => exact flawInItems?_of_isJson vs (areJson_iff.1 h)
  | map es => exact flawInEntries?_of_isJson es (areJsonEntries_iff.1 (isJson_map.1 h).2)
  | null | bool _ | float _ | text _ => rfl
  | _ => simp [isJson] at h
termination_by structural v

theorem flawInItems?_of_isJson {outer : List Nat} (vs : List Value)
    (h : ∀ v ∈ vs, v.isJson = true) : flawInItems? outer vs = none := by
  cases vs with
  | nil => rfl
  | cons v vs =>
      rw [flawInItems?, flawIn?_of_isJson v (h v List.mem_cons_self),
        flawInItems?_of_isJson vs fun w hw => h w (List.mem_cons_of_mem _ hw)]
      rfl
termination_by structural vs

theorem flawInEntries?_of_isJson {outer : List Nat} (es : List (Value × Value))
    (h : ∀ e ∈ es, e.1.text?.isSome = true ∧ e.2.isJson = true) :
    flawInEntries? outer es = none := by
  cases es with
  | nil => rfl
  | cons e es =>
      obtain ⟨k, v⟩ := e
      obtain ⟨hk, hv⟩ := h _ List.mem_cons_self
      rw [flawInEntries?, flawIn?_text? hk, flawIn?_of_isJson v hv,
        flawInEntries?_of_isJson es fun e he => h e (List.mem_cons_of_mem _ he)]
      rfl
termination_by structural es

end

theorem flaw?_of_isJson {v : Value} (h : v.isJson = true) : v.flaw? = none :=
  flawIn?_of_isJson v h

end DeviceTypings.Value
