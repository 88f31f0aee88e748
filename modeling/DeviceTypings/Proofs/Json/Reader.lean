import DeviceTypings.Json.Reader
import DeviceTypings.Proofs.Outcome
import DeviceTypings.Proofs.Value.Json
import Mathlib.Algebra.Group.Nat.Defs
import Mathlib.Data.List.Induction
import Mathlib.Data.List.TakeDrop
import Mathlib.Data.List.TakeWhile

namespace DeviceTypings.Json

/-!
# What JSON texts stand for

Reading a JSON text gives a JSON value: keys are different texts, and no number
is longer than what is read.
-/

/-! ## Tokens -/

/-- A token whose scalar is a JSON value. -/
def Token.Sound : Token → Prop
  | .scalar v => v.isJson = true
  | _ => True

theorem Token.Sound.of_eq {t u : Token} {r r' : List CodePoint} (h : some (u, r') = some (t, r))
    (hu : u.Sound) : t.Sound := by
  obtain ⟨rfl, -⟩ := Prod.mk.inj (Option.some.inj h)
  exact hu

theorem digitsValue_concat (cs : List CodePoint) (c : CodePoint) :
    digitsValue (cs ++ [c]) = 10 * digitsValue cs + (c.toNat - '0'.toNat) := by
  simp [digitsValue]

theorem toNat_sub_of_isDigit {c : CodePoint} (h : c.isDigit = true) : c.toNat - '0'.toNat ≤ 9 := by
  cases c with
  | surrogate n => simp [CodePoint.isDigit] at h
  | char c =>
      have hle : c.toNat ≤ '9'.toNat := by
        simp only [CodePoint.isDigit, Char.isDigit, Bool.and_eq_true, decide_eq_true_eq] at h
        exact UInt32.le_iff_toNat_le.1 h.2
      have hnine : '9'.toNat = '0'.toNat + 9 := rfl
      rw [CodePoint.toNat_char]
      omega

theorem digitsValue_lt {cs : List CodePoint} (h : ∀ c ∈ cs, c.isDigit = true) :
    digitsValue cs < 10 ^ cs.length := by
  induction cs using List.reverseRecOn with
  | nil => simp [digitsValue]
  | append_singleton cs c ih =>
      have hcs := ih fun d hd => h d (List.mem_append_left _ hd)
      have hc := toNat_sub_of_isDigit (h c (by simp))
      rw [digitsValue_concat, List.length_append, List.length_singleton, Nat.pow_succ]
      omega

theorem spanDigits_isDigit {cs ds r : List CodePoint} (h : spanDigits cs = (ds, r)) :
    ∀ d ∈ ds, d.isDigit = true := by
  rw [spanDigits, List.span_eq_takeWhile_dropWhile] at h
  obtain ⟨rfl, -⟩ := Prod.mk.inj h
  intro d hd
  exact List.mem_takeWhile_imp hd

theorem wholeDigits?_isDigit {cs ds r : List CodePoint} (h : wholeDigits? cs = some (ds, r)) :
    ds ≠ [] ∧ ∀ d ∈ ds, d.isDigit = true := by
  unfold wholeDigits? at h
  split at h
  · obtain ⟨rfl, -⟩ := Prod.mk.inj (Option.some.inj h)
    exact ⟨by simp, by simp⟩
  · split at h
    · simp at h
    · rename_i ds' r' hnil hs
      obtain ⟨rfl, rfl⟩ := Prod.mk.inj (Option.some.inj h)
      exact ⟨hnil, spanDigits_isDigit hs⟩

theorem isLong_digitsValue {ds : List CodePoint} (hne : ds ≠ []) (h : ∀ d ∈ ds, d.isDigit = true)
    (hlen : ds.length ≤ Number.maxDigits) (negative : Bool) :
    Number.isLong (if negative then -(digitsValue ds : Int) else digitsValue ds) = false := by
  have habs : (if negative then -(digitsValue ds : Int) else digitsValue ds).natAbs =
      digitsValue ds := by
    cases negative <;> simp
  have hdigits := (Nat.length_toDigits_le_iff (b := 10) (by decide)
    (List.length_pos_iff.2 hne)).2 (digitsValue_lt h)
  rw [Number.isLong, habs, Number.natDigits, decide_eq_false_iff_not]
  omega

/-- Neither the digits after a point nor an exponent decide whether a number is
too long. -/
theorem unsignedToken_sound {whole r r' r'' : List CodePoint} {negative isFloat : Bool}
    {x : Binary64} {t : Token} (hne : whole ≠ []) (hdigits : ∀ d ∈ whole, d.isDigit = true)
    (h : (if isFloat then some (Token.scalar (.float x), r')
      else if Number.maxDigits < whole.length then some (.longNumber whole.length, r'')
      else some (.scalar (.int (if negative then -(digitsValue whole : Int)
        else digitsValue whole)), r'')) = some (t, r)) : t.Sound := by
  split at h
  · exact .of_eq h rfl
  · split at h
    · exact .of_eq h trivial
    · rename_i hlen
      refine .of_eq h ?_
      simpa [Token.Sound, Value.isJson] using
        isLong_digitsValue hne hdigits (Nat.not_lt.1 hlen) negative

theorem unsignedNumber?_sound {negative : Bool} {cs r : List CodePoint} {t : Token}
    (h : unsignedNumber? negative cs = some (t, r)) : t.Sound := by
  simp only [unsignedNumber?, Option.bind_eq_bind, Option.bind_eq_some_iff] at h
  obtain ⟨⟨whole, r'⟩, hwhole, h⟩ := h
  obtain ⟨hne, hdigits⟩ := wholeDigits?_isDigit hwhole
  split at h <;> split at h <;> exact unsignedToken_sound hne hdigits h

theorem number?_sound {cs r : List CodePoint} {t : Token} (h : number? cs = some (t, r)) :
    t.Sound := by
  unfold number? at h
  split at h
  · split at h
    · exact .of_eq h rfl
    · exact unsignedNumber?_sound h
  · exact unsignedNumber?_sound h

theorem word?_sound {cs r : List CodePoint} {t : Token} (h : word? cs = some (t, r)) : t.Sound := by
  obtain ⟨⟨word, v⟩, hmem, hv⟩ := List.exists_of_findSome?_eq_some h
  obtain ⟨r', -, heq⟩ := Option.map_eq_some_iff.1 hv
  obtain ⟨rfl, -⟩ := Prod.mk.inj heq
  have hwords : ∀ w ∈ words, w.2.isJson = true := by
    simp [words, Value.isJson]
  exact hwords _ hmem

theorem nextToken?_sound {cs r : List CodePoint} {t : Token} (h : nextToken? cs = some (t, r)) :
    t.Sound := by
  unfold nextToken? at h
  split at h
  · simp at h
  iterate 6 exact .of_eq h trivial
  · simp only [Option.bind_eq_bind, Option.bind_eq_some_iff] at h
    obtain ⟨⟨units, r'⟩, -, heq⟩ := h
    exact .of_eq heq rfl
  · rcases Option.or_eq_some_iff.1 h with hw | ⟨-, hn⟩
    · exact word?_sound hw
    · exact number?_sound hn

theorem tokensFrom_sound {fuel : Nat} {cs : List CodePoint} {ts : List Token}
    (h : tokensFrom fuel cs = some ts) : ∀ t ∈ ts, t.Sound := by
  induction fuel generalizing cs ts with
  | zero =>
      simp only [tokensFrom, Option.ite_none_right_eq_some, Option.some.injEq] at h
      obtain ⟨-, rfl⟩ := h
      simp
  | succ fuel ih =>
      rw [tokensFrom] at h
      split at h
      · obtain rfl := Option.some.inj h
        simp
      · simp only [Option.bind_eq_bind, Option.bind_eq_some_iff] at h
        obtain ⟨⟨t, r⟩, ht, h⟩ := h
        have hsound := nextToken?_sound ht
        split at h
        · obtain rfl := Option.some.inj h
          simpa using hsound
        · obtain ⟨ts', hts, h⟩ := Option.bind_eq_some_iff.1 h
          obtain rfl := Option.some.inj h
          exact List.forall_mem_cons.2 ⟨hsound, ih hts⟩

/-! ## The machine -/

/-- The map as far as it has been read is a JSON value. -/
def Frame.Sound : Frame → Prop
  | .items done => ∀ v ∈ done, v.isJson = true
  | .entries done _ => (Value.map done).isJson = true

def Mode.Sound : Mode → Prop
  | .key done => (Value.map done).isJson = true
  | .colon done _ => (Value.map done).isJson = true
  | .after v => v.isJson = true
  | _ => True

theorem sameKey_text (s t : Text) : (Value.text s).sameKey (.text t) = (s == t) := rfl

theorem textKeys_cons_text (s : Text) (v : Value) (es : Entries) :
    Value.textKeys ((.text s, v) :: es) = s :: Value.textKeys es := rfl

theorem textKeys_insert {key : Text} {v : Value} {es : Entries}
    (hes : ∀ e ∈ es, e.1.text?.isSome = true) :
    Value.textKeys (Entries.insert (.text key) v es) =
      if key ∈ Value.textKeys es then Value.textKeys es else Value.textKeys es ++ [key] := by
  induction es with
  | nil => rfl
  | cons e es ih =>
      obtain ⟨k, w⟩ := e
      obtain ⟨s, hs⟩ := Option.isSome_iff_exists.1 (hes _ List.mem_cons_self)
      cases k with
      | text t =>
          have ih := ih fun e he => hes e (List.mem_cons_of_mem _ he)
          rw [Entries.insert, sameKey_text]
          by_cases ht : t = key
          · simp [ht, textKeys_cons_text]
          · simp only [beq_iff_eq, ht, if_false, textKeys_cons_text, ih, List.mem_cons, Ne.symm ht,
              false_or]
            split <;> rfl
      | _ => simp [Value.text?] at hs

theorem areJsonEntries_insert {key : Text} {v : Value} {es : Entries}
    (hes : Value.areJsonEntries es = true) (hv : v.isJson = true) :
    Value.areJsonEntries (Entries.insert (.text key) v es) = true := by
  induction es with
  | nil => simp [Entries.insert, Value.areJsonEntries, hv]
  | cons e es ih =>
      obtain ⟨k, w⟩ := e
      simp only [Value.areJsonEntries, Bool.and_eq_true] at hes
      obtain ⟨⟨hk, hw⟩, hes⟩ := hes
      rw [Entries.insert]
      split
      · simp [Value.areJsonEntries, hk, hv, hes]
      · simp [Value.areJsonEntries, hk, hw, ih hes]

theorem isJson_insert {key : Text} {v : Value} {es : Entries}
    (hes : (Value.map es).isJson = true) (hv : v.isJson = true) :
    (Value.map (Entries.insert (.text key) v es)).isJson = true := by
  obtain ⟨hkeys, hentries⟩ := Value.isJson_map.1 hes
  refine Value.isJson_map.2 ⟨?_, areJsonEntries_insert hentries hv⟩
  rw [textKeys_insert fun e he => (Value.areJsonEntries_iff.1 hentries e he).1]
  split
  · exact hkeys
  · rename_i hkey
    -- A key that is not there yet goes to the end.
    refine List.nodup_append.2 ⟨hkeys, by simp, ?_⟩
    rintro k hk k' hk' rfl
    exact hkey (List.mem_singleton.1 hk' ▸ hk)

theorem isJson_nil : (Value.map []).isJson = true := rfl

theorem isJson_reverse {v : Value} {vs : List Value} (hv : v.isJson = true)
    (hvs : ∀ w ∈ vs, w.isJson = true) : (Value.list (v :: vs).reverse).isJson = true := by
  rw [Value.isJson_list]
  intro w hw
  rcases List.mem_cons.1 (List.mem_reverse.1 hw) with rfl | hw
  · exact hv
  · exact hvs w hw

theorem step_sound {t : Token} {m m' : Mode} {fs fs' : List Frame}
    (h : step t m fs = some (m', fs')) (ht : t.Sound) (hm : m.Sound) (hfs : ∀ f ∈ fs, f.Sound) :
    m'.Sound ∧ ∀ f ∈ fs', f.Sound := by
  have hfirst : ∀ f ∈ Frame.items [] :: fs, f.Sound := by
    simpa [Frame.Sound] using hfs
  cases m with
  | value =>
      cases t <;> simp only [step, Option.some.injEq, Prod.mk.injEq, reduceCtorEq] at h
      all_goals obtain ⟨rfl, rfl⟩ := h
      · exact ⟨trivial, hfs⟩
      · exact ⟨trivial, hfs⟩
      · exact ⟨ht, hfs⟩
  | firstItem =>
      cases t <;> simp only [step, Option.some.injEq, Prod.mk.injEq, reduceCtorEq] at h
      all_goals obtain ⟨rfl, rfl⟩ := h
      · exact ⟨trivial, hfirst⟩
      · exact ⟨rfl, hfs⟩
      · exact ⟨trivial, hfirst⟩
      · exact ⟨ht, hfirst⟩
  | firstKey =>
      have hnil : ∀ k, (Mode.colon [] k).Sound := fun _ => isJson_nil
      cases t <;> simp only [step, Option.some.injEq, Prod.mk.injEq, Option.map_eq_some_iff] at h
      case closeMap =>
        obtain ⟨rfl, rfl⟩ := h
        exact ⟨isJson_nil, hfs⟩
      all_goals
        obtain ⟨k, -, rfl, rfl⟩ := h
        exact ⟨hnil k, hfs⟩
  | key done =>
      have hkey : ∀ k, (Mode.colon done k).Sound := fun _ => hm
      cases t <;> simp only [step, Prod.mk.injEq, Option.map_eq_some_iff] at h
      all_goals
        obtain ⟨k, -, rfl, rfl⟩ := h
        exact ⟨hkey k, hfs⟩
  | colon done k =>
      cases t <;> simp only [step, Option.some.injEq, Prod.mk.injEq, reduceCtorEq] at h
      obtain ⟨rfl, rfl⟩ := h
      exact ⟨trivial, List.forall_mem_cons.2 ⟨hm, hfs⟩⟩
  | after v =>
      cases fs with
      | nil => cases t <;> simp [step] at h
      | cons f fs =>
          obtain ⟨hf, hrest⟩ := List.forall_mem_cons.1 hfs
          cases f with
          | items done =>
              cases t <;> simp only [step, Option.some.injEq, Prod.mk.injEq, reduceCtorEq] at h
              all_goals obtain ⟨rfl, rfl⟩ := h
              · exact ⟨isJson_reverse hm hf, hrest⟩
              · exact ⟨trivial,
                  List.forall_mem_cons.2 ⟨List.forall_mem_cons.2 ⟨hm, hf⟩, hrest⟩⟩
          | entries done k =>
              cases t <;> simp only [step, Option.some.injEq, Prod.mk.injEq, reduceCtorEq] at h
              all_goals
                obtain ⟨rfl, rfl⟩ := h
                exact ⟨isJson_insert hf hm, hrest⟩

theorem run_isJson {ts : List Token} {m : Mode} {fs : List Frame} {v : Value}
    (h : run ts m fs = .ok v) (hts : ∀ t ∈ ts, t.Sound) (hm : m.Sound)
    (hfs : ∀ f ∈ fs, f.Sound) : v.isJson = true := by
  induction ts generalizing m fs with
  | nil =>
      unfold run at h
      split at h
      · obtain rfl := Except.ok.inj h
        exact hm
      · simp at h
      · simp_all
  | cons t ts ih =>
      rw [run] at h
      split at h
      · rename_i m' fs' hstep
        obtain ⟨hm', hfs'⟩ := step_sound hstep (hts t List.mem_cons_self) hm hfs
        exact ih h (fun u hu => hts u (List.mem_cons_of_mem _ hu)) hm' hfs'
      · simp at h

/-- A JSON text stands for a JSON value. -/
theorem parse_isJson {s : Text} {v : Value} (h : parse s = .ok v) : v.isJson = true := by
  simp only [parse, Except.do_eq_ok] at h
  obtain ⟨ts, hts, h⟩ := h
  have htokens : tokens? s = some ts := by
    cases ht : tokens? s <;> simp_all [Misread.require]
  exact run_isJson h (tokensFrom_sound htokens) trivial (by simp)

end DeviceTypings.Json
