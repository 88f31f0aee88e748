import DeviceTypings.Json.Token
import DeviceTypings.Text.Escape
import Mathlib.Data.List.Chain

namespace DeviceTypings.Text

/-!
# UTF-16 units

A string in double quotes spells its text by UTF-16 units. Two texts have the same units if they
differ only in whether two surrogates stand for themselves or are one character, and one whose
surrogates are all joined is told by its units.
-/

open Json (hexNumber? hexValue? simpleEscape? stringUnits)

variable {c d : CodePoint} {cs r : List CodePoint} {n : Nat} {us : List Nat} {s t : Text}

/-! ## Escapes -/

theorem shortEscape_ne (c : CodePoint) : shortEscape c ≠ some (.char 'u') := by
  unfold shortEscape
  split <;> simp

theorem hexNumber?_hex (h : n < 0x10000) : hexNumber? (hex 4 n) = some n := by
  have hdigit : ∀ i < 16, hexValue? (hexDigit i) = some i := by decide
  have hvalue (k : Nat) : hexValue? (hexDigit (k % 16)) = some (k % 16) :=
    hdigit _ (Nat.mod_lt _ (by decide))
  simp only [hex_four, hexNumber?, List.foldlM_cons, List.foldlM_nil, hvalue, Option.map_some,
    Option.bind_eq_bind, Option.bind_some]
  exact congrArg some (by omega)

theorem stringUnits_unitEscape (h : n < 0x10000) (r : List CodePoint) :
    stringUnits (unitEscape n ++ r) = (stringUnits r).map fun (ns, t) => (n :: ns, t) := by
  have hnumber := hexNumber?_hex h
  rw [hex_four] at hnumber
  simp only [unitEscape, hex_four, List.cons_append, List.nil_append, stringUnits, hnumber]
  cases stringUnits r <;> rfl

theorem lt_of_mem_units (h : n ∈ units c) : n < 0x10000 := by
  have hc := c.toNat_lt
  unfold units at h
  split at h <;> simp at h <;> omega

theorem stringUnits_unitEscapes (h : ∀ n ∈ us, n < 0x10000) (r : List CodePoint) :
    stringUnits (us.flatMap unitEscape ++ r) =
      (stringUnits r).map fun (ns, t) => (us ++ ns, t) := by
  induction us with
  | nil => cases h : stringUnits r <;> simp [h]
  | cons u us ih =>
      obtain ⟨hu, hus⟩ := List.forall_mem_cons.1 h
      rw [List.flatMap_cons, List.append_assoc, stringUnits_unitEscape hu, ih hus]
      cases stringUnits r <;> rfl

theorem simpleEscape?_of_shortEscape {e : CodePoint} (h : shortEscape c = some e) :
    simpleEscape? e = some c ∧ units c = [c.toNat] := by
  unfold shortEscape at h
  split at h <;> simp only [Option.some.injEq, reduceCtorEq] at h <;> subst h <;> decide

theorem stringUnits_shortEscape {e : CodePoint} (h : shortEscape c = some e) (r : List CodePoint) :
    stringUnits (.char '\\' :: e :: r) =
      (stringUnits r).map fun (ns, t) => (units c ++ ns, t) := by
  obtain ⟨hsimple, hunits⟩ := simpleEscape?_of_shortEscape h
  have hu : e ≠ 'u' := by
    rintro rfl
    exact shortEscape_ne c h
  rw [stringUnits, hsimple, hunits]
  · cases stringUnits r <;> rfl
  · simp [hu]

/-- The escape of a code point spells its units. -/
theorem stringUnits_escapeAscii (c : CodePoint) (r : List CodePoint) :
    stringUnits (escapeAscii c ++ r) = (stringUnits r).map fun (ns, t) => (units c ++ ns, t) := by
  unfold escapeAscii
  cases hshort : shortEscape c with
  | some e => exact stringUnits_shortEscape hshort r
  | none =>
      dsimp only
      split
      · rename_i hprintable
        have hquote : c ≠ '"' := by
          rintro rfl
          simp [shortEscape] at hshort
        have hslash : c ≠ '\\' := by
          rintro rfl
          simp [shortEscape] at hshort
        have hunits : units c = [c.toNat] := if_pos (by omega)
        have hlow : ¬ c.toNat < 0x20 := by omega
        rw [List.singleton_append, stringUnits, if_neg hlow, hunits]
        · cases stringUnits r <;> rfl
        · exact hquote
        · simp [hslash]
        · simp [hslash]
      · exact stringUnits_unitEscapes (fun n => lt_of_mem_units) r

theorem stringUnits_escaped (cs r : List CodePoint) :
    stringUnits (cs.flatMap escapeAscii ++ .char '"' :: r) = some (cs.flatMap units, r) := by
  induction cs with
  | nil => simp [stringUnits]
  | cons c cs ih =>
      rw [List.flatMap_cons, List.append_assoc, stringUnits_escapeAscii, ih]
      rfl

/-! ## Units that are joined -/

def utf16 (t : Text) : List Nat := t.toList.flatMap units

theorem lt_of_mem_utf16 (h : n ∈ utf16 t) : n < 0x10000 := by
  obtain ⟨c, -, hn⟩ := List.mem_flatMap.1 h
  exact lt_of_mem_units hn

/-- The text that is read for a text when its units are joined. -/
def joined (t : Text) : Text := .ofList (joinUnits t.utf16)

/-- Whether no high surrogate of a text has a low one right after it. -/
def IsJoined (t : Text) : Prop :=
  t.toList.IsChain fun a b => ¬ (isHigh a.toNat = true ∧ isLow b.toNat = true)

/-- The number of the character that two surrogates spell. -/
def pairValue (n m : Nat) : Nat := 0x10000 + (n - 0xD800) * 0x400 + (m - 0xDC00)

theorem isHigh_iff : isHigh n = true ↔ 0xD800 ≤ n ∧ n < 0xDC00 := by simp [isHigh]

theorem isLow_iff : isLow n = true ↔ 0xDC00 ≤ n ∧ n < 0xE000 := by simp [isLow]

theorem joinUnits_pair {m : Nat} (hn : isHigh n = true) (hm : isLow m = true) (us : List Nat) :
    joinUnits (n :: m :: us) = .ofNat (pairValue n m) :: joinUnits us := by
  have hjoin : joinPoints (n :: m :: us) = pairValue n m :: joinPoints us := by
    rw [joinPoints, hn, hm]
    exact if_pos rfl
  rw [joinUnits, hjoin, List.map_cons, joinUnits]

theorem joinUnits_cons (h : ∀ m ∈ us.head?, ¬ (isHigh n = true ∧ isLow m = true)) :
    joinUnits (n :: us) = .ofNat n :: joinUnits us := by
  cases us with
  | nil => rfl
  | cons m us =>
      have hm := h m rfl
      rw [← Bool.and_eq_true] at hm
      simp [joinUnits, joinPoints, hm]

theorem pairValue_valid {m : Nat} (hn : isHigh n = true) (hm : isLow m = true) :
    0x10000 ≤ pairValue n m ∧ pairValue n m < 0x110000 := by
  have hhigh := isHigh_iff.1 hn
  have hlow := isLow_iff.1 hm
  unfold pairValue
  omega

theorem units_pairValue {m : Nat} (hn : isHigh n = true) (hm : isLow m = true) :
    units (.ofNat (pairValue n m)) = [n, m] := by
  obtain ⟨hle, hlt⟩ := pairValue_valid hn hm
  have hhigh := isHigh_iff.1 hn
  have hlow := isLow_iff.1 hm
  have hfirst : 0xD800 + (pairValue n m - 0x10000) / 0x400 = n := by
    unfold pairValue
    omega
  have hsecond : 0xDC00 + (pairValue n m - 0x10000) % 0x400 = m := by
    unfold pairValue
    omega
  rw [units, CodePoint.toNat_ofNat hlt, if_neg (Nat.not_lt.2 hle), hfirst, hsecond]

theorem units_ofNat (h : n < 0x10000) : units (.ofNat n) = [n] := by
  rw [units, CodePoint.toNat_ofNat (by omega), if_pos h]

/-- Joining changes the code points of a text and not its units. -/
theorem flatMap_units_joinUnits (h : ∀ u ∈ us, u < 0x10000) :
    (joinUnits us).flatMap units = us := by
  induction us using joinPoints.induct with
  | case1 => rfl
  | case2 n =>
      rw [joinUnits_cons (by simp), List.flatMap_cons, units_ofNat (h n List.mem_cons_self)]
      rfl
  | case3 n m us hpair ih =>
      obtain ⟨hn, hm⟩ := Bool.and_eq_true_iff.1 hpair
      have hus := fun u hu => h u (List.mem_cons_of_mem n (List.mem_cons_of_mem m hu))
      rw [joinUnits_pair hn hm, List.flatMap_cons, units_pairValue hn hm, ih hus]
      rfl
  | case4 n m us hpair ih =>
      obtain ⟨hn, hus⟩ := List.forall_mem_cons.1 h
      rw [joinUnits_cons (by simpa using hpair), List.flatMap_cons, units_ofNat hn, ih hus]
      rfl

@[simp] theorem utf16_joined (t : Text) : t.joined.utf16 = t.utf16 :=
  flatMap_units_joinUnits fun _ => lt_of_mem_utf16

theorem joined_eq_iff : s.joined = t.joined ↔ s.utf16 = t.utf16 := by
  constructor
  · intro h
    rw [← utf16_joined s, h, utf16_joined]
  · intro h
    rw [joined, h, joined]

theorem head?_joinUnits (h : ∀ u ∈ us, u < 0x10000) {b : CodePoint}
    (hb : b ∈ (joinUnits us).head?) :
    b.toNat ∈ us.head? ∨ 0x10000 ≤ b.toNat := by
  cases us using joinPoints.induct with
  | case1 => cases hb
  | case2 n =>
      obtain rfl := Option.some.inj hb
      rw [CodePoint.toNat_ofNat (by have := h n List.mem_cons_self; omega)]
      exact .inl rfl
  | case3 n m us hpair =>
      obtain ⟨hn, hm⟩ := Bool.and_eq_true_iff.1 hpair
      have hvalid := pairValue_valid hn hm
      rw [joinUnits_pair hn hm] at hb
      obtain rfl := Option.some.inj hb
      rw [CodePoint.toNat_ofNat hvalid.2]
      exact .inr hvalid.1
  | case4 n m us hpair =>
      rw [joinUnits_cons (by simpa using hpair)] at hb
      obtain rfl := Option.some.inj hb
      rw [CodePoint.toNat_ofNat (by have := h n List.mem_cons_self; omega)]
      exact .inl rfl

theorem isChain_joinUnits (h : ∀ u ∈ us, u < 0x10000) :
    (joinUnits us).IsChain fun a b => ¬ (isHigh a.toNat = true ∧ isLow b.toNat = true) := by
  induction us using joinPoints.induct with
  | case1 => exact .nil
  | case2 n => exact .singleton _
  | case3 n m us hpair ih =>
      obtain ⟨hn, hm⟩ := Bool.and_eq_true_iff.1 hpair
      have hvalid := pairValue_valid hn hm
      have hus := fun u hu => h u (List.mem_cons_of_mem n (List.mem_cons_of_mem m hu))
      rw [joinUnits_pair hn hm]
      refine (ih hus).cons fun b _ hb => ?_
      rw [CodePoint.toNat_ofNat hvalid.2, isHigh_iff] at hb
      omega
  | case4 n m us hpair ih =>
      obtain ⟨hn, hus⟩ := List.forall_mem_cons.1 h
      rw [joinUnits_cons (by simpa using hpair)]
      refine (ih hus).cons fun b hb hnb => ?_
      rw [CodePoint.toNat_ofNat (by omega)] at hnb
      rcases head?_joinUnits hus hb with hb | hb
      · obtain rfl := Option.some.inj hb
        simp [hnb] at hpair
      · rw [isLow_iff] at hnb
        omega

theorem head?_units (c : CodePoint) :
    ∃ u us, units c = u :: us ∧ (isLow u = true → u = c.toNat) := by
  unfold units
  split
  · exact ⟨_, _, rfl, fun _ => rfl⟩
  · rename_i hc
    have hlt := c.toNat_lt
    refine ⟨_, _, rfl, fun hlow => ?_⟩
    rw [isLow_iff] at hlow
    omega

theorem joinUnits_flatMap_units {cs : List CodePoint}
    (h : cs.IsChain fun a b => ¬ (isHigh a.toNat = true ∧ isLow b.toNat = true)) :
    joinUnits (cs.flatMap units) = cs := by
  induction cs with
  | nil => rfl
  | cons c cs ih =>
      have hcs := ih h.of_cons
      have hc := c.toNat_lt
      by_cases hlt : c.toNat < 0x10000
      · have hunits : units c = [c.toNat] := if_pos hlt
        rw [List.flatMap_cons, hunits, List.singleton_append, joinUnits_cons, hcs,
          CodePoint.ofNat_toNat]
        intro m hm ⟨hhigh, hlow⟩
        cases cs with
        | nil => cases hm
        | cons d cs =>
            obtain ⟨u, us, hd, hu⟩ := head?_units d
            rw [List.flatMap_cons, hd] at hm
            obtain rfl := Option.some.inj hm
            exact h.rel ⟨hhigh, hu hlow ▸ hlow⟩
      · have hpair : units c = [0xD800 + (c.toNat - 0x10000) / 0x400,
            0xDC00 + (c.toNat - 0x10000) % 0x400] := if_neg hlt
        have hvalue : pairValue (0xD800 + (c.toNat - 0x10000) / 0x400)
            (0xDC00 + (c.toNat - 0x10000) % 0x400) = c.toNat := by
          unfold pairValue
          omega
        rw [List.flatMap_cons, hpair, List.cons_append, List.singleton_append, joinUnits_pair, hcs,
          hvalue, CodePoint.ofNat_toNat]
        · rw [isHigh_iff]
          omega
        · rw [isLow_iff]
          omega

theorem isJoined_of_forall (h : ∀ c ∈ t.toList, isHigh c.toNat = false) : t.IsJoined := by
  rw [IsJoined]
  generalize t.toList = cs at h ⊢
  induction cs with
  | nil => exact .nil
  | cons c cs ih =>
      obtain ⟨hc, hcs⟩ := List.forall_mem_cons.1 h
      exact (ih hcs).cons fun d _ hcd => by simp [hc] at hcd

/-- A text is read as it is unless two of its surrogates are joined. -/
theorem joined_eq_self_iff : t.joined = t ↔ t.IsJoined := by
  constructor
  · intro h
    rw [IsJoined, ← h]
    exact isChain_joinUnits fun _ => lt_of_mem_utf16
  · intro h
    rw [joined, utf16, joinUnits_flatMap_units h]

/-- A text in ASCII is told by its units. -/
theorem eq_of_utf16_eq (hs : ∀ c ∈ s.toList, c.toNat < 0x80) (h : s.utf16 = t.utf16) : s = t := by
  have hlow : ∀ n ∈ s.utf16, n < 0x80 := by
    intro n hn
    obtain ⟨c, hc, hn⟩ := List.mem_flatMap.1 hn
    have hlt := hs c hc
    rw [units, if_pos (by omega)] at hn
    exact List.mem_singleton.1 hn ▸ hlt
  have hjoined {u : Text} (hu : u.utf16 = s.utf16) : u.IsJoined := by
    refine isJoined_of_forall fun c hc => Bool.eq_false_iff.2 fun hhigh => ?_
    have hrange := isHigh_iff.1 hhigh
    have hmem : c.toNat ∈ u.utf16 := by
      refine List.mem_flatMap.2 ⟨c, hc, ?_⟩
      rw [units, if_pos (by omega)]
      exact List.mem_singleton_self _
    have hlt := hlow _ (hu ▸ hmem)
    omega
  rw [← joined_eq_self_iff.2 (hjoined rfl), joined_eq_iff.2 h,
    joined_eq_self_iff.2 (hjoined h.symm)]

end DeviceTypings.Text
