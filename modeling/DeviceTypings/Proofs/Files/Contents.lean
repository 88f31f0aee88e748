import DeviceTypings.Files.Basic
import DeviceTypings.Proofs.Outcome

namespace DeviceTypings.Files

/-!
# The contents of files

What each way of changing files does to the contents of every one of them. To make a directory
changes none. To open a file for writing empties that file and no other, and what is written
afterwards stays in that file.
-/

variable {fs gs : Files} {p q r : Place} {path : Text} {c : ByteArray}

def contents? (fs : Files) (p : Place) : Option ByteArray :=
  match fs.entry? p with
  | some (.file contents) => some contents
  | _ => none

/-- The same files are there, with the same contents. -/
def Keeps (old new : Files) : Prop := ∀ p, new.contents? p = old.contents? p

/-- One file has other contents, or is new. All others are as they were. -/
structure Puts (p : Place) (c : ByteArray) (old new : Files) : Prop where
  here : new.contents? p = some c
  elsewhere : ∀ q, q ≠ p → new.contents? q = old.contents? q

theorem Keeps.refl (fs : Files) : fs.Keeps fs := fun _ => rfl

theorem Keeps.trans {hs : Files} (h : fs.Keeps gs) (h' : gs.Keeps hs) : fs.Keeps hs :=
  fun p => (h' p).trans (h p)

theorem Keeps.puts {hs : Files} (h : fs.Keeps gs) (h' : Puts p c gs hs) : Puts p c fs hs :=
  ⟨h'.here, fun q hq => (h'.elsewhere q hq).trans (h q)⟩

theorem Puts.puts {hs : Files} {d : ByteArray} (h : Puts p c fs gs) (h' : Puts p d gs hs) :
    Puts p d fs hs :=
  ⟨h'.here, fun q hq => (h'.elsewhere q hq).trans (h.elsewhere q hq)⟩

theorem contents?_eq_some : fs.contents? p = some c ↔ fs.entry? p = some (.file c) := by
  unfold contents?
  split <;> simp_all

/-! ## Entries -/

theorem lookup_filter_ne {es : List (Place × Entry)} (h : q ≠ p) :
    (es.filter fun x => x.1 != p).lookup q = es.lookup q := by
  induction es with
  | nil => rfl
  | cons e es ih =>
      obtain ⟨r, e⟩ := e
      by_cases hr : r = p
      · have hqr : (q == r) = false := by simpa [hr] using h
        rw [List.filter_cons_of_neg (by simp [hr]), ih, List.lookup_cons, hqr]
      · rw [List.filter_cons_of_pos (by simp [hr]), List.lookup_cons, List.lookup_cons, ih]

theorem entry?_put_self (e : Entry) (h : p ≠ []) : entry? (fs.put p e) p = some e := by
  unfold entry?
  simp [put, h]

theorem entry?_put_of_ne (e : Entry) (h : q ≠ p) : entry? (fs.put p e) q = fs.entry? q := by
  have hqp : (q == p) = false := by simpa using h
  unfold entry?
  simp only [put, List.lookup_cons, hqp, lookup_filter_ne h]

theorem ne_nil_of_entry (h : fs.entry? p ≠ some .directory) : p ≠ [] := by
  rintro rfl
  exact h rfl

theorem puts_put (h : fs.entry? p ≠ some .directory) (c : ByteArray) :
    Puts p c fs (fs.put p (.file c)) where
  here := contents?_eq_some.2 (entry?_put_self _ (ne_nil_of_entry h))
  elsewhere q hq := by rw [contents?, contents?, entry?_put_of_ne _ hq]

theorem keeps_put_directory (h : fs.entry? p = none) : fs.Keeps (fs.put p .directory) := by
  intro q
  by_cases hq : q = p
  · have hp : p ≠ [] := ne_nil_of_entry (h ▸ (Option.some_ne_none _).symm)
    rw [hq, contents?, contents?, entry?_put_self _ hp, h]
  · rw [contents?, contents?, entry?_put_of_ne _ hq]

/-! ## Paths -/

/-- Only directories are passed on the way to a file. -/
theorem locate_put (hp : fs.entry? p ≠ some .directory) (e : Entry) {parts : List Part}
    (h : fs.locate q parts = .ok r) : (fs.put p e).locate q parts = .ok r := by
  induction parts generalizing q with
  | nil => exact h
  | cons part parts ih =>
      rw [locate.eq_def] at h ⊢
      cases hq : fs.entry? q with
      | none => simp [hq] at h
      | some entry =>
          cases entry with
          | file contents => simp [hq] at h
          | directory =>
              have hne : q ≠ p := by
                rintro rfl
                exact hp hq
              simp only [hq, entry?_put_of_ne e hne] at h ⊢
              cases part with
              | here => exact ih h
              | up => exact ih h
              | name s =>
                  simp only at h ⊢
                  split at h
                  · simp at h
                  · rename_i hs
                    rw [if_neg hs]
                    exact ih h

theorem find_eq_ok : fs.find path = .ok p ↔ ∃ octets, octets? path = some octets ∧ 0 ∉ octets ∧
    octets.length ≤ maxPathOctets ∧ fs.locate [] (parts octets) = .ok p := by
  unfold find
  cases octets? path with
  | none => simp
  | some octets =>
      by_cases hcut : 0 ∈ octets
      · simp [hcut]
      · by_cases hlong : maxPathOctets < octets.length
        · simp [hcut, hlong, Nat.not_le_of_gt hlong]
        · simp [hcut, hlong, Except.mapError_eq_ok, Nat.le_of_not_lt hlong]

theorem find_put (hfind : fs.find path = .ok p) (hp : fs.entry? p ≠ some .directory) (e : Entry) :
    (fs.put p e).find path = .ok p := by
  obtain ⟨octets, hoctets, hcut, hlong, hlocate⟩ := find_eq_ok.1 hfind
  exact find_eq_ok.2 ⟨octets, hoctets, hcut, hlong, locate_put hp e hlocate⟩

/-! ## Opening files -/

theorem grant_eq_ok {α : Type} {access : Access} {a b : α} :
    fs.grant access p a = .ok b ↔ fs.refusal access p = none ∧ a = b := by
  unfold grant
  cases fs.refusal access p <;> simp

theorem makeDirectory_keeps (h : fs.makeDirectory path = .ok gs) :
    fs.Keeps gs ∧ gs.interruption = fs.interruption := by
  obtain ⟨p, -, h⟩ := Except.do_eq_ok.1 h
  split at h
  · simp at h
  · rename_i hnone
    obtain ⟨-, rfl⟩ := grant_eq_ok.1 h
    exact ⟨keeps_put_directory hnone, rfl⟩

theorem makeDirectories_keeps (fs : Files) (paths : List Text) :
    fs.Keeps (fs.makeDirectories paths).1 ∧
      (fs.makeDirectories paths).1.interruption = fs.interruption := by
  induction paths generalizing fs with
  | nil => exact ⟨Keeps.refl fs, rfl⟩
  | cons path paths ih =>
      rw [makeDirectories]
      split
      · exact ih fs
      · cases hmade : fs.makeDirectory path with
        | ok made =>
            obtain ⟨hkeeps, hinterruption⟩ := makeDirectory_keeps hmade
            exact ⟨hkeeps.trans (ih made).1, (ih made).2.trans hinterruption⟩
        | error obstacle =>
            dsimp only
            split
            · exact ih fs
            · exact ⟨Keeps.refl fs, rfl⟩

theorem openEmpty_eq_ok : fs.openEmpty path = .ok (p, gs) ↔ fs.find path = .ok p ∧
    fs.entry? p ≠ some .directory ∧ fs.refusal .write p = none ∧
      gs = fs.put p (.file .empty) := by
  simp only [openEmpty, Except.do_eq_ok]
  constructor
  · rintro ⟨q, hq, h⟩
    split at h
    · simp at h
    · rename_i hdirectory
      obtain ⟨hgranted, hopened⟩ := grant_eq_ok.1 h
      obtain ⟨rfl, rfl⟩ := Prod.mk.inj hopened
      exact ⟨hq, hdirectory, hgranted, rfl⟩
  · rintro ⟨hp, hdirectory, hgranted, rfl⟩
    refine ⟨p, hp, ?_⟩
    split
    · contradiction
    · exact grant_eq_ok.2 ⟨hgranted, rfl⟩

/-- Directories are made, and then a file is found there and emptied, or that is all. -/
theorem prepare_cases (fs : Files) (path : Text) : ∃ gs, fs.Keeps gs ∧
    gs.interruption = fs.interruption ∧ ((∃ obstacle, fs.prepare path = (gs, .error obstacle)) ∨
      ∃ p, gs.find path = .ok p ∧ gs.entry? p ≠ some .directory ∧
        fs.prepare path = (gs.put p (.file .empty), .ok p)) := by
  have hmade := makeDirectories_keeps fs (directories path)
  unfold prepare
  generalize fs.makeDirectories (directories path) = made at hmade
  obtain ⟨gs, result⟩ := made
  refine ⟨gs, hmade.1, hmade.2, ?_⟩
  cases hopened : result.bind fun _ => gs.openEmpty path with
  | error obstacle => exact .inl ⟨obstacle, by simp only [hopened]⟩
  | ok opened =>
      obtain ⟨p, hs⟩ := opened
      obtain ⟨-, -, hopen⟩ := Except.bind_eq_ok.1 hopened
      obtain ⟨hfind, hdirectory, -, rfl⟩ := openEmpty_eq_ok.1 hopen
      exact .inr ⟨p, hfind, hdirectory, by simp only [hopened]⟩

/-- A file that cannot be opened is left alone, and so is every other. -/
theorem prepare_error {obstacle : Obstacle} (h : fs.prepare path = (gs, .error obstacle)) :
    fs.Keeps gs := by
  obtain ⟨hs, hkeeps, -, ⟨obstacle', hprepared⟩ | ⟨p, -, -, hprepared⟩⟩ := prepare_cases fs path
  · obtain ⟨rfl, -⟩ := Prod.mk.inj (h.symm.trans hprepared)
    exact hkeeps
  · simp [h] at hprepared

/-- A file that is opened for writing is found, and is empty. -/
structure Opened (fs gs : Files) (path : Text) (p : Place) : Prop where
  find : gs.find path = .ok p
  entry : gs.entry? p = some (.file .empty)
  interruption : gs.interruption = fs.interruption
  puts : Puts p .empty fs gs

theorem prepare_ok (h : fs.prepare path = (gs, .ok p)) : Opened fs gs path p := by
  obtain ⟨hs, hkeeps, hinterruption, ⟨obstacle, hprepared⟩ | ⟨q, hfind, hdirectory, hprepared⟩⟩ :=
    prepare_cases fs path
  · simp [h] at hprepared
  · obtain ⟨rfl, hq⟩ := Prod.mk.inj (h.symm.trans hprepared)
    obtain rfl := Except.ok.inj hq
    exact
      { find := find_put hfind hdirectory _
        entry := entry?_put_self _ (ne_nil_of_entry hdirectory)
        interruption := hinterruption
        puts := hkeeps.puts (puts_put hdirectory _) }

/-- What is written to an open file replaces all of it up to an interruption, and nothing else. -/
theorem Opened.write (h : Opened fs gs path p) (c : ByteArray) :
    (gs.write p c).1.find path = .ok p ∧
      Puts p (written c (fs.interruption p c)).1 fs (gs.write p c).1 ∧
        (gs.write p c).2 = (written c (fs.interruption p c)).2 := by
  have hdirectory : gs.entry? p ≠ some .directory := by simp [h.entry]
  rw [← h.interruption]
  exact ⟨find_put h.find hdirectory _, h.puts.puts (puts_put hdirectory _), rfl⟩

end DeviceTypings.Files
