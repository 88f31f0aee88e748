import DeviceTypings.Proofs.CommandLine.Changes

namespace DeviceTypings.CommandLine

/-!
# Schema files that are not loaded

A run answers for a file that cannot be read and for a text that breaks the rules of its format.
It does not answer for contents that are no text, nor for a path that does not reach the system:
those failures leave the loading as they are, and the run with it.
-/

variable {w : World} {words : List Text} {path : Text} {a : Arguments} {e : Failure}

/-- The failures that the loading of a file answers for. They name the file. -/
inductive IsLoading (file : Text) : Failure → Prop
  | unreadable (cause : Files.Cause) : IsLoading file (.unreadable file cause)
  | invalid : IsLoading file (.invalid file (.ofPath file))

/-- The path has octets, and the system takes none of them for its end. -/
def Reaches (path : Text) : Prop := ∃ octets, Files.octets? path = some octets ∧ 0 ∉ octets

/-- The contents are UTF-8, and no part of the text looks like a value and stands for none. -/
def Format.Decodes (format : Format) (contents : ByteArray) : Prop :=
  ∃ text, textOf? contents = some text ∧ ∀ d, format.parse text ≠ .error (.defect d)

/-- The path reaches the system, and if it leads to a file that can be read then the file holds
such a text. -/
structure Loadable (fs : Files) (path : Text) : Prop where
  reaches : Reaches path
  decodes : ∀ contents, fs.read path = .ok contents → (Format.ofPath path).Decodes contents

/-! ## Reading -/

theorem find_of_reaches (fs : Files) (h : Reaches path) :
    ∃ r : Except Files.Cause Files.Place, fs.find path = r.mapError .cause := by
  obtain ⟨octets, hoctets, hcut⟩ := h
  by_cases hlong : Files.maxPathOctets < octets.length
  · exact ⟨.error .tooLong, by simp [Files.find, hoctets, hcut, hlong]⟩
  · exact ⟨fs.locate [] (Files.parts octets), by simp [Files.find, hoctets, hcut, hlong]⟩

theorem read_of_reaches (fs : Files) (h : Reaches path) :
    (∃ contents, fs.read path = .ok contents) ∨ ∃ cause, fs.read path = .error (.cause cause) := by
  obtain ⟨r, hfind⟩ := find_of_reaches fs h
  cases r with
  | error cause => exact .inr ⟨cause, by rw [Files.read, hfind]; rfl⟩
  | ok p =>
      simp only [Files.read, hfind, Except.mapError_ok, bind, Except.bind]
      cases fs.entry? p with
      | none => exact .inr ⟨.missing, rfl⟩
      | some entry =>
          cases entry with
          | directory => exact .inr ⟨.isDirectory, rfl⟩
          | file contents =>
              simp only [Files.grant]
              cases fs.refusal .read p with
              | none => exact .inl ⟨contents, rfl⟩
              | some cause => exact .inr ⟨cause, rfl⟩

theorem read_of_not_reaches (fs : Files) (h : ¬ Reaches path) :
    fs.read path = .error .cut ∨ fs.read path = .error .unencodable := by
  rw [Files.read]
  cases hoctets : Files.octets? path with
  | none =>
      have hfind : fs.find path = .error .unencodable := by simp [Files.find, hoctets]
      exact .inr (by rw [hfind]; rfl)
  | some octets =>
      have hcut : 0 ∈ octets :=
        Decidable.byContradiction fun hcut => h ⟨octets, hoctets, hcut⟩
      have hfind : fs.find path = .error .cut := by simp [Files.find, hoctets, hcut]
      exact .inl (by rw [hfind]; rfl)

/-! ## Loading -/

theorem IsLoading.isAnswered {file : Text} (h : IsLoading file e) : e.isAnswered = true := by
  cases h <;> rfl

theorem decode_cases (format : Format) (path text : Text) :
    ((∀ d, format.parse text ≠ .error (.defect d)) ∧
        ((∃ v, decode format path text = .ok v) ∨
          decode format path text = .error (.invalid path format))) ∨
      ∃ d, format.parse text = .error (.defect d) ∧
        decode format path text = .error (.noValue d) := by
  rw [decode]
  cases format.parse text with
  | ok v => exact .inl ⟨by simp, .inl ⟨v, rfl⟩⟩
  | error m =>
      cases m with
      | invalid => exact .inl ⟨by simp, .inr rfl⟩
      | defect d => exact .inr ⟨d, rfl, rfl⟩

theorem decodeBytes_cases (path : Text) (contents : ByteArray) :
    ((Format.ofPath path).Decodes contents ∧
        ((∃ v, decodeBytes path contents = .ok v) ∨
          ∃ e, decodeBytes path contents = .error e ∧ IsLoading path e)) ∨
      (¬ (Format.ofPath path).Decodes contents ∧
        ∃ e, decodeBytes path contents = .error e ∧ e.isAnswered = false) := by
  rw [decodeBytes, Format.Decodes]
  cases textOf? contents with
  | none => exact .inr ⟨by simp, .notText, rfl, rfl⟩
  | some text =>
      simp only [Option.some.injEq, exists_eq_left']
      rcases decode_cases (.ofPath path) path text with
        ⟨hparse, hvalue | hinvalid⟩ | ⟨d, hparse, hdefect⟩
      · exact .inl ⟨hparse, .inl hvalue⟩
      · exact .inl ⟨hparse, .inr ⟨_, hinvalid, .invalid⟩⟩
      · exact .inr ⟨fun h => h d hparse, _, hdefect, rfl⟩

/-- The loading of a file gives a value or answers for its failure, unless the path does not reach
the system or the contents are no text of values. -/
theorem load_cases (fs : Files) (path : Text) :
    (Loadable fs path ∧
        ((∃ v, load fs path = .ok v) ∨ ∃ e, load fs path = .error e ∧ IsLoading path e)) ∨
      (¬ Loadable fs path ∧ ∃ e, load fs path = .error e ∧ e.isAnswered = false) := by
  rw [load]
  by_cases hreaches : Reaches path
  · rcases read_of_reaches fs hreaches with ⟨contents, hread⟩ | ⟨cause, hread⟩
    · simp only [hread]
      rcases decodeBytes_cases path contents with ⟨hdecodes, hresult⟩ | ⟨hdecodes, hresult⟩
      · refine .inl ⟨⟨hreaches, fun c hc => ?_⟩, hresult⟩
        obtain rfl := Except.ok.inj (hread.symm.trans hc)
        exact hdecodes
      · exact .inr ⟨fun h => hdecodes (h.decodes contents hread), hresult⟩
    · simp only [hread]
      exact .inl ⟨⟨hreaches, by simp [hread]⟩, .inr ⟨_, rfl, .unreadable cause⟩⟩
  · refine .inr ⟨fun h => hreaches h.reaches, ?_⟩
    rcases read_of_not_reaches fs hreaches with hread | hread
    · exact ⟨.cutPath, by simp only [hread], rfl⟩
    · exact ⟨.unencodable, by simp only [hread], rfl⟩

/-! ## Runs -/

/-- A run whose schema file is not loaded prints nothing and writes nothing, and ends with a status
only if it answers for the failure. -/
theorem run_of_load_error (hparse : parse words = .ok a)
    (h : load w.files (w.path a.schema) = .error e) :
    (run w words).status = (if e.isAnswered then .ok 1 else .error e) ∧
      (run w words).output = .empty ∧ (run w words).files = w.files := by
  have hrun : run w words = runWith w a := by rw [run, hparse]
  have hdeclarations : (declarations w (w.path a.schema) a.options a.format).2 = .error e := by
    rw [declarations_snd, h]
    rfl
  obtain ⟨hresult, houtput, hfiles⟩ := attempt_of_error hdeclarations
  obtain ⟨hprinted, hleft⟩ := runWith_leaves w a
  rw [hrun]
  exact ⟨status_of_error hresult, hprinted.trans houtput, hleft.trans hfiles⟩

/-- The loading of a schema file ends with a value or with a failure that it answers for just if
its path reaches the system and the file, if it can be read, holds UTF-8 that the reader of its
format takes or refuses by the rules. A run of a schema file that is not loaded, with whatever
options, has status one in the same cases, and else it breaks off with the failure. -/
theorem load_answered (w : World) (file : Text) :
    ((∃ v, load w.files file = .ok v) ∨
        (∃ e, load w.files file = .error e ∧ IsLoading file e) ↔ Loadable w.files file) ∧
    ∀ words a e, parse words = .ok a → w.path a.schema = file →
      load w.files file = .error e →
      (Loadable w.files file → (run w words).status = .ok 1) ∧
      (¬ Loadable w.files file → (run w words).status = .error e) ∧
      (run w words).output = .empty ∧ (run w words).files = w.files := by
  rcases load_cases w.files file with ⟨hloadable, hresult⟩ | ⟨hloadable, e, he, hanswered⟩
  · refine ⟨iff_of_true hresult hloadable, ?_⟩
    rintro words a e hparse rfl hload
    have hloading : IsLoading (w.path a.schema) e := by
      rcases hresult with ⟨v, hv⟩ | ⟨e', he', hloading⟩
      · simp [hload] at hv
      · obtain rfl := Except.error.inj (hload.symm.trans he')
        exact hloading
    obtain ⟨hstatus, houtput⟩ := run_of_load_error hparse hload
    rw [if_pos hloading.isAnswered] at hstatus
    exact ⟨fun _ => hstatus, fun h => absurd hloadable h, houtput⟩
  · have hnone : ¬ ((∃ v, load w.files file = .ok v) ∨
        ∃ e, load w.files file = .error e ∧ IsLoading file e) := by
      rintro (⟨v, hv⟩ | ⟨e', he', hloading⟩)
      · simp [he] at hv
      · obtain rfl := Except.error.inj (he.symm.trans he')
        simp [hloading.isAnswered] at hanswered
    refine ⟨iff_of_false hnone hloadable, ?_⟩
    rintro words a e' hparse rfl hload
    obtain rfl := Except.error.inj (he.symm.trans hload)
    obtain ⟨hstatus, houtput⟩ := run_of_load_error hparse hload
    rw [if_neg (by simp [hanswered])] at hstatus
    exact ⟨fun h => absurd h hloadable, fun _ => hstatus, houtput⟩

/-- A letter in quotes, in another encoding than UTF-8. -/
def latinText : ByteArray := ⟨([0x22, 0xc3, 0x22].map UInt8.ofNat).toArray⟩

def latinWorld : World := workWorld [("s.json", latinText)]

theorem not_answered_latinWorld :
    ¬ ((∃ v, load latinWorld.files (latinWorld.path "s.json") = .ok v) ∨
        ∃ e, load latinWorld.files (latinWorld.path "s.json") = .error e ∧
          IsLoading (latinWorld.path "s.json") e) ∧
      (run latinWorld ["s.json"]).status ≠ .ok 1 := by
  have hload : load latinWorld.files (latinWorld.path "s.json") = .error .notText := by
    have hread : (latinWorld.files.read (latinWorld.path "s.json")).toOption =
        some latinText := by decide +kernel
    have hcontents : textOf? latinText = none := by decide +kernel
    rw [load]
    cases hfile : latinWorld.files.read (latinWorld.path "s.json") with
    | error obstacle => simp [hfile, Except.toOption] at hread
    | ok contents =>
        simp only [hfile, Except.toOption, Option.some.injEq] at hread
        simp only [hread, decodeBytes, hcontents]
  have hrun : (run latinWorld ["s.json"]).status.isOk = false := by
    decide +kernel
  constructor
  · rintro (⟨v, hv⟩ | ⟨e, he, hloading⟩)
    · simp [hload] at hv
    · obtain rfl := Except.error.inj (hload.symm.trans he)
      cases hloading
  · intro hstatus
    simp [hstatus, Except.isOk, Except.toBool] at hrun

end DeviceTypings.CommandLine
