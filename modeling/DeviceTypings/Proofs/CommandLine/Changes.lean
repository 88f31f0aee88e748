import DeviceTypings.CommandLine.Session
import DeviceTypings.Proofs.Files.Contents

namespace DeviceTypings.CommandLine

/-!
# What a run changes

A run that does not end with status zero prints nothing, and leaves every file as it was, unless it
fails after it has begun to deliver. The output file is opened, and so emptied, before the
declarations are encoded and written, and what has been printed by the time of a failure cannot be
taken back. A run of a schema that ends with status zero prints the declarations or writes them to
the one file that is named.
-/

variable {w : World} {words : List Text} {path t : Text} {a : Arguments} {e : Failure}

/-- What the formatter makes of a text, or the text if it makes nothing of it. -/
def World.formatted (w : World) (text : Text) : Text :=
  match w.formatter, text.encoded? with
  | .program run, some s =>
      if (run s.toUTF8).status = 0 then (textOf? (run s.toUTF8).output).getD text else text
  | _, _ => text

/-- Where the text of a run goes: it is printed, or it replaces the contents of the file that is
named. -/
inductive Delivered (w : World) (path text : Text) : ByteArray → Files → Prop
  | printed {s : String} (hpath : path = "") (hencoded : text.encoded? = some s) :
      Delivered w path text s.toUTF8 w.files
  | written {s : String} {files : Files} {p : Files.Place} (hpath : path ≠ "")
      (hencoded : text.encoded? = some s) (hfind : files.find (w.path path) = .ok p)
      (hputs : Files.Puts p s.toUTF8 w.files files) : Delivered w path text .empty files

/-- What a run leaves that fails after it has begun to deliver: a part of the text is printed, or
the file that is named holds a part of it and nothing of what it held. -/
inductive Spoiled (w : World) (path text : Text) : Failure → ByteArray → Files → Prop
  | printed {s : String} {i : Files.Interruption} (hpath : path = "")
      (hencoded : text.encoded? = some s) (hbroken : w.interruption s.toUTF8 = some i) :
      Spoiled w path text (.refused i.cause) (s.toUTF8.extract 0 i.octets) w.files
  | emptied {files : Files} {p : Files.Place} (hpath : path ≠ "") (hencoded : text.encoded? = none)
      (hfind : files.find (w.path path) = .ok p) (hputs : Files.Puts p .empty w.files files) :
      Spoiled w path text .unencodable .empty files
  | written {s : String} {i : Files.Interruption} {files : Files} {p : Files.Place}
      (hpath : path ≠ "") (hencoded : text.encoded? = some s)
      (hbroken : w.files.interruption p s.toUTF8 = some i)
      (hfind : files.find (w.path path) = .ok p)
      (hputs : Files.Puts p (s.toUTF8.extract 0 i.octets) w.files files) :
      Spoiled w path text (.refused i.cause) .empty files

/-- Whether the delivery of a text begins and is not finished: what is printed breaks off, or the
file that is named can be opened and the text cannot be encoded or breaks off there. -/
inductive Breaks (w : World) (path text : Text) : Prop
  | printing {s : String} {i : Files.Interruption} (hpath : path = "")
      (hencoded : text.encoded? = some s) (hbroken : w.interruption s.toUTF8 = some i)
  | encoding {files : Files} {p : Files.Place} (hpath : path ≠ "")
      (hopened : w.files.prepare (w.path path) = (files, .ok p)) (hencoded : text.encoded? = none)
  | writing {s : String} {i : Files.Interruption} {files : Files} {p : Files.Place}
      (hpath : path ≠ "") (hopened : w.files.prepare (w.path path) = (files, .ok p))
      (hencoded : text.encoded? = some s) (hbroken : w.files.interruption p s.toUTF8 = some i)

/-- A run that begins to deliver its declarations and does not finish it. -/
def Spoils (w : World) (a : Arguments) : Prop :=
  ∃ t, (declarations w (w.path a.schema) a.options a.format).2 = .ok t ∧ Breaks w a.output t

/-! ## Declarations -/

theorem format_ok {u : Text} (h : (format w t).2 = .ok u) : u = w.formatted t := by
  unfold format at h
  rw [World.formatted]
  split at h
  · rename_i hformatter
    rw [hformatter]
    exact (Except.ok.inj h).symm
  · simp at h
  · rename_i run hformatter
    rw [hformatter]
    cases hencoded : t.encoded? with
    | none => simp [hencoded] at h
    | some s =>
        simp only [hencoded] at h ⊢
        split at h
        · rename_i output report houtput hreport
          split at h
          · rename_i hstatus
            rw [if_pos hstatus, houtput]
            exact (Except.ok.inj h).symm
          · rename_i hstatus
            rw [if_neg hstatus]
            exact (Except.ok.inj h).symm
        · simp at h

theorem declarations_snd (w : World) (path : Text) (o : Schema.Options) (formatted : Bool) :
    (declarations w path o formatted).2 = (load w.files path).bind fun schema =>
      ((Schema.generate o schema).mapError Failure.schema).bind fun t =>
        if formatted then (format w t).2 else .ok t := by
  unfold declarations
  cases load w.files path with
  | error e => rfl
  | ok schema =>
      rcases htrace : Schema.trace o schema with ⟨entries, r⟩
      have hgenerate : Schema.generate o schema = r.map Document.render := by
        rw [Schema.generate, Schema.compile, htrace]
      simp only [htrace, Except.bind, hgenerate]
      cases r with
      | error e => rfl
      | ok d => cases formatted <;> rfl

/-- The declarations are what the loaded schema generates, formatted if that is asked for and there
is a formatter that does it. -/
theorem declarations_ok {o : Schema.Options} {formatted : Bool}
    (h : (declarations w path o formatted).2 = .ok t) :
    ∃ schema u, load w.files path = .ok schema ∧ Schema.generate o schema = .ok u ∧
      t = if formatted then w.formatted u else u := by
  rw [declarations_snd, Except.bind_eq_ok] at h
  obtain ⟨schema, hschema, h⟩ := h
  obtain ⟨u, hu, h⟩ := Except.bind_eq_ok.1 h
  refine ⟨schema, u, hschema, Except.mapError_eq_ok.1 hu, ?_⟩
  cases formatted with
  | false => exact (Except.ok.inj h).symm
  | true => exact format_ok h

/-! ## Delivery -/

/-- How the delivery of a text ends: it arrives, or it begins and is not finished, or nothing has
been printed or written. -/
inductive Delivers (w : World) (path text : Text) (d : Delivery) : Prop
  | arrives (hunbroken : ¬ Breaks w path text) (hresult : d.result = .ok ())
      (hdelivered : Delivered w path text d.output d.files)
  | spoils (e : Failure) (hbreaks : Breaks w path text) (hresult : d.result = .error e)
      (hanswered : e.isAnswered = false) (hspoiled : Spoiled w path text e d.output d.files)
  | fails (e : Failure) (hunbroken : ¬ Breaks w path text) (hresult : d.result = .error e)
      (houtput : d.output = .empty) (hkeeps : w.files.Keeps d.files)

theorem breaks_printed_iff (hpath : path = "") :
    Breaks w path t ↔
      ∃ s i, t.encoded? = some s ∧ w.interruption s.toUTF8 = some i := by
  constructor
  · rintro (⟨-, hencoded, hbroken⟩ | ⟨hne, -, -⟩ | ⟨hne, -, -, -⟩)
    · exact ⟨_, _, hencoded, hbroken⟩
    · exact absurd hpath hne
    · exact absurd hpath hne
  · rintro ⟨s, i, hencoded, hbroken⟩
    exact .printing hpath hencoded hbroken

/-- A delivery to a file that can be opened breaks off at the encoding or at the writing; one that
cannot be opened does not begin. -/
theorem breaks_written_iff (hpath : path ≠ "") :
    Breaks w path t ↔
      ∃ files p, w.files.prepare (w.path path) = (files, .ok p) ∧
        ∀ s, t.encoded? = some s → ∃ i, w.files.interruption p s.toUTF8 = some i := by
  constructor
  · rintro (⟨heq, -, -⟩ | ⟨-, hopened, hencoded⟩ | ⟨-, hopened, hencoded, hbroken⟩)
    · exact absurd heq hpath
    · exact ⟨_, _, hopened, by simp [hencoded]⟩
    · refine ⟨_, _, hopened, fun s hs => ?_⟩
      obtain rfl := Option.some.inj (hencoded.symm.trans hs)
      exact ⟨_, hbroken⟩
  · rintro ⟨files, p, hopened, hbroken⟩
    cases hencoded : t.encoded? with
    | none => exact .encoding hpath hopened hencoded
    | some s =>
        obtain ⟨i, hi⟩ := hbroken s hencoded
        exact .writing hpath hopened hencoded hi

theorem delivers_printed (w : World) (hpath : path = "") (text : Text) :
    Delivers w path text (deliver w path text) := by
  rw [deliver, if_pos hpath]
  cases hencoded : text.encoded? with
  | none =>
      exact .fails .unencodable (by simp [breaks_printed_iff hpath, hencoded]) rfl rfl
        (Files.Keeps.refl _)
  | some s =>
      simp only [World.print]
      cases hbroken : w.interruption s.toUTF8 with
      | none =>
          refine .arrives ?_ rfl (.printed hpath hencoded)
          simp only [breaks_printed_iff hpath, hencoded, Option.some.injEq]
          rintro ⟨_, i, rfl, hi⟩
          cases hbroken.symm.trans hi
      | some i =>
          exact .spoils (.refused i.cause) (.printing hpath hencoded hbroken) rfl rfl
            (.printed hpath hencoded hbroken)

theorem delivers_written (w : World) (hpath : path ≠ "") (text : Text) :
    Delivers w path text (deliver w path text) := by
  rw [deliver, if_neg hpath]
  rcases hprepared : w.files.prepare (w.path path) with ⟨files, obstacle | p⟩
  · exact .fails (.ofObstacle obstacle) (by simp [breaks_written_iff hpath, hprepared]) rfl rfl
      (Files.prepare_error hprepared)
  · have hopened := Files.prepare_ok hprepared
    cases hencoded : text.encoded? with
    | none =>
        exact .spoils .unencodable (.encoding hpath hprepared hencoded) rfl rfl
          (.emptied hpath hencoded hopened.find hopened.puts)
    | some s =>
        obtain ⟨hfind, hputs, hcause⟩ := hopened.write s.toUTF8
        rcases hwrite : files.write p s.toUTF8 with ⟨left, cause⟩
        rw [hwrite] at hfind hputs hcause
        simp only [hwrite]
        cases hbroken : w.files.interruption p s.toUTF8 with
        | none =>
            rw [hbroken] at hputs hcause
            obtain rfl : cause = none := hcause
            refine .arrives ?_ rfl (.written hpath hencoded hfind hputs)
            simp only [breaks_written_iff hpath, hprepared, Prod.mk.injEq, Except.ok.injEq]
            rintro ⟨_, _, ⟨rfl, rfl⟩, hi⟩
            obtain ⟨i, hi⟩ := hi s hencoded
            cases hbroken.symm.trans hi
        | some i =>
            rw [hbroken] at hputs hcause
            obtain rfl : cause = some i.cause := hcause
            exact .spoils (.refused i.cause) (.writing hpath hprepared hencoded hbroken) rfl rfl
              (.written hpath hencoded hbroken hfind hputs)

theorem deliver_cases (w : World) (path text : Text) :
    Delivers w path text (deliver w path text) := by
  by_cases hpath : path = ""
  · exact delivers_printed w hpath text
  · exact delivers_written w hpath text

/-! ## Runs -/

theorem attempt_of_error
    (h : (declarations w (w.path a.schema) a.options a.format).2 = .error e) :
    (attempt w a).result = .error e ∧ (attempt w a).output = .empty ∧
      (attempt w a).files = w.files := by
  simp [attempt, h]

theorem attempt_of_ok (h : (declarations w (w.path a.schema) a.options a.format).2 = .ok t) :
    (attempt w a).result = (deliver w a.output t).result ∧
      (attempt w a).output = (deliver w a.output t).output ∧
      (attempt w a).files = (deliver w a.output t).files := by
  simp [attempt, h]

/-- A run leaves what its attempt leaves. -/
theorem runWith_leaves (w : World) (a : Arguments) :
    (runWith w a).output = (attempt w a).output ∧ (runWith w a).files = (attempt w a).files := by
  rw [runWith]
  split
  · exact ⟨rfl, rfl⟩
  · split <;> exact ⟨rfl, rfl⟩

theorem status_of_ok (h : (attempt w a).result = .ok ()) : (runWith w a).status = .ok 0 := by
  simp [runWith, h]

theorem status_of_error (h : (attempt w a).result = .error e) :
    (runWith w a).status = if e.isAnswered then .ok 1 else .error e := by
  rw [runWith, h]
  dsimp only
  split <;> rfl

theorem status_ne_of_error (h : (attempt w a).result = .error e) :
    (runWith w a).status ≠ .ok 0 := by
  rw [status_of_error h]
  split <;> simp

/-- How a run ends: its declarations arrive, or it begins to deliver them and does not finish, or
it fails and has not printed or written anything. -/
inductive Ends (w : World) (a : Arguments) : Prop
  | arrives (t : Text) (hunbroken : ¬ Spoils w a)
      (hdeclarations : (declarations w (w.path a.schema) a.options a.format).2 = .ok t)
      (hstatus : (runWith w a).status = .ok 0)
      (hdelivered : Delivered w a.output t (runWith w a).output (runWith w a).files)
  | spoils (t : Text) (e : Failure) (hspoils : Spoils w a)
      (hdeclarations : (declarations w (w.path a.schema) a.options a.format).2 = .ok t)
      (hstatus : (runWith w a).status = .error e)
      (hspoiled : Spoiled w a.output t e (runWith w a).output (runWith w a).files)
  | fails (hunbroken : ¬ Spoils w a) (hstatus : (runWith w a).status ≠ .ok 0)
      (houtput : (runWith w a).output = .empty) (hkeeps : w.files.Keeps (runWith w a).files)

theorem runWith_cases (w : World) (a : Arguments) : Ends w a := by
  obtain ⟨houtput, hfiles⟩ := runWith_leaves w a
  cases hdeclarations : (declarations w (w.path a.schema) a.options a.format).2 with
  | error e =>
      obtain ⟨hresult, hempty, hsame⟩ := attempt_of_error hdeclarations
      refine .fails ?_ (status_ne_of_error hresult) (houtput.trans hempty) ?_
      · rintro ⟨t, ht, -⟩
        simp [hdeclarations] at ht
      · rw [hfiles, hsame]
        exact Files.Keeps.refl _
  | ok t =>
      obtain ⟨hresult, hprinted, hleft⟩ := attempt_of_ok hdeclarations
      have hspoils : Spoils w a ↔ Breaks w a.output t := by simp [Spoils, hdeclarations]
      rw [← houtput] at hprinted
      rw [← hfiles] at hleft
      cases deliver_cases w a.output t with
      | arrives hunbroken hdone hdelivered =>
          exact .arrives t (mt hspoils.1 hunbroken) hdeclarations
            (status_of_ok (hresult.trans hdone)) (by rwa [hprinted, hleft])
      | spoils e hbreaks herror hanswered hspoiled =>
          refine .spoils t e (hspoils.2 hbreaks) hdeclarations ?_ (by rwa [hprinted, hleft])
          rw [status_of_error (hresult.trans herror), if_neg (by simp [hanswered])]
      | fails e hunbroken herror hempty hkeeps =>
          exact .fails (mt hspoils.1 hunbroken) (status_ne_of_error (hresult.trans herror))
            (hprinted.trans hempty) (by rwa [hleft])

/-- A run that fails prints nothing and changes no file, unless it begins to deliver its
declarations and does not finish it: then it has printed a part of them, or the named file is left
with a part of them. A run of a schema that does not fail prints the declarations, or they are all
that the named file holds and no other file has changed. -/
theorem run_changes (w : World) (words : List Text) :
    ((run w words).status ≠ .ok 0 → (∀ a, parse words = .ok a → ¬ Spoils w a) →
      (run w words).output = .empty ∧ w.files.Keeps (run w words).files) ∧
    (∀ a, parse words = .ok a → Spoils w a →
      ∃ t e, (declarations w (w.path a.schema) a.options a.format).2 = .ok t ∧
        (run w words).status = .error e ∧
        Spoiled w a.output t e (run w words).output (run w words).files) ∧
    ∀ a, parse words = .ok a → (run w words).status = .ok 0 →
      ∃ schema t, load w.files (w.path a.schema) = .ok schema ∧
        Schema.generate a.options schema = .ok t ∧
        Delivered w a.output (if a.format then w.formatted t else t) (run w words).output
          (run w words).files := by
  cases hparse : parse words with
  | error stop =>
      cases stop with
      | help => simp [run, hparse]
      | fault e => simpa [run, hparse] using Files.Keeps.refl _
  | ok a =>
      have hrun : run w words = runWith w a := by rw [run, hparse]
      rw [hrun]
      simp only [Except.ok.injEq, forall_eq']
      cases runWith_cases w a with
      | arrives t hunbroken hdeclarations hstatus hdelivered =>
          obtain ⟨schema, u, hschema, hu, rfl⟩ := declarations_ok hdeclarations
          exact ⟨fun h => absurd hstatus h, fun h => absurd h hunbroken,
            fun _ => ⟨schema, u, hschema, hu, hdelivered⟩⟩
      | spoils t e hspoils hdeclarations hstatus hspoiled =>
          exact ⟨fun _ h => absurd hspoils h, fun _ => ⟨t, e, hdeclarations, hstatus, hspoiled⟩,
            fun h => by simp [hstatus] at h⟩
      | fails hunbroken hstatus houtput hkeeps =>
          exact ⟨fun _ _ => ⟨houtput, hkeeps⟩, fun h => absurd h hunbroken,
            fun h => absurd h hstatus⟩

/-- A schema whose command is described with a surrogate that stands alone. -/
def dialText : String :=
  "\x7b\"Command\": \x7b\"Dial\": " ++
    "\x7b\"command\": \"True\", \"description\": \"\\ud800\"\x7d\x7d\x7d"

/-- The place of a file in a working directory. -/
def workPlace (name : String) : Files.Place := ["work".toUTF8.toList, name.toUTF8.toList]

/-- A world with files in its working directory. -/
def workWorld (files : List (String × ByteArray)) : World where
  root := "/work"
  files := { entries := (["work".toUTF8.toList], .directory) ::
    files.map fun f => (workPlace f.1, .file f.2) }

def dialWorld : World := workWorld [("s.json", dialText.toUTF8), ("out.ts", "kept".toUTF8)]

theorem not_keeps_dialWorld : (run dialWorld ["s.json", "-o", "out.ts"]).status ≠ .ok 0 ∧
    ¬ dialWorld.files.Keeps (run dialWorld ["s.json", "-o", "out.ts"]).files := by
  have hrun : (run dialWorld ["s.json", "-o", "out.ts"]).status.isOk = false ∧
      (run dialWorld ["s.json", "-o", "out.ts"]).files.contents? (workPlace "out.ts") =
        some .empty := by
    decide +kernel
  have hkept : dialWorld.files.contents? (workPlace "out.ts") = some "kept".toUTF8 := by
    decide +kernel
  constructor
  · intro hstatus
    simp [hstatus, Except.isOk, Except.toBool] at hrun
  · intro hkeeps
    have hempty : some ByteArray.empty = some "kept".toUTF8 :=
      hrun.2.symm.trans ((hkeeps _).trans hkept)
    exact absurd hempty (by decide)

end DeviceTypings.CommandLine
