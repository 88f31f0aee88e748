import DeviceTypings.Proofs.Document.Reading
import DeviceTypings.Proofs.Document.TopLevel
import DeviceTypings.Proofs.Text.Lexeme

namespace DeviceTypings

/-!
# The import of a document

The text of a schema starts with an import of the base class, and of the connect generator if it
is used. Their names are always read back. The library stands between quotes as it is, so it is
read back exactly if nothing in it has to be escaped there.
-/

namespace Text

/-- An import up to its library. -/
def importClause (names : List Text) : List Lexeme :=
  .word "import" :: .mark '\x7b' ::
    ([.mark ','].intercalate (names.map fun name => [.word name]) ++ [.mark '\x7d', .word "from"])

/-- The first statement of the text imports exactly the names, from the library. -/
def Imports (text : Text) (names : List Text) (library : Text) : Prop :=
  ∃ r, statement? text.toList =
    some (importClause names ++ [.string (utf16 library), .mark ';'], r)

end Text

open Text (Opens Lexeme)

/-! ## Reading an import -/

namespace Render

variable {names : List Text} {name : Text} {r t : List CodePoint}

theorem opens_word (h : Text.isWord name.toList = true) (hr : Text.Ends Text.isIdentifierPart r) :
    Opens [.word name] (name.toList ++ r) r := by
  refine .lexeme ?_ (by simp)
  rw [Text.lexeme?_word h hr, Text.ofList_toList]

theorem opens_mark {c : CodePoint} (h : Text.isMark c = true) (hc : c ≠ ';') (r : List CodePoint) :
    Opens [.mark c] (c :: r) r :=
  .lexeme (Text.lexeme?_mark h r) (by simpa using hc)

theorem toList_joinNames (h : ∀ name ∈ names, Text.isWord name.toList = true) :
    (joinNames names).toList = [.char ',', .char ' '].intercalate (names.map Text.toList) := by
  have hne : ∀ name ∈ names, (name != "") = true := by
    intro name hname
    have hword := h name hname
    simp only [bne_iff_ne, ne_eq]
    rintro rfl
    simp [Text.isWord] at hword
  rw [joinNames_eq, List.filter_eq_self.2 hne, Text.toList_intercalate]
  rfl

theorem opens_names (h : ∀ name ∈ names, Text.isWord name.toList = true) (r : List CodePoint) :
    Opens ([.mark ','].intercalate (names.map fun name => [.word name]))
      ((joinNames names).toList ++ .char ' ' :: r) (.char ' ' :: r) := by
  have hblank (r : List CodePoint) : Text.Ends Text.isIdentifierPart (.char ' ' :: r) :=
    .cons (by decide) r
  have hcomma (r : List CodePoint) : Text.Ends Text.isIdentifierPart (.char ',' :: r) :=
    .cons (by decide) r
  rw [toList_joinNames h]
  induction names with
  | nil => exact .refl _
  | cons name names ih =>
      obtain ⟨hname, hnames⟩ := List.forall_mem_cons.1 h
      cases names with
      | nil => simpa using opens_word hname (hblank r)
      | cons next names =>
          have hrest := (ih hnames).blank
          have hmark := (opens_mark (c := ',') rfl (by decide) _).append hrest
          have hword := (opens_word hname (hcomma _)).append hmark
          simpa using hword

/-- The clause is read whatever the source holds. -/
theorem opens_importLine (h : ∀ name ∈ names, Text.isWord name.toList = true) (source : Text)
    (t : List CodePoint) : Opens (Text.importClause names) ((importLine names source).toList ++ t)
      (.char '"' :: (source.toList ++ .char '"' :: .char ';' :: t)) := by
  have hword {name : Text} (hname : Text.isWord name.toList = true) (r : List CodePoint) :
      Opens [.word name] (name.toList ++ .char ' ' :: r) (.char ' ' :: r) :=
    opens_word hname (.cons (by decide) r)
  have hsource := (Opens.refl (.char '"' :: (source.toList ++ .char '"' :: .char ';' :: t))).blank
  have hfrom : Opens [.word "from"] (Text.toList "from" ++ .char ' ' :: _) _ :=
    (hword (by decide) _).append hsource
  have hclose := (opens_mark (c := '\x7d') rfl (by decide) _).append hfrom.blank
  have hnames := ((opens_names h _).append hclose.blank).blank
  have hopen := (opens_mark (c := '\x7b') rfl (by decide) _).append hnames
  have himport : Opens (.word "import" :: _) (Text.toList "import" ++ .char ' ' :: _) _ :=
    (hword (by decide) _).append hopen.blank
  simpa [importLine, Text.importClause] using himport

theorem statement?_importLine (h : ∀ name ∈ names, Text.isWord name.toList = true)
    (source : Text) (t : List CodePoint) :
    Text.statement? ((importLine names source).toList ++ t) =
      (Text.Spelling.plain.read? (source.toList ++ .char '"' :: .char ';' :: t)).bind fun (ns, r) =>
        (Text.statement? r).map fun (ls, u) =>
          (Text.importClause names ++ .string ns :: ls, u) := by
  have hopen : Text.statement? _ = _ := opens_importLine h source t
  rw [hopen, Text.statement?_quote]
  cases Text.Spelling.plain.read? (source.toList ++ .char '"' :: .char ';' :: t) <;>
    simp [Function.comp_def]

/-- What is read up to the semicolon is the source that the text imports from. -/
theorem imports_of_read? (h : ∀ name ∈ names, Text.isWord name.toList = true)
    {source value text : Text} (htext : text.toList = (importLine names source).toList ++ t)
    (hread : Text.Spelling.plain.read? (source.toList ++ .char '"' :: .char ';' :: t) =
      some (Text.utf16 value, .char ';' :: r)) : Text.Imports text names value := by
  have hend := Text.statement?_semicolon r
  refine ⟨r, ?_⟩
  rw [htext, statement?_importLine h, hread]
  simp [hend]

/-- An import that ends its line is read with its own source exactly if the source may stand
between quotes as it is. -/
theorem imports_importLine_iff (h : ∀ name ∈ names, Text.isWord name.toList = true)
    {source text : Text}
    (htext : text.toList = (importLine names source).toList ++ .char '\n' :: t) :
    Text.Imports text names source ↔ ∀ c ∈ source.toList, Text.IsOrdinary c := by
  constructor
  · rintro ⟨r, hr⟩
    rw [htext, statement?_importLine h] at hr
    obtain ⟨⟨ns, u⟩, hread, hr⟩ := Option.bind_eq_some_iff.1 hr
    obtain ⟨⟨ls, v⟩, -, hr⟩ := Option.map_eq_some_iff.1 hr
    have hunits := (List.cons.inj (List.append_cancel_left (Prod.mk.inj hr).1)).1
    rw [Lexeme.string.inj hunits] at hread
    exact Text.Spelling.read?_eq_units_iff.1 ⟨u, hread⟩
  · intro hsource
    exact imports_of_read? h htext (Text.Spelling.read?_ordinary hsource _)

end Render

/-! ## The text of a schema -/

namespace Schema

variable {o : Options} {s : Value} {t : Text}

/-- The text starts with the line of the import. -/
theorem exists_importLine_of_generate (h : generate o s = .ok t) : ∃ r, t.toList =
    (Render.importLine (o.base :: if o.withConnect then [connectGenerator] else [])
      o.library).toList ++ .char '\n' :: r := by
  obtain ⟨d, hd, rfl⟩ := Except.map_eq_ok.1 h
  obtain ⟨es, cs, -, -, -, rfl⟩ := compile_eq_ok.1 hd
  have hdeclarations : (o.layout.addChapters cs).document.declarations ≠ [] := by
    simp [Layout.document]
  rw [Document.toList_render hdeclarations, Layout.blocks_document,
    Render.feed_spaced_cons _ (by simp [Layout.blocksOf_ne_nil]), Render.feed_cons,
    List.append_assoc]
  exact ⟨_, rfl⟩

/-- The first statement of the text imports exactly the base, and the connect generator if it is
used, whatever the library holds. It imports them from the library of the options exactly if that
has no double quote, no backslash, no line feed and no carriage return. -/
theorem generate_imports (hbase : Text.isWord o.base.toList = true) (h : generate o s = .ok t) :
    (∀ ls r, Text.statement? t.toList = some (ls, r) →
      Text.importClause (o.base :: if o.withConnect then [connectGenerator] else []) <+: ls) ∧
    (Text.Imports t (o.base :: if o.withConnect then [connectGenerator] else []) o.library ↔
      ∀ c ∈ o.library.toList, c ≠ '"' ∧ c ≠ '\\' ∧ c ≠ '\n' ∧ c ≠ '\r') := by
  obtain ⟨r, hr⟩ := exists_importLine_of_generate h
  have hnames : ∀ name ∈ o.base :: (if o.withConnect then [connectGenerator] else []),
      Text.isWord name.toList = true := by
    have hgenerator : Text.isWord connectGenerator.toList = true := by decide
    cases o.withConnect <;> simp [hbase, hgenerator]
  refine ⟨?_, Render.imports_importLine_iff hnames hr⟩
  intro ls u hls
  rw [hr, Render.statement?_importLine hnames] at hls
  obtain ⟨⟨ns, v⟩, -, hls⟩ := Option.bind_eq_some_iff.1 hls
  obtain ⟨⟨ks, w⟩, -, hls⟩ := Option.map_eq_some_iff.1 hls
  rw [← (Prod.mk.inj hls).1]
  exact List.prefix_append _ _

theorem imports_lineSchema : ∃ t, generate { library := "../../xapi" } lineSchema = .ok t ∧
    Text.Imports t ["XAPI", "connectGen"] "../../xapi" := by
  have hgenerate : ∃ t, generate { library := "../../xapi" } lineSchema = .ok t := ⟨_, rfl⟩
  obtain ⟨t, ht⟩ := hgenerate
  exact ⟨t, ht, (generate_imports (by decide) ht).2.2 (by simp)⟩

/-- A backslash makes another name of the library. -/
theorem not_imports_backslash : ∃ t, generate { library := "lib\\types" } (.map []) = .ok t ∧
    Text.Imports t ["XAPI", "connectGen"] "lib\types" ∧
      ¬ Text.Imports t ["XAPI", "connectGen"] "lib\\types" := by
  have hgenerate : ∃ t, generate { library := "lib\\types" } (.map []) = .ok t := ⟨_, rfl⟩
  obtain ⟨t, ht⟩ := hgenerate
  obtain ⟨r, hr⟩ := exists_importLine_of_generate ht
  have hnames : ∀ name ∈ (["XAPI", "connectGen"] : List Text),
      Text.isWord name.toList = true := by decide
  have hread : Text.Spelling.plain.read?
      (Text.toList "lib\\types" ++ .char '"' :: .char ';' :: .char '\n' :: r) =
      some (Text.utf16 "lib\types", .char ';' :: .char '\n' :: r) := rfl
  refine ⟨t, ht, Render.imports_of_read? hnames hr hread, ?_⟩
  intro himports
  have hordinary := (Render.imports_importLine_iff hnames hr).1 himports
  exact (hordinary '\\' (by simp)).2.1 rfl

end Schema

end DeviceTypings
