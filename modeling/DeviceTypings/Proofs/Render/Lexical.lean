import DeviceTypings.Proofs.Render.Comment
import DeviceTypings.Proofs.Schema.Outlined
import DeviceTypings.Proofs.Text.Identifier

namespace DeviceTypings.Render

/-!
# Code, strings and comments

A text is read from left to right as code, strings in quotes and block comments. What is
written for names, constants and types is code whose strings end where they should and whose
brackets match, whatever the names and constants are. A comment ends in its last line only.
-/

variable {s t j k σ τ : List CodePoint} {c q : CodePoint}

/-! ## Brackets -/

/-- The bracket that closes the one that a character opens. -/
def closer? : CodePoint → Option CodePoint
  | .char '(' => some ')'
  | .char '[' => some ']'
  | .char '\x7b' => some '\x7d'
  | _ => none

def isCloser (c : CodePoint) : Bool := c == ')' || c == ']' || c == '\x7d'

/-- The brackets that have yet to come after a character of code, the next one first, unless
the character closes a bracket that is not the next one. -/
def bracket (stack : List CodePoint) (c : CodePoint) : Option (List CodePoint) :=
  match closer? c with
  | some d => some (d :: stack)
  | none =>
      if isCloser c then
        match stack with
        | d :: stack => if c = d then some stack else none
        | [] => none
      else some stack

/-- Brackets further out are not looked at. -/
theorem bracket_append (h : bracket σ c = some τ) (ρ : List CodePoint) :
    bracket (σ ++ ρ) c = some (τ ++ ρ) := by
  unfold bracket at h ⊢
  cases hc : closer? c with
  | some d =>
      rw [hc] at h
      obtain rfl := Option.some.inj h
      rfl
  | none =>
      cases σ <;> grind

theorem foldlM_bracket_append (h : t.foldlM bracket σ = some τ) (ρ : List CodePoint) :
    t.foldlM bracket (σ ++ ρ) = some (τ ++ ρ) := by
  induction t generalizing σ with
  | nil =>
      obtain rfl := Option.some.inj h
      rfl
  | cons c t ih =>
      rw [List.foldlM_cons] at h ⊢
      obtain ⟨υ, hc, ht⟩ := Option.bind_eq_some_iff.1 h
      rw [bracket_append hc ρ]
      exact ih ht

/-! ## Strings -/

/-- The text stays between two quotes: a quote in it comes after a backslash, and every
backslash comes before a character. -/
inductive Within (q : CodePoint) : List CodePoint → Prop
  | nil : Within q []
  | plain {c : CodePoint} {t : List CodePoint} (hquote : c ≠ q) (hslash : c ≠ '\\')
      (h : Within q t) :
      Within q (c :: t)
  | escape (c : CodePoint) {t : List CodePoint} (h : Within q t) : Within q (.char '\\' :: c :: t)

namespace Within

theorem append (hs : Within q s) (ht : Within q t) : Within q (s ++ t) := by
  induction hs with
  | nil => exact ht
  | plain hquote hslash _ ih => exact .plain hquote hslash ih
  | escape c _ ih => exact .escape c ih

theorem flatMap {f : CodePoint → List CodePoint} (h : ∀ c, Within q (f c)) (cs : List CodePoint) :
    Within q (cs.flatMap f) := by
  induction cs with
  | nil => exact .nil
  | cons c cs ih =>
      rw [List.flatMap_cons]
      exact (h c).append ih

theorem of_all (h : ∀ c ∈ t, c ≠ q ∧ c ≠ '\\') : Within q t := by
  induction t with
  | nil => exact .nil
  | cons c t ih =>
      obtain ⟨⟨hquote, hslash⟩, ht⟩ := List.forall_mem_cons.1 h
      exact .plain hquote hslash (ih ht)

end Within

theorem hex_ne {width n : Nat} {c : CodePoint} (hc : c ∈ Text.hex width n) :
    c ≠ '"' ∧ c ≠ '\'' ∧ c ≠ '\\' := by
  have hdigit : ∀ i < 16, Text.hexDigit i ≠ '"' ∧ Text.hexDigit i ≠ '\'' ∧
      Text.hexDigit i ≠ '\\' := by decide
  obtain ⟨i, -, rfl⟩ := List.mem_map.1 hc
  exact hdigit _ (Nat.mod_lt _ (by decide))

theorem within_unitEscape (hq : q = '"' ∨ q = '\'') (n : Nat) : Within q (Text.unitEscape n) := by
  refine .escape 'u' (.of_all fun c hc => ?_)
  obtain ⟨hdouble, hsingle, hslash⟩ := hex_ne hc
  rcases hq with rfl | rfl
  · exact ⟨hdouble, hslash⟩
  · exact ⟨hsingle, hslash⟩

/-- A character without a short escape is neither the quote nor the backslash. -/
theorem ne_of_shortEscape (h : Text.shortEscape c = none) : c ≠ '"' ∧ c ≠ '\\' := by
  constructor <;> rintro rfl <;> simp [Text.shortEscape] at h

theorem within_escapeAscii (c : CodePoint) : Within '"' (Text.escapeAscii c) := by
  unfold Text.escapeAscii
  split
  · exact .escape _ .nil
  · rename_i hshort
    split
    · obtain ⟨hquote, hslash⟩ := ne_of_shortEscape hshort
      exact .plain hquote hslash .nil
    · generalize Text.units c = units
      induction units with
      | nil => exact .nil
      | cons n units ih => exact (within_unitEscape (.inl rfl) n).append ih

theorem within_escapeLiteral (c : CodePoint) : Within '\'' (Text.escapeLiteral c) := by
  unfold Text.escapeLiteral Text.escapeShort
  split
  · exact .escape _ .nil
  · rename_i hquote
    split
    · exact .escape _ .nil
    · rename_i hshort
      split
      · exact within_unitEscape (.inr rfl) _
      · exact .plain hquote (ne_of_shortEscape hshort).2 .nil

/-! ## Code -/

/-- The characters that start neither a string nor a comment. -/
def isPlain (c : CodePoint) : Bool := c != '/' && c != '"' && c != '\''

/-- Code without comments, and what is left of it without its strings. -/
inductive Code : List CodePoint → List CodePoint → Prop
  | nil : Code [] []
  | plain {c : CodePoint} {t k : List CodePoint} (hc : isPlain c = true) (h : Code t k) :
      Code (c :: t) (c :: k)
  | quoted {q : CodePoint} {s t k : List CodePoint} (hq : q = '"' ∨ q = '\'') (hs : Within q s)
      (h : Code t k) : Code (q :: (s ++ q :: t)) k

namespace Code

theorem append (hs : Code s j) (ht : Code t k) : Code (s ++ t) (j ++ k) := by
  induction hs with
  | nil => exact ht
  | plain hc _ ih => exact .plain hc ih
  | quoted hq hw _ ih =>
      rw [List.cons_append, List.append_assoc, List.cons_append]
      exact .quoted hq hw ih

theorem of_all (h : t.all isPlain = true) : Code t t := by
  induction t with
  | nil => exact .nil
  | cons c t ih =>
      rw [List.all_cons, Bool.and_eq_true] at h
      exact .plain h.1 (ih h.2)

end Code

/-- Code that is met when the brackets `σ` have yet to come, and after which those of `τ` have
to come. -/
def Shifts (s : Text) (σ τ : List CodePoint) : Prop :=
  ∃ k, Code s.toList k ∧ k.foldlM bracket σ = some τ

/-- Code that closes all brackets that it opens, and no others. -/
abbrev Balanced (s : Text) : Prop := Shifts s [] []

namespace Shifts

variable {s t : Text} {υ : List CodePoint}

theorem append (hs : Shifts s σ τ) (ht : Shifts t τ υ) : Shifts (s ++ t) σ υ := by
  obtain ⟨j, hj, hστ⟩ := hs
  obtain ⟨k, hk, hτυ⟩ := ht
  refine ⟨j ++ k, by rw [Text.toList_append]; exact hj.append hk, ?_⟩
  rw [List.foldlM_append, hστ]
  exact hτυ

theorem frame (h : Shifts s σ τ) (ρ : List CodePoint) : Shifts s (σ ++ ρ) (τ ++ ρ) := by
  obtain ⟨k, hk, hbrackets⟩ := h
  exact ⟨k, hk, foldlM_bracket_append hbrackets ρ⟩

theorem of_all {t : List CodePoint} (hplain : t.all isPlain = true)
    (hbrackets : t.foldlM bracket σ = some τ) : Shifts (Text.ofList t) σ τ :=
  ⟨t, by rw [Text.toList_ofList]; exact .of_all hplain, hbrackets⟩

/-- The lines of a text one after the other. -/
theorem unlines_cons {m : Text} {ls : List Text} (hs : Shifts s σ τ)
    (h : Shifts (unlines (m :: ls)) τ υ) : Shifts (unlines (s :: m :: ls)) σ υ := by
  have hfeed : Shifts (s ++ "\n") σ τ := hs.append (.of_all (by decide) rfl)
  have hlines : unlines (s :: m :: ls) = s ++ "\n" ++ unlines (m :: ls) := by
    simp [unlines]
  rw [hlines]
  exact hfeed.append h

end Shifts

theorem Balanced.intercalate {s : Text} {ls : List Text} (hs : Balanced s)
    (hls : ∀ l ∈ ls, Balanced l) : Balanced (s.intercalate ls) := by
  induction ls with
  | nil => exact .of_all (t := []) rfl rfl
  | cons l ls ih =>
      obtain ⟨hl, hls⟩ := List.forall_mem_cons.1 hls
      cases ls with
      | nil =>
          rw [Text.intercalate_singleton]
          exact hl
      | cons m ls =>
          have hjoin : s.intercalate (l :: m :: ls) = l ++ s ++ s.intercalate (m :: ls) := by
            simp
          rw [hjoin]
          exact (hl.append hs).append (ih hls)

/-! ## Indentation -/

theorem code_spaces (n : Nat) :
    Code (List.replicate n (.char ' ')) (List.replicate n (.char ' ')) :=
  .of_all (by simp [isPlain])

theorem foldlM_bracket_spaces (n : Nat) (σ : List CodePoint) :
    (List.replicate n (.char ' ')).foldlM bracket σ = some σ := by
  induction n with
  | zero => rfl
  | succ n ih =>
      rw [List.replicate_succ, List.foldlM_cons]
      exact ih

theorem Shifts.indentLine {l : Text} (depth : Nat) (h : Shifts l σ τ) :
    Shifts (indentLine depth l) σ τ := by
  unfold Render.indentLine
  split
  · exact h
  · refine append ⟨_, ?_, foldlM_bracket_spaces (2 * depth) σ⟩ h
    rw [Text.toList_ofList]
    exact code_spaces _

/-! ## Names, constants and types -/

theorem isPlain_of_isIdentifierPart (h : Text.isIdentifierPart c = true) : isPlain c = true := by
  simp only [isPlain, Bool.and_eq_true, bne_iff_ne, ne_eq]
  refine ⟨⟨?_, ?_⟩, ?_⟩ <;> rintro rfl <;> revert h <;> decide

theorem bracket_of_isIdentifierPart (h : Text.isIdentifierPart c = true) (σ : List CodePoint) :
    bracket σ c = some σ := by
  have hopen : closer? c = none := by
    unfold closer?
    split <;> first | rfl | exact absurd h (by decide)
  have hclose : ¬ isCloser c = true := by
    simp only [isCloser, Bool.or_eq_true, beq_iff_eq]
    rintro ((rfl | rfl) | rfl) <;> revert h <;> decide
  unfold bracket
  rw [hopen]
  exact if_neg hclose

theorem foldlM_bracket_word (h : t.all Text.isIdentifierPart = true) (σ : List CodePoint) :
    t.foldlM bracket σ = some σ := by
  induction t with
  | nil => rfl
  | cons c t ih =>
      rw [List.all_cons, Bool.and_eq_true] at h
      rw [List.foldlM_cons, bracket_of_isIdentifierPart h.1]
      exact ih h.2

theorem balanced_word {s : Text} (h : Text.isWord s.toList = true) : Balanced s := by
  have hall := Text.all_of_isWord h
  have hplain : s.toList.all isPlain = true := List.all_eq_true.2 fun c hc =>
    isPlain_of_isIdentifierPart (List.all_eq_true.1 hall c hc)
  exact ⟨_, .of_all hplain, foldlM_bracket_word hall []⟩

theorem balanced_string {s : Text} (hq : q = '"' ∨ q = '\'') (ht : Within q t)
    (h : s.toList = q :: (t ++ [q])) : Balanced s :=
  ⟨[], by rw [h]; exact .quoted hq ht .nil, rfl⟩

theorem balanced_quoteLiteral (s : Text) : Balanced (Text.quoteLiteral s) :=
  balanced_string (.inr rfl) (.flatMap within_escapeLiteral s.toList)
    (by rw [Text.quoteLiteral, Text.toList_ofList])

theorem balanced_quoteName (s : Text) : Balanced (Text.quoteName s) := by
  unfold Text.quoteName
  split
  · rename_i h
    obtain ⟨word, hword, hs | hs⟩ := Text.exists_word_of_isIdentifier h
    · exact balanced_word (hs ▸ hword)
    -- A name with a line feed at its end counts as an identifier, and is written as it is.
    · have hfeed : s = Text.ofList word ++ "\n" := by simp [← Text.toList_inj, hs]
      rw [hfeed]
      exact (balanced_word (by rwa [Text.toList_ofList])).append (.of_all (by decide) rfl)
  · exact balanced_string (.inl rfl) (.flatMap within_escapeAscii s.toList)
      (by rw [Text.doubleQuoted, Text.toList_ofList])

theorem balanced_type {t : TypeExpr} (h : t.Legible) : Balanced t.render := by
  have hliteral (v : Text) (vs : List Text) : Balanced (TypeExpr.literal v vs).render := by
    refine .intercalate (.of_all (by decide) rfl) fun l hl => ?_
    obtain ⟨s, -, rfl⟩ := List.mem_map.1 hl
    exact balanced_quoteLiteral s
  cases h with
  | plain hname => exact balanced_word hname
  | plains hname => exact (balanced_word hname).append (.of_all (by decide) rfl)
  | literal v vs => exact hliteral v vs
  | literals v vs =>
      have hopen : Shifts "(" [] [')'] := .of_all (by decide) rfl
      have hclose : Shifts ")[]" [')'] [] := .of_all (by decide) rfl
      exact (hopen.append ((hliteral v vs).frame _)).append hclose
  | generic hwrapper hinterface =>
      exact (((balanced_word hwrapper).append (.of_all (by decide) rfl)).append
        (balanced_word hinterface)).append (.of_all (by decide) rfl)

/-! ## Signatures -/

theorem balanced_variable {v : Variable} (h : Balanced v.type) : Balanced v.render := by
  have hmark : Balanced (Text.ofString (if v.optional then "?" else "")) := by
    cases v.optional
    · exact .of_all (t := []) rfl rfl
    · exact .of_all (t := ['?']) rfl rfl
  exact (((balanced_quoteName v.name).append hmark).append (.of_all (by decide) rfl)).append h

theorem balanced_member {m : Member} (h : (Node.member m).Legible) : Balanced m.signature := by
  cases h with
  | member htype => exact balanced_variable (balanced_type htype)

theorem balanced_joinPieces {ps : List Piece} (h : ∀ p ∈ ps, Balanced p.render) :
    Balanced (joinPieces ps) := by
  refine .intercalate (.of_all (by decide) rfl) fun l hl => ?_
  obtain ⟨p, hp, rfl⟩ := List.mem_map.1 hl
  exact h p (List.mem_of_mem_filter hp)

theorem balanced_joinNames {names : List Text} (h : ∀ n ∈ names, Balanced n) :
    Balanced (joinNames names) := by
  refine balanced_joinPieces fun p hp => ?_
  obtain ⟨n, hn, rfl⟩ := List.mem_map.1 hp
  exact h n hn

theorem balanced_parameters {c : Command} (h : ∀ i ∈ c.args, i.Legible) :
    ∀ p ∈ c.parameters, Balanced p.render := by
  intro p hp
  rcases List.mem_append.1 hp with hp | hp
  · split at hp
    · rename_i i hi
      obtain rfl := List.mem_singleton.1 hp
      cases h i hi with
      | mk hname _ _ => exact balanced_variable (balanced_word hname)
    · simp at hp
  · split at hp
    · obtain rfl := List.mem_singleton.1 hp
      exact balanced_variable (.of_all (by decide) rfl)
    · simp at hp

theorem balanced_command {c : Command} (h : (Node.command c).Legible) : Balanced c.signature := by
  cases h with
  | command hreturn hargs =>
      have hopen : Shifts ">(" [] [')'] := .of_all (by decide) rfl
      have hclose : Shifts "): Promise<R>" [')'] [] := .of_all (by decide) rfl
      have hparameters := balanced_joinPieces (balanced_parameters hargs)
      exact (((((balanced_quoteName c.name).append (.of_all (by decide) rfl)).append
        (balanced_word hreturn)).append hopen).append (hparameters.frame _)).append hclose

theorem balanced_interfaceHeader {name : Text} {bases : List Text} (hname : Balanced name)
    (hbases : ∀ b ∈ bases, Balanced b) : Balanced (interfaceHeader name bases) := by
  have hexport : Balanced ("export interface " ++ name) :=
    Shifts.append (.of_all (by decide) rfl) hname
  unfold interfaceHeader
  split
  · exact hexport
  · exact (hexport.append (.of_all (by decide) rfl)).append (balanced_joinNames hbases)

/-- The first line of a block opens the brace that its last line closes. -/
theorem shifts_opening {header : Text} (h : Balanced header) :
    Shifts (header ++ " \x7b") [] ['\x7d'] :=
  h.append (.of_all (by decide) rfl)

theorem shifts_closing {separator : Text} (h : Balanced separator) :
    Shifts ("\x7d" ++ separator) ['\x7d'] [] :=
  Shifts.append (.of_all (by decide) rfl) h

theorem balanced_import {i : ImportStatement}
    (hnames : ∀ name ∈ i.names, Text.isWord name.toList = true)
    (hsource : ∀ c ∈ i.source.toList, c ≠ '"' ∧ c ≠ '\\') : Balanced i.render := by
  have hopen : Shifts "import \x7b " [] ['\x7d'] := .of_all (by decide) rfl
  have hclose : Shifts " \x7d from " ['\x7d'] [] := .of_all (by decide) rfl
  have hjoin : Balanced (joinNames i.names) :=
    balanced_joinNames fun name hname => balanced_word (hnames name hname)
  have hsource : Balanced ("\"" ++ i.source ++ "\"") :=
    balanced_string (.inl rfl) (.of_all hsource) (by simp)
  have hparts : i.render = "import \x7b " ++ joinNames i.names ++ " \x7d from " ++
      ("\"" ++ i.source ++ "\"") ++ ";" := by
    simp [← Text.toList_inj, ImportStatement.render, importLine]
  rw [hparts]
  exact (((hopen.append (hjoin.frame _)).append hclose).append hsource).append
    (.of_all (by decide) rfl)

theorem balanced_class {name base : Text} (hname : Balanced name) (hbase : Balanced base) :
    Balanced (classDeclaration name base) :=
  (((Shifts.append (.of_all (by decide) rfl) hname).append (.of_all (by decide) rfl)).append
    hbase).append (.of_all (by decide) rfl)

theorem balanced_exports {m : MainClass} (hname : Balanced m.name) :
    ∀ l ∈ m.exports, Balanced l := by
  have hdefault : Balanced ("export default " ++ m.name ++ ";") :=
    (Shifts.append (.of_all (by decide) rfl) hname).append (.of_all (by decide) rfl)
  have hgenerator : Balanced ("export const connect = " ++ connectGenerator) :=
    Shifts.append (.of_all (by decide) rfl) (balanced_word (by decide))
  have hopen : Shifts "(" [] [')'] := .of_all (by decide) rfl
  have hclose : Shifts ");" [')'] [] := .of_all (by decide) rfl
  have hconnect := ((hgenerator.append hopen).append (hname.frame _)).append hclose
  intro l hl
  rcases List.mem_append.1 hl with hl | hl
  · split at hl
    · exact List.mem_singleton.1 hl ▸ hdefault
    · simp at hl
  · split at hl
    · exact List.mem_singleton.1 hl ▸ hconnect
    · simp at hl

theorem balanced_builtins : Balanced builtins := by
  have hlast {l : Text} {σ τ : List CodePoint} (h : Shifts l σ τ) : Shifts (unlines [l]) σ τ := by
    rwa [unlines_singleton]
  repeat' refine .unlines_cons (.of_all (by decide) rfl) ?_
  exact hlast (.of_all (by decide) rfl)

/-! ## Comments -/

/-- Whether a comment ends within a text. -/
def closes : List CodePoint → Bool
  | .char '*' :: .char '/' :: _ => true
  | _ :: r => closes r
  | [] => false

theorem closes_cons (h : c ≠ '*') (t : List CodePoint) : closes (c :: t) = closes t := by
  rw [closes]
  intro r hc
  exact absurd hc h

theorem closes_replicate (n : Nat) (t : List CodePoint) :
    closes (List.replicate n (.char ' ') ++ t) = closes t := by
  induction n with
  | zero => rfl
  | succ n ih => rw [List.replicate_succ, List.cons_append, closes_cons (by decide), ih]

/-- A slash comes first after the escapes only where it came first before. -/
theorem exists_of_escapeClose {r : List CodePoint} (h : escapeClose t = .char '/' :: r) :
    ∃ r', t = .char '/' :: r' := by
  revert h
  fun_cases escapeClose t with
  | case1 => simp
  | case2 => simp
  | case3 c r' _ =>
      intro h
      obtain ⟨rfl, -⟩ := List.cons.inj h
      exact ⟨r', rfl⟩

theorem closes_escapeClose (t : List CodePoint) : closes (escapeClose t) = false := by
  fun_induction escapeClose t with
  | case1 => rfl
  | case2 t ih => simpa [closes] using ih
  | case3 c t hne ih =>
      rw [closes]
      · exact ih
      · intro r hc hr
        obtain ⟨r', hr'⟩ := exists_of_escapeClose hr
        exact hne r' hc hr'

theorem closes_commentLine (line : List CodePoint) : closes (commentLine line).toList = false := by
  unfold commentLine
  split
  · decide
  · simpa [closes] using closes_escapeClose (Text.trimEnd line)

/-- A reading inside a comment, which passes over all that does not end the comment. -/
def Skips {α : Type} (f : List CodePoint → α) : Prop :=
  ∀ (c : CodePoint) r, (∀ r', c = '*' → r ≠ .char '/' :: r') → f (c :: r) = f r

namespace Skips

variable {α : Type} {f : List CodePoint → α}

theorem line (hf : Skips f) (r : List CodePoint) (h : closes t = false) :
    f (t ++ .char '\n' :: r) = f r := by
  fun_induction closes t with
  | case1 => simp at h
  | case2 c t hne ih =>
      rw [List.cons_append, hf, ih h]
      intro r' hc ht
      cases t with
      | nil => simp at ht
      | cons d t =>
          obtain ⟨rfl, -⟩ := List.cons.inj ht
          exact hne t hc rfl
  | case3 => exact hf _ _ (by simp)

theorem blanks (hf : Skips f) (n : Nat) (r : List CodePoint) :
    f (List.replicate n (.char ' ') ++ r) = f r := by
  induction n with
  | zero => rfl
  | succ n ih => rw [List.replicate_succ, List.cons_append, hf _ _ (by simp), ih]

theorem commentLines (hf : Skips f) (depth : Nat) (lines : List (List CodePoint))
    (r : List CodePoint) :
    f (feed (indent depth (lines.map commentLine)) ++ r) = f r := by
  induction lines with
  | nil => rfl
  | cons line lines ih =>
      have hne : commentLine line ≠ "" := by
        unfold commentLine
        split <;> simp [← Text.toList_inj]
      rw [List.map_cons, indent, List.map_cons, feed_cons, List.append_assoc, List.cons_append,
        hf.line _ (by rw [toList_indentLine depth hne, closes_replicate, closes_commentLine])]
      exact ih

end Skips

/-- A comment has a body that does not end it, at any depth and for any docstring. -/
theorem exists_commentBody (depth : Nat) (doc : Text) : ∃ body,
    feed (indent depth (commentBlock doc)) =
      List.replicate (2 * depth) (.char ' ') ++
        .char '/' :: .char '*' :: (body ++ [.char '*', .char '/', .char '\n']) ∧
    ∀ {α : Type} {f : List CodePoint → α}, Skips f →
      ∀ r, f (body ++ .char '*' :: .char '/' :: r) = f (.char '*' :: .char '/' :: r) := by
  have hopen : (indentLine depth "/**").toList =
      List.replicate (2 * depth) (.char ' ') ++ [.char '/', .char '*', .char '*'] :=
    toList_indentLine depth (by decide)
  have hclose : (indentLine depth " */").toList =
      List.replicate (2 * depth + 1) (.char ' ') ++ [.char '*', .char '/'] := by
    rw [toList_indentLine depth (by decide), List.replicate_succ', List.append_assoc]
    rfl
  refine ⟨.char '*' :: .char '\n' ::
    (feed (indent depth ((Text.lines (Text.trim doc.toList)).map commentLine)) ++
      List.replicate (2 * depth + 1) (.char ' ')), ?_, fun {α f} hf r => ?_⟩
  · simp only [commentBlock, indent, List.map_cons, List.map_append, List.map_nil, feed_cons,
      feed_append, feed_nil, hopen, hclose, List.append_assoc, List.cons_append, List.nil_append]
  · rw [List.cons_append, List.cons_append, List.append_assoc,
      ← List.singleton_append (x := CodePoint.char '*'), hf.line _ rfl, hf.commentLines, hf.blanks]

end DeviceTypings.Render
