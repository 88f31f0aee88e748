import DeviceTypings.Proofs.Document.Alike
import DeviceTypings.Proofs.Render.Comment
import DeviceTypings.Proofs.Schema.Outlined

namespace DeviceTypings

/-!
# Members read back

What is written for a member tells where it ends and what the member was, up to the
kinds of trees and to the comments of docstrings. Of the interface of arguments the
name is told. Each part is read from the front of a text that goes on somehow: if two
parts start the same text, they are the same part, and the same rest comes after them.
-/

variable {r s : List CodePoint}

/-! ## Types -/

namespace TypeExpr

open Text (isIdentifierPart isWord Ends)

/-- The first character that belongs to no word. -/
def markOf (t : List CodePoint) : Option CodePoint := (t.dropWhile isIdentifierPart).head?

/-- The character that the form of a type is told by, if `stop` comes after the type. -/
def mark (stop : CodePoint) : TypeExpr → CodePoint
  | plain _ => stop
  | literal _ _ => '\''
  | list (literal _ _) => '('
  | list _ => '['
  | generic _ _ => '<'

theorem markOf_cons {c : CodePoint} (h : isIdentifierPart c = false) (t : List CodePoint) :
    markOf (c :: t) = some c := by
  rw [markOf, List.dropWhile_cons_of_neg (by simp [h]), List.head?_cons]

theorem markOf_word {w : List CodePoint} (h : isWord w = true) (t : List CodePoint) :
    markOf (w ++ t) = markOf t := by
  rw [markOf, List.dropWhile_append_of_pos (List.all_eq_true.1 (Text.all_of_isWord h)), markOf]

theorem toList_render_literal (v : Text) (vs : List Text) :
    (literal v vs).render.toList = (Text.quoteLiteral v).toList ++
      vs.flatMap fun w => .char ' ' :: .char '|' :: .char ' ' :: (Text.quoteLiteral w).toList := by
  have hsep : Text.toList " | " = [' ', '|', ' '] := rfl
  rw [render, Text.toList_intercalate, hsep]
  induction vs generalizing v with
  | nil => simp
  | cons w vs ih =>
      simp only [List.map_cons, List.intercalate_cons_cons] at ih ⊢
      rw [ih]
      simp

theorem toList_render_plains (name : Text) :
    (list (plain name)).render.toList = name.toList ++ [.char '[', .char ']'] := by
  rw [render, Text.toList_append]
  · rfl
  · simp

theorem toList_render_literals (v : Text) (vs : List Text) :
    (list (literal v vs)).render.toList =
      .char '(' :: ((literal v vs).render.toList ++ [.char ')', .char '[', .char ']']) := by
  have hrender : (list (literal v vs)).render = "(" ++ (literal v vs).render ++ ")[]" := rfl
  rw [hrender, Text.toList_append, Text.toList_append]
  rfl

theorem toList_render_generic (wrapper interface : Text) :
    (generic wrapper interface).render.toList =
      wrapper.toList ++ .char '<' :: (interface.toList ++ [.char '>']) := by
  simp [render]

theorem exists_quoteLiteral (v : Text) : ∃ t, (Text.quoteLiteral v).toList = .char '\'' :: t := by
  exact ⟨_, by rw [Text.quoteLiteral, Text.toList_ofList]⟩

theorem markOf_render {t : TypeExpr} (h : t.Legible) {stop : CodePoint}
    (hstop : isIdentifierPart stop = false) (r : List CodePoint) :
    markOf (t.render.toList ++ stop :: r) = some (t.mark stop) := by
  cases h with
  | plain hname =>
      rw [render, markOf_word hname, markOf_cons hstop]
      rfl
  | plains hname =>
      rw [toList_render_plains, List.append_assoc, markOf_word hname]
      exact markOf_cons (by decide) _
  | literal v vs =>
      obtain ⟨t, ht⟩ := exists_quoteLiteral v
      rw [toList_render_literal, ht]
      exact markOf_cons (by decide) _
  | literals v vs =>
      rw [toList_render_literals]
      exact markOf_cons (by decide) _
  | generic hwrapper _ =>
      rw [toList_render_generic, List.append_assoc, markOf_word hwrapper]
      exact markOf_cons (by decide) _

/-- No type starts with a brace. -/
theorem head?_render {t : TypeExpr} (h : t.Legible) (u : List CodePoint) :
    (t.render.toList ++ u).head? ≠ some (.char '\x7b') := by
  have hword {w : List CodePoint} (hw : isWord w = true) (u : List CodePoint) :
      (w ++ u).head? ≠ some (.char '\x7b') := by
    obtain ⟨c, v, rfl, hc⟩ := Text.exists_cons_of_isWord hw
    rintro heq
    obtain rfl : c = '\x7b' := by simpa using heq
    exact absurd hc (by decide)
  cases h with
  | plain hname => exact hword hname u
  | plains hname =>
      rw [toList_render_plains, List.append_assoc]
      exact hword hname _
  | literal v vs =>
      obtain ⟨t, ht⟩ := exists_quoteLiteral v
      rw [toList_render_literal, ht]
      simp
  | literals v vs =>
      rw [toList_render_literals]
      simp
  | generic hwrapper _ =>
      rw [toList_render_generic, List.append_assoc]
      exact hword hwrapper _

theorem union_append_inj {vs ws : List Text} (hr : r.head? ≠ some (.char ' '))
    (hs : s.head? ≠ some (.char ' '))
    (h : (vs.flatMap fun v =>
        .char ' ' :: .char '|' :: .char ' ' :: (Text.quoteLiteral v).toList) ++ r =
      (ws.flatMap fun w =>
        .char ' ' :: .char '|' :: .char ' ' :: (Text.quoteLiteral w).toList) ++ s) :
    vs = ws ∧ r = s := by
  induction vs generalizing ws with
  | nil =>
      cases ws with
      | nil => exact ⟨rfl, h⟩
      | cons w ws => exact absurd (congrArg List.head? h) hr
  | cons v vs ih =>
      cases ws with
      | nil => exact absurd (congrArg List.head? h).symm hs
      | cons w ws =>
          simp only [List.flatMap_cons, List.cons_append, List.append_assoc, List.cons.injEq,
            true_and] at h
          obtain ⟨rfl, hrest⟩ := Text.quoteLiteral_append_inj h
          obtain ⟨rfl, rfl⟩ := ih hrest
          exact ⟨rfl, rfl⟩

theorem literal_append_inj {v w : Text} {vs ws : List Text} (hr : r.head? ≠ some (.char ' '))
    (hs : s.head? ≠ some (.char ' '))
    (h : (literal v vs).render.toList ++ r = (literal w ws).render.toList ++ s) :
    (v = w ∧ vs = ws) ∧ r = s := by
  rw [toList_render_literal, toList_render_literal, List.append_assoc, List.append_assoc] at h
  obtain ⟨hvw, hrest⟩ := Text.quoteLiteral_append_inj h
  obtain ⟨hvs, hrs⟩ := union_append_inj hr hs hrest
  exact ⟨⟨hvw, hvs⟩, hrs⟩

/-- A type is read up to a character that goes on no type. -/
theorem render_append_inj {t u : TypeExpr} (ht : t.Legible) (hu : u.Legible) {stop : CodePoint}
    (hstop : stop = ',' ∨ stop = ';')
    (h : t.render.toList ++ stop :: r = u.render.toList ++ stop :: s) : t = u ∧ r = s := by
  have hpart : isIdentifierPart stop = false := by rcases hstop with rfl | rfl <;> decide
  have hblank (t : List CodePoint) : (stop :: t).head? ≠ some (.char ' ') := by
    rcases hstop with rfl | rfl <;> simp
  have hends (t : List CodePoint) : Ends isIdentifierPart (stop :: t) := .cons hpart t
  have hmark : t.mark stop = u.mark stop := by
    have heq := congrArg markOf h
    rw [markOf_render ht hpart, markOf_render hu hpart] at heq
    exact Option.some.inj heq
  cases ht with
  | plain hname =>
      cases hu with
      | plain hname' =>
          obtain ⟨heq, hrest⟩ := Text.word_append_inj hname hname' (hends r) (hends s) h
          exact ⟨congrArg plain (Text.toList_inj.1 heq), (List.cons.inj hrest).2⟩
      | _ => rcases hstop with rfl | rfl <;> simp [mark] at hmark
  | plains hname =>
      cases hu with
      | plains hname' =>
          simp only [toList_render_plains, List.append_assoc, List.cons_append,
            List.nil_append] at h
          obtain ⟨heq, hrest⟩ := Text.word_append_inj hname hname' (.cons (by decide) _)
            (.cons (by decide) _) h
          exact ⟨congrArg (list ∘ plain) (Text.toList_inj.1 heq), by simpa using hrest⟩
      | _ => rcases hstop with rfl | rfl <;> simp [mark] at hmark
  | literal v vs =>
      cases hu with
      | literal w ws =>
          obtain ⟨⟨rfl, rfl⟩, hrest⟩ := literal_append_inj (hblank r) (hblank s) h
          exact ⟨rfl, (List.cons.inj hrest).2⟩
      | _ => rcases hstop with rfl | rfl <;> simp [mark] at hmark
  | literals v vs =>
      cases hu with
      | literals w ws =>
          rw [toList_render_literals, toList_render_literals, List.cons_append, List.cons_append,
            List.append_assoc, List.append_assoc] at h
          obtain ⟨⟨rfl, rfl⟩, hrest⟩ := literal_append_inj (by simp) (by simp) (List.cons.inj h).2
          exact ⟨rfl, by simpa using hrest⟩
      | _ => rcases hstop with rfl | rfl <;> simp [mark] at hmark
  | generic hw hi =>
      cases hu with
      | generic hw' hi' =>
          simp only [toList_render_generic, List.append_assoc, List.cons_append,
            List.nil_append] at h
          obtain ⟨hwrapper, hrest⟩ := Text.word_append_inj hw hw' (.cons (by decide) _)
            (.cons (by decide) _) h
          obtain ⟨hinterface, hrest⟩ := Text.word_append_inj hi hi' (.cons (by decide) _)
            (.cons (by decide) _) (List.cons.inj hrest).2
          rw [Text.toList_inj.1 hwrapper, Text.toList_inj.1 hinterface]
          exact ⟨rfl, by simpa using hrest⟩
      | _ => rcases hstop with rfl | rfl <;> simp [mark] at hmark

end TypeExpr

/-! ## Parameters -/

namespace CommandOf

open Text (isIdentifierPart isWord Ends)

theorem toList_args (name : Text) (optional : Bool) :
    (Render.Variable.render ⟨"args", name, optional⟩).toList =
      Text.toList "args" ++ ((if optional then [.char '?'] else []) ++
        .char ':' :: .char ' ' :: name.toList) := by
  have hquote : Text.quoteName "args" = "args" := by decide
  cases optional <;> simp [Render.Variable.render, hquote]

theorem toList_body :
    (Render.Variable.render ⟨"body", "string", false⟩).toList = Text.toList "body: string" := by
  decide

theorem joinPieces_typed (v : Render.Variable) :
    (Render.joinPieces [.typed v]).toList = v.render.toList := by
  simp [Render.joinPieces, List.filter_cons, Render.Piece.isShown, Render.Piece.render]

theorem joinPieces_typed_typed (v w : Render.Variable) :
    (Render.joinPieces [.typed v, .typed w]).toList =
      v.render.toList ++ Text.toList ", " ++ w.render.toList := by
  simp [Render.joinPieces, List.filter_cons, Render.Piece.isShown, Render.Piece.render]

theorem toList_parameters_none {c : Command} (h : c.args = none) :
    (Render.joinPieces c.parameters).toList =
      if c.multiline then Text.toList "body: string" else [] := by
  cases hm : c.multiline
  · simp [parameters, h, hm, Render.joinPieces]
  · simp only [parameters, h, hm, if_true, List.nil_append, joinPieces_typed, toList_body]

theorem toList_parameters_some {c : Command} {i : Interface} (h : c.args = some i) :
    (Render.joinPieces c.parameters).toList =
      Text.toList "args" ++ ((if c.argsOptional then [.char '?'] else []) ++
        .char ':' :: .char ' ' :: (i.name.toList ++
          if c.multiline then Text.toList ", body: string" else [])) := by
  cases hm : c.multiline
  · simp [parameters, h, hm, joinPieces_typed, toList_args]
  · simp [parameters, h, hm, joinPieces_typed_typed, toList_args, toList_body]

theorem parameters_append_inj {c c' : Command} (hc : ∀ i ∈ c.args, isWord i.name.toList = true)
    (hc' : ∀ i ∈ c'.args, isWord i.name.toList = true)
    (h : (Render.joinPieces c.parameters).toList ++ .char ')' :: r =
      (Render.joinPieces c'.parameters).toList ++ .char ')' :: s) :
    Option.Rel InterfaceOf.SameName c.args c'.args ∧ c.multiline = c'.multiline ∧ r = s := by
  have hends (b : Bool) (t : List CodePoint) : Ends isIdentifierPart
      ((if b then Text.toList ", body: string" else []) ++ .char ')' :: t) := by
    cases b <;> exact .cons (by decide) _
  have hnone (b : Bool) (t : List CodePoint) :
      ((if b then Text.toList "body: string" else []) ++ .char ')' :: t).head? ≠
        some (.char 'a') := by
    cases b <;> simp
  cases hargs : c.args with
  | none =>
      rw [toList_parameters_none hargs] at h
      cases hargs' : c'.args with
      | none =>
          rw [toList_parameters_none hargs'] at h
          exact ⟨.none, Text.option_append_inj ⟨'b', rfl, by decide⟩ h⟩
      | some j =>
          rw [toList_parameters_some hargs'] at h
          exact absurd (congrArg List.head? h) (hnone _ _)
  | some i =>
      rw [toList_parameters_some hargs] at h
      cases hargs' : c'.args with
      | none =>
          rw [toList_parameters_none hargs'] at h
          exact absurd (congrArg List.head? h).symm (hnone _ _)
      | some j =>
          rw [toList_parameters_some hargs'] at h
          simp only [List.append_assoc, List.cons_append] at h
          obtain ⟨-, hname⟩ :=
            Text.option_append_inj ⟨'?', rfl, by decide⟩ (List.append_cancel_left h)
          obtain ⟨hij, hrest⟩ := Text.word_append_inj (hc i hargs) (hc' j hargs') (hends _ _)
            (hends _ _) (List.cons.inj hname).2
          have hmultiline := Text.option_append_inj ⟨',', rfl, by decide⟩ hrest
          exact ⟨.some (Text.toList_inj.1 hij), hmultiline⟩

end CommandOf

/-! ## The text of members -/

def Node.docstring : Node → Option Text
  | member m => m.docstring
  | command c => c.docstring
  | tree _ _ _ => none

namespace Render

/-- A body in braces, which are at the given depth. -/
def braces (depth : Nat) (separator : Text) : List Node → List CodePoint
  | [] => ['\x7b', '\x7d']
  | n :: ns => .char '\x7b' :: .char '\n' ::
      (feed (indent (depth + 1) (bodyLines separator (n :: ns))) ++
      (List.replicate (2 * depth) (.char ' ') ++ [.char '\x7d']))

/-- What is written after the name of a member. -/
def afterName (depth : Nat) (separator : Text) : Node → List CodePoint
  | .member m => (if !m.required then [.char '?'] else []) ++
      .char ':' :: .char ' ' :: (m.type.render.toList ++ (separator.toList ++ [.char '\n']))
  | .command c => .char '<' :: .char 'R' :: .char '=' :: (c.returnType.toList ++
      .char '>' :: .char '(' :: ((joinPieces c.parameters).toList ++
        .char ')' :: (Text.toList ": Promise<R>" ++ (separator.toList ++ [.char '\n']))))
  | .tree _ _ ns =>
      .char ':' :: .char ' ' :: (braces depth "," ns ++ (separator.toList ++ [.char '\n']))

variable {separator : Text} {depth : Nat}

theorem feed_documented (depth : Nat) (doc : Option Text) {l : Text} (separator : Text)
    (hl : l ≠ "") :
    feed (indent depth (closeWith separator (comment doc ++ [l]))) =
      feed (indent depth (comment doc)) ++ (List.replicate (2 * depth) (.char ' ') ++
        (l.toList ++ (separator.toList ++ [.char '\n']))) := by
  have hclosed : l ++ separator ≠ "" := by simp [hl]
  rw [closeWith_append _ _ (by simp), indent_append, feed_append]
  simp [indent, toList_indentLine depth hclosed]

theorem feed_block (depth : Nat) (separator header : Text) (body : List Text) :
    feed (indent depth (closeWith separator (block header body))) =
      List.replicate (2 * depth) (.char ' ') ++ (header.toList ++
        .char ' ' :: .char '\x7b' :: .char '\n' ::
        (feed (indent (depth + 1) body) ++ (List.replicate (2 * depth) (.char ' ') ++
          .char '\x7d' :: (separator.toList ++ [.char '\n'])))) := by
  rw [indent_block, feed_append, feed_append]
  simp [toList_indentLine]

theorem toList_member (m : Member) : m.signature.toList = (Text.quoteName m.name).toList ++
    ((if !m.required then [.char '?'] else []) ++
      .char ':' :: .char ' ' :: m.type.render.toList) := by
  cases h : m.required <;> simp [Member.signature, Variable.render, h]

theorem toList_command (c : Command) : c.signature.toList = (Text.quoteName c.name).toList ++
    .char '<' :: .char 'R' :: .char '=' :: (c.returnType.toList ++ .char '>' :: .char '(' ::
      ((joinPieces c.parameters).toList ++ .char ')' :: Text.toList ": Promise<R>")) := by
  simp [CommandOf.signature, callable]

theorem feed_node (depth : Nat) (separator : Text) (n : Node) :
    feed (indent depth (closeWith separator (nodeLines n))) =
      feed (indent depth (comment n.docstring)) ++ (List.replicate (2 * depth) (.char ' ') ++
        ((Text.quoteName n.name).toList ++ afterName depth separator n)) := by
  cases n with
  | member m =>
      have hne : m.signature ≠ "" := by
        rw [ne_eq, ← Text.toList_inj, toList_member]
        simp
      rw [nodeLines, Member.lines, feed_documented depth _ separator hne, toList_member]
      simp [afterName, Node.docstring]
  | command c =>
      have hne : c.signature ≠ "" := by
        rw [ne_eq, ← Text.toList_inj, toList_command]
        simp
      rw [nodeLines, CommandOf.lines, feed_documented depth _ separator hne, toList_command]
      simp [afterName, Node.docstring]
  | tree kind name ns =>
      cases ns with
      | nil =>
          have hline := feed_documented depth none (l := Text.quoteName name ++ ": \x7b\x7d")
            separator (by simp)
          rw [nodeLines]
          simpa [afterName, braces, Node.docstring] using hline
      | cons n ns =>
          rw [nodeLines, feed_block]
          simp [afterName, braces, Node.docstring, indent]

theorem feed_interface (name : Text) (bases : List Text) (ns : List Node) :
    feed (interfaceLines name bases ns) =
      (interfaceHeader name bases).toList ++ .char ' ' :: (braces 0 ";" ns ++ [.char '\n']) := by
  cases ns with
  | nil => simp [interfaceLines, braces]
  | cons n ns =>
      have hblock := feed_block 0 "" (interfaceHeader name bases) (bodyLines ";" (n :: ns))
      have hlines : interfaceLines name bases (n :: ns) =
          block (interfaceHeader name bases) (bodyLines ";" (n :: ns)) := rfl
      rw [closeWith_empty, indent_zero] at hblock
      rw [hlines, hblock]
      simp [braces]

/-! ## Members -/

/-- No name starts with a slash, so none is taken for a comment. -/
theorem head?_quoteName (name : Text) (t : List CodePoint) :
    ((Text.quoteName name).toList ++ t).head? ≠ some (.char '/') := by
  unfold Text.quoteName
  split
  · rename_i h
    obtain ⟨w, hw, hname⟩ := Text.exists_word_of_isIdentifier h
    obtain ⟨c, u, rfl, hc⟩ := Text.exists_cons_of_isWord hw
    have hslash : c ≠ '/' := by
      rintro rfl
      exact absurd hc (by decide)
    rcases hname with hname | hname <;> simpa [hname] using hslash
  · simp [Text.doubleQuoted]

theorem ends_afterName (depth : Nat) (separator : Text) (n : Node) (t : List CodePoint) :
    Text.Ends Text.isNamePart (afterName depth separator n ++ t) := by
  cases n with
  | member m =>
      cases h : m.required <;> rw [afterName, h] <;> exact .cons (by decide) _
  | command c => exact .cons (by decide) _
  | tree kind name ns => exact .cons (by decide) _

/-- The separators of members go on no type. -/
def IsSeparator (separator : Text) : Prop := separator = "," ∨ separator = ";"

theorem IsSeparator.exists_toList (h : IsSeparator separator) :
    ∃ stop, separator.toList = [stop] ∧ (stop = ',' ∨ stop = ';') := by
  rcases h with rfl | rfl
  · exact ⟨',', rfl, .inl rfl⟩
  · exact ⟨';', rfl, .inr rfl⟩

/-- What is written after the name of `n` is written for no member that is not like `n`. -/
def IsRead (n : Node) : Prop :=
  ∀ {m : Node} {separator : Text} {depth : Nat} {r s : List CodePoint}, IsSeparator separator →
    n.Legible → m.Legible → n.name.utf16 = m.name.utf16 →
      n.docstring.map commentBlock = m.docstring.map commentBlock →
        afterName depth separator n ++ r = afterName depth separator m ++ s →
          n.Alike InterfaceOf.SameName m ∧ r = s

theorem docstring_ne_empty {n : Node} (h : n.Legible) : n.docstring ≠ some ("" : Text) := by
  cases h with
  | member _ hdoc => exact hdoc
  | command _ _ hdoc => exact hdoc
  | tree => simp [Node.docstring]

/-- The lines of a member are indented, be it a comment or a name that comes first. -/
theorem exists_feed_node (depth : Nat) (separator : Text) (n : Node) :
    ∃ t, feed (indent depth (closeWith separator (nodeLines n))) =
      List.replicate (2 * depth) (.char ' ') ++ t := by
  rw [feed_node]
  unfold comment
  split
  · exact ⟨_, rfl⟩
  split
  · exact ⟨_, rfl⟩
  · obtain ⟨t, ht⟩ := exists_feed_commentBlock depth _
    exact ⟨_, by rw [ht, List.append_assoc]⟩

/-- Before the closing brace there are fewer blanks than before a member. -/
theorem body_append_ne {n : Node} {ns : List Node} :
    List.replicate (2 * depth) (CodePoint.char ' ') ++ .char '\x7d' :: r ≠
      feed (indent (depth + 1) (bodyLines separator (n :: ns))) ++ s := by
  obtain ⟨t, ht⟩ := exists_feed_node (depth + 1) separator n
  have hblanks : List.replicate (2 * (depth + 1)) (CodePoint.char ' ') =
      List.replicate (2 * depth) (.char ' ') ++ [.char ' ', .char ' '] :=
    List.replicate_append_replicate.symm
  rw [bodyLines, indent_append, feed_append, ht, hblanks]
  intro h
  simp only [List.append_assoc] at h
  exact absurd (List.cons.inj (List.append_cancel_left h)).1 (by decide)

theorem body_append_inj {ns ms : List Node} (hsep : IsSeparator separator)
    (hread : ∀ n ∈ ns, IsRead n) (hns : ∀ n ∈ ns, n.Legible) (hms : ∀ m ∈ ms, m.Legible)
    (h : feed (indent (depth + 1) (bodyLines separator ns)) ++
        (List.replicate (2 * depth) (.char ' ') ++ .char '\x7d' :: r) =
      feed (indent (depth + 1) (bodyLines separator ms)) ++
        (List.replicate (2 * depth) (.char ' ') ++ .char '\x7d' :: s)) :
    List.Forall₂ (Node.Alike InterfaceOf.SameName) ns ms ∧ r = s := by
  induction ns generalizing ms with
  | nil =>
      cases ms with
      | nil => exact ⟨.nil, (List.cons.inj (List.append_cancel_left h)).2⟩
      | cons m ms => exact absurd h body_append_ne
  | cons n ns ih =>
      cases ms with
      | nil => exact absurd h.symm body_append_ne
      | cons m ms =>
          obtain ⟨hread, hreads⟩ := List.forall_mem_cons.1 hread
          obtain ⟨hn, hns⟩ := List.forall_mem_cons.1 hns
          obtain ⟨hm, hms⟩ := List.forall_mem_cons.1 hms
          simp only [bodyLines, indent_append, feed_append, feed_node, List.append_assoc] at h
          obtain ⟨hdoc, h⟩ := comment_append_inj (depth + 1) (docstring_ne_empty hn)
            (docstring_ne_empty hm) (head?_quoteName _ _) (head?_quoteName _ _) h
          obtain ⟨hname, h⟩ := Text.quoteName_append_inj (ends_afterName _ _ _ _)
            (ends_afterName _ _ _ _) h
          obtain ⟨hnm, h⟩ := hread hsep hn hm hname hdoc h
          obtain ⟨hrest, hrs⟩ := ih hreads hns hms h
          exact ⟨.cons hnm hrest, hrs⟩

theorem braces_append_inj {ns ms : List Node} (hsep : IsSeparator separator)
    (hread : ∀ n ∈ ns, IsRead n) (hns : ∀ n ∈ ns, n.Legible) (hms : ∀ m ∈ ms, m.Legible)
    (h : braces depth separator ns ++ r = braces depth separator ms ++ s) :
    List.Forall₂ (Node.Alike InterfaceOf.SameName) ns ms ∧ r = s := by
  have hfeed (c : CodePoint) (hc : c = '\x7d') (t u : List CodePoint) :
      c :: t ≠ .char '\n' :: u := by
    rintro heq
    simp [hc] at heq
  cases ns with
  | nil =>
      cases ms with
      | nil => exact ⟨.nil, List.append_cancel_left h⟩
      | cons m ms => exact absurd (List.cons.inj h).2 (hfeed _ rfl _ _)
  | cons n ns =>
      cases ms with
      | nil => exact absurd (List.cons.inj h).2.symm (hfeed _ rfl _ _)
      | cons m ms =>
          simp only [braces, List.cons_append, List.append_assoc, List.cons.injEq, true_and,
            List.nil_append] at h
          exact body_append_inj hsep hread hns hms h

/-! ## What comes after a name tells the form of the member -/

theorem afterName_member_ne_command (p : Member) (c : Command) {i j : Nat} :
    afterName i separator (.member p) ++ r ≠ afterName j separator (.command c) ++ s := by
  intro h
  cases hp : p.required <;> rw [afterName, hp] at h <;>
    exact absurd (List.cons.inj h).1 (by decide)

theorem afterName_member_ne_tree {p : Member} (hp : (Node.member p).Legible) (kind : TreeKind)
    (name : Text) (ns : List Node) {i j : Nat} :
    afterName i separator (.member p) ++ r ≠ afterName j separator (.tree kind name ns) ++ s := by
  intro h
  cases hp with
  | member htype _ =>
      rw [afterName, afterName] at h
      cases hp : p.required <;> rw [hp] at h
      · exact absurd (List.cons.inj h).1 (by decide)
      · have hbrace (t : List CodePoint) : (braces j "," ns ++ t).head? = some (.char '\x7b') := by
          cases ns <;> rfl
        have hhead := congrArg List.head? (List.cons.inj (List.cons.inj h).2).2
        simp only [List.append_eq, List.append_assoc, hbrace] at hhead
        exact TypeExpr.head?_render htype _ hhead

theorem afterName_command_ne_tree (c : Command) (kind : TreeKind) (name : Text)
    (ns : List Node) {i j : Nat} :
    afterName i separator (.command c) ++ r ≠ afterName j separator (.tree kind name ns) ++ s :=
  fun h => absurd (List.cons.inj h).1 (by decide)

theorem isRead_member (p : Member) : IsRead (.member p) := by
  intro m separator depth r s hsep hn hm hname hdoc h
  obtain ⟨stop, hstop, hstops⟩ := hsep.exists_toList
  cases m with
  | member q =>
      cases hn with
      | member htype _ =>
          cases hm with
          | member htype' _ =>
              simp only [afterName, hstop, List.append_assoc, List.cons_append,
                List.nil_append] at h
              obtain ⟨hmark, h⟩ := Text.option_append_inj ⟨'?', rfl, by decide⟩ h
              obtain ⟨htypes, h⟩ := TypeExpr.render_append_inj htype htype' hstops
                (List.cons.inj h).2
              have hrequired : p.required = q.required := by simpa using hmark
              exact ⟨.member hname htypes hrequired hdoc, (List.cons.inj h).2⟩
  | command c => exact absurd h (afterName_member_ne_command p c)
  | tree kind name ns => exact absurd h (afterName_member_ne_tree hn kind name ns)

theorem isRead_command (c : Command) : IsRead (.command c) := by
  intro m separator depth r s hsep hn hm hname hdoc h
  cases m with
  | member p => exact absurd h.symm (afterName_member_ne_command p c)
  | command c' =>
      have hwords {c : Command} (hc : ∀ i ∈ c.args, i.Legible) :
          ∀ i ∈ c.args, Text.isWord i.name.toList = true := by
        intro i hi
        cases hc i hi with
        | mk hname _ _ => exact hname
      cases hn with
      | command hreturn hargs _ =>
          cases hm with
          | command hreturn' hargs' _ =>
              simp only [afterName, List.append_assoc, List.cons_append, List.cons.injEq,
                true_and] at h
              obtain ⟨hreturns, h⟩ := Text.word_append_inj hreturn hreturn' (.cons (by decide) _)
                (.cons (by decide) _) h
              obtain ⟨hargs, hmultiline, h⟩ := CommandOf.parameters_append_inj (hwords hargs)
                (hwords hargs') (List.cons.inj (List.cons.inj h).2).2
              have hrest := List.append_cancel_left (List.append_cancel_left h)
              exact ⟨.command hname hargs (Text.toList_inj.1 hreturns) hdoc hmultiline,
                (List.cons.inj hrest).2⟩
  | tree kind name ns => exact absurd h (afterName_command_ne_tree c kind name ns)

theorem isRead_tree {kind : TreeKind} {name : Text} {ns : List Node}
    (hread : ∀ n ∈ ns, IsRead n) : IsRead (.tree kind name ns) := by
  intro m separator depth r s hsep hn hm hname hdoc h
  cases m with
  | member p => exact absurd h.symm (afterName_member_ne_tree hm kind name ns)
  | command c => exact absurd h.symm (afterName_command_ne_tree c kind name ns)
  | tree kind' name' ms =>
      cases hn with
      | tree _ _ hns =>
          cases hm with
          | tree _ _ hms =>
              simp only [afterName, List.append_assoc, List.cons_append, List.cons.injEq,
                true_and] at h
              obtain ⟨halike, h⟩ := braces_append_inj (.inl rfl) hread hns hms h
              have hrest := List.append_cancel_left h
              exact ⟨.tree kind kind' hname halike, (List.cons.inj hrest).2⟩

theorem isRead (n : Node) : IsRead n := by
  induction n using Node.treeInduction with
  | member p => exact isRead_member p
  | command c => exact isRead_command c
  | tree kind name ns ih => exact isRead_tree ih

end Render

end DeviceTypings
