import DeviceTypings.Proofs.Render.Reading

namespace DeviceTypings

/-!
# Types told apart

The last character of a type tells a name, a union, an array and an applied alias from each
other, and the one before the brackets of an array tells whether its elements are a union. So a
type is known by its text, however deep arrays nest and whatever the constants of unions hold.
-/

namespace Text

/-- A text with no characters but those that identifiers have. It may be empty. -/
def IsTypeName (s : Text) : Prop := s.toList.all isIdentifierPart = true

instance (s : Text) : Decidable (IsTypeName s) := inferInstanceAs (Decidable (_ = true))

/-- The last character of a text, unless identifiers have it. -/
def lastMark (cs : List CodePoint) : Option CodePoint := cs.getLast?.filter (!isIdentifierPart ·)

theorem lastMark_concat {c : CodePoint} (h : isIdentifierPart c = false) (cs : List CodePoint) :
    lastMark (cs ++ [c]) = some c := by
  simp [lastMark, h]

theorem lastMark_of_all {cs : List CodePoint} (h : cs.all isIdentifierPart = true) :
    lastMark cs = none := by
  rw [lastMark, Option.filter_eq_none_iff]
  intro c hc
  simp [List.all_eq_true.1 h c (List.mem_of_getLast? hc)]

theorem head?_append_ne {c : CodePoint} {cs : List CodePoint} (h : cs.head? ≠ some c)
    (d : CodePoint)
    (hd : d ≠ c) (r : List CodePoint) : (cs ++ d :: r).head? ≠ some c := by
  cases cs with
  | nil => simpa using hd
  | cons b cs => simpa using h

theorem head?_ne_quote_of_isTypeName {s : Text} (h : IsTypeName s) :
    s.toList.head? ≠ some (.char '\'') := by
  intro hquote
  have hpart := List.all_eq_true.1 h '\'' (List.mem_of_head? hquote)
  exact absurd hpart (by decide)

end Text

namespace TypeExpr

open Text (IsTypeName lastMark)

variable {t u : TypeExpr}

/-- The names in a type are such as types have. -/
def IsNamed : TypeExpr → Prop
  | plain name => IsTypeName name
  | literal _ _ => True
  | list element => element.IsNamed
  | generic wrapper interface => IsTypeName wrapper ∧ IsTypeName interface

/-! ## The ends of types -/

/-- The last character of a type, unless it is that of a name. -/
def finalMark : TypeExpr → Option CodePoint
  | plain _ => none
  | literal _ _ => some '\''
  | list _ => some ']'
  | generic _ _ => some '>'

/-- What stands before the brackets of an array. -/
def elementText : TypeExpr → Text
  | literal v vs => "(" ++ (literal v vs).render ++ ")"
  | t => t.render

theorem render_list (t : TypeExpr) : (list t).render = t.elementText ++ "[]" := by
  cases t with
  | literal v vs =>
      rw [← Text.toList_inj, toList_render_literals]
      simp [elementText]
  | _ => rfl

theorem exists_render_literal (v : Text) (vs : List Text) :
    ∃ cs, (literal v vs).render.toList = cs ++ [.char '\''] := by
  have hquoted (w : Text) : ∃ cs, (Text.quoteLiteral w).toList = cs ++ [.char '\''] :=
    ⟨.char '\'' :: w.toList.flatMap Text.escapeLiteral, by simp [Text.quoteLiteral]⟩
  rw [toList_render_literal]
  obtain rfl | ⟨ws, w, rfl⟩ := vs.eq_nil_or_concat
  · obtain ⟨cs, hcs⟩ := hquoted v
    exact ⟨cs, by simp [hcs]⟩
  · obtain ⟨cs, hcs⟩ := hquoted w
    have hlast : .char ' ' :: .char '|' :: .char ' ' :: (cs ++ [.char '\'']) =
        (.char ' ' :: .char '|' :: .char ' ' :: cs) ++ [.char '\''] := rfl
    rw [List.concat_eq_append, List.flatMap_append, List.flatMap_singleton, hcs, hlast,
      ← List.append_assoc,
      ← List.append_assoc]
    exact ⟨_, rfl⟩

theorem lastMark_render (h : t.IsNamed) : lastMark t.render.toList = t.finalMark := by
  cases t with
  | plain name => exact Text.lastMark_of_all h
  | literal v vs =>
      obtain ⟨cs, hcs⟩ := exists_render_literal v vs
      rw [hcs]
      exact Text.lastMark_concat (by decide) cs
  | list t =>
      have hbrackets : (t.elementText ++ "[]").toList =
          t.elementText.toList ++ [.char '['] ++ [.char ']'] := by
        simp
      rw [render_list, hbrackets]
      exact Text.lastMark_concat (by decide) _
  | generic wrapper interface =>
      have happlied : (generic wrapper interface).render.toList =
          wrapper.toList ++ .char '<' :: interface.toList ++ [.char '>'] := by
        simp [toList_render_generic]
      rw [happlied]
      exact Text.lastMark_concat (by decide) _

theorem lastMark_elementText_literal (v : Text) (vs : List Text) :
    lastMark (literal v vs).elementText.toList = some (.char ')') := by
  have hparentheses : (literal v vs).elementText.toList =
      .char '(' :: (literal v vs).render.toList ++ [.char ')'] := by
    simp [elementText]
  rw [hparentheses]
  exact Text.lastMark_concat (by decide) _

/-- The elements of an array are a union in parentheses, or written as they are on their own. No
type ends with a parenthesis on its own. -/
theorem elementText_cases (h : t.IsNamed) :
    (∃ v vs, t = literal v vs) ∨
      t.elementText = t.render ∧ lastMark t.elementText.toList ≠ some (.char ')') := by
  have hmark := lastMark_render h
  cases t with
  | literal v vs => exact .inl ⟨v, vs, rfl⟩
  | _ =>
      refine .inr ⟨rfl, ?_⟩
      rw [elementText.eq_def]
      simp [hmark, finalMark]

theorem render_eq_of_elementText_eq (ht : t.IsNamed) (hu : u.IsNamed)
    (h : t.elementText = u.elementText) : t.render = u.render := by
  rcases elementText_cases ht with ⟨v, vs, rfl⟩ | ⟨htext, hmark⟩ <;>
    rcases elementText_cases hu with ⟨w, ws, rfl⟩ | ⟨htext', hmark'⟩
  · simpa [elementText, ← Text.toList_inj] using h
  · exact absurd (h ▸ lastMark_elementText_literal v vs) hmark'
  · exact absurd (h ▸ lastMark_elementText_literal w ws) hmark
  · rw [← htext, ← htext', h]

/-! ## Types and their texts -/

theorem finalMark_eq_of_render_eq (ht : t.IsNamed) (hu : u.IsNamed) (h : t.render = u.render) :
    t.finalMark = u.finalMark := by
  rw [← lastMark_render ht, ← lastMark_render hu, h]

theorem render_eq_of_render_list_eq (ht : t.IsNamed) (hu : u.IsNamed)
    (h : (list t).render = (list u).render) : t.render = u.render := by
  rw [render_list, render_list] at h
  exact render_eq_of_elementText_eq ht hu (Text.append_left_inj _ |>.1 h)

/-- Types with the same last character are made in the same way. -/
theorem eq_of_render_eq (ht : t.IsNamed) (hu : u.IsNamed) (h : t.render = u.render) : t = u := by
  have hmark := finalMark_eq_of_render_eq ht hu h
  induction t generalizing u with
  | plain name =>
      cases u with
      | plain name' => exact congrArg plain h
      | _ => simp [finalMark] at hmark
  | literal v vs =>
      cases u with
      | literal w ws =>
          have htext := congrArg (Text.toList · ++ []) h
          obtain ⟨⟨rfl, rfl⟩, -⟩ := literal_append_inj (by simp) (by simp) htext
          rfl
      | _ => simp [finalMark] at hmark
  | list t ih =>
      cases u with
      | list u =>
          have hrender := render_eq_of_render_list_eq (t := t) (u := u) ht hu h
          have hmark' := finalMark_eq_of_render_eq (t := t) (u := u) ht hu hrender
          exact congrArg list (ih ht hu hrender hmark')
      | _ => simp [finalMark] at hmark
  | generic wrapper interface =>
      cases u with
      | generic wrapper' interface' =>
          have htext := congrArg Text.toList h
          rw [toList_render_generic, toList_render_generic] at htext
          obtain ⟨hwrapper, hrest⟩ := Text.append_inj_of_ends ht.1 hu.1
            (.cons (by decide) _) (.cons (by decide) _) htext
          have hinterface := List.append_cancel_right (List.cons.inj hrest).2
          rw [Text.toList_inj.1 hwrapper, Text.toList_inj.1 hinterface]
      | _ => simp [finalMark] at hmark

/-! ## Arrays and unions -/

/-- No array starts with a constant: a union is in parentheses, at whatever depth it is. -/
theorem head?_elementText (h : t.IsNamed) : t.elementText.toList.head? ≠ some (.char '\'') := by
  induction t with
  | plain name => exact Text.head?_ne_quote_of_isTypeName h
  | literal v vs => simp [elementText]
  | list t ih =>
      have htext : (list t).elementText = t.elementText ++ "[]" := render_list t
      rw [htext, Text.toList_append]
      exact Text.head?_append_ne (ih h) '[' (by decide) _
  | generic wrapper interface =>
      have htext : (generic wrapper interface).elementText.toList =
          wrapper.toList ++ .char '<' :: (interface.toList ++ [.char '>']) :=
        toList_render_generic _ _
      rw [htext]
      exact Text.head?_append_ne (Text.head?_ne_quote_of_isTypeName h.1) '<' (by decide) _

theorem eq_list_of_finalMark (h : t.finalMark = some (.char ']')) : ∃ e, t = list e := by
  cases t with
  | list e => exact ⟨e, rfl⟩
  | _ => simp [finalMark] at h

/-- No type is written as a union whose text goes on and ends with the brackets of an array. -/
theorem render_ne_union_array (ht : t.IsNamed) (v : Text) (vs : List Text) (r : Text) :
    t.render ≠ (literal v vs).render ++ r ++ "[]" := by
  intro h
  have hlast : lastMark t.render.toList = some (.char ']') := by
    have hbrackets : t.render.toList =
        (literal v vs).render.toList ++ r.toList ++ [.char '['] ++ [.char ']'] := by
      simp [h]
    rw [hbrackets]
    exact Text.lastMark_concat (by decide) _
  rw [lastMark_render ht] at hlast
  obtain ⟨e, rfl⟩ := eq_list_of_finalMark hlast
  rw [render_list] at h
  have hhead := head?_elementText (t := e) ht
  rw [Text.append_left_inj _ |>.1 h, Text.toList_append, toList_render_literal] at hhead
  simp [Text.quoteLiteral] at hhead

/-- Types are told apart by their texts. What is written for an array of a union, or for any
type, is never a union with an array as its last alternative. -/
theorem render_eq_iff (ht : t.IsNamed) (hu : u.IsNamed) :
    (t.render = u.render ↔ t = u) ∧
      ∀ v vs r, t.render ≠ (literal v vs).render ++ r ++ "[]" :=
  ⟨⟨eq_of_render_eq ht hu, congrArg render⟩, render_ne_union_array ht⟩

/-- Arrays and constants may look alike in their texts, and still are told apart. -/
theorem render_eq_iff_alike :
    (list (list (literal "A" ["B[]"]))).render ≠ (list (generic "A" "B")).render ∧
      (list (list (literal "A" ["B[]"]))).render ≠ (literal "A" []).render ++ " | 'B" ++ "[]" := by
  have hname : (generic "A" "B").IsNamed := ⟨by decide +kernel, by decide +kernel⟩
  have h := render_eq_iff (t := list (list (literal "A" ["B[]"]))) (u := list (generic "A" "B"))
    trivial hname
  exact ⟨fun heq => by simpa using h.1.1 heq, h.2 "A" [] " | 'B"⟩

end TypeExpr

end DeviceTypings
