import DeviceTypings.Proofs.Render.Reading
import DeviceTypings.Proofs.Text.Key

namespace DeviceTypings

/-!
# The keys of members

A field, a command and a tree each stand under a key that is written for their name. Members
with different names have different keys, except that a line feed after a word gets lost, and that
two surrogates are written like the character that they spell.
-/

namespace Node

/-- The line of a member that comes after its comment. -/
def keyLine (n : Node) : Text :=
  (Render.nodeLines n).getD (Render.comment n.docstring).length ""

/-- The name that the key of a member denotes. -/
def key? (n : Node) : Option Text := (Text.readKey? n.keyLine.toList).map Prod.fst

@[simp] theorem keyLine_member (m : Member) : (member m).keyLine = m.signature := by
  simp [keyLine, Render.nodeLines, Member.lines, docstring]

@[simp] theorem keyLine_command (c : Command) : (command c).keyLine = c.signature := by
  simp [keyLine, Render.nodeLines, CommandOf.lines, docstring]

theorem exists_keyLine (n : Node) :
    ∃ t, n.keyLine.toList = (Text.quoteName n.name).toList ++ t ∧ Text.Ends Text.isNamePart t := by
  cases n with
  | member m =>
      rw [keyLine_member, Render.toList_member]
      refine ⟨_, rfl, ?_⟩
      cases m.required <;> exact .cons (by decide) _
  | command c =>
      rw [keyLine_command, Render.toList_command]
      exact ⟨_, rfl, .cons (by decide) _⟩
  | tree kind name ns =>
      cases ns with
      | nil =>
          refine ⟨Text.toList ": \x7b\x7d", ?_, .cons (by decide) _⟩
          simp [keyLine, Render.nodeLines, docstring]
      | cons n ns =>
          refine ⟨Text.toList ": \x7b", ?_, .cons (by decide) _⟩
          simp [keyLine, Render.nodeLines, Render.block, docstring]

theorem key?_eq (n : Node) : n.key? = some (Text.denoted n.name) := by
  obtain ⟨t, ht, hends⟩ := n.exists_keyLine
  rw [key?, ht, Text.readKey?_quoteName n.name hends]

end Node

/-- A name is written as a single key that denotes it, a bare word or printable ASCII in double
quotes, unless it is a word with a line feed after it or has a high surrogate right before a low
one. The keys of two members denote the same name only if the members have the same name, up to
such a line feed and to such surrogates. -/
theorem Text.quoteName_denotes (name : Text) (n m : Node) :
    (IsBareKey (quoteName name) name ∨ IsQuotedKey (quoteName name) name ↔
        (∀ word, ¬ IsFed name word) ∧ name.IsJoined) ∧
      (n.key? = m.key? ↔
        n.name.utf16 = m.name.utf16 ∨ IsFed n.name m.name ∨ IsFed m.name n.name) := by
  refine ⟨isKey_quoteName_iff name, ?_⟩
  rw [n.key?_eq, m.key?_eq, Option.some.injEq]
  exact denoted_eq_iff n.name m.name

/-- A word with a line feed after it is written bare, and has the key of the word. -/
theorem Text.not_denotes_fed :
    ¬ (IsBareKey (quoteName "a\n") "a\n" ∨ IsQuotedKey (quoteName "a\n") "a\n") ∧
      ∃ n m : Node, n.key? = m.key? ∧ n.name ≠ m.name := by
  have hfed : IsFed "a\n" "a" := by
    constructor <;> decide
  refine ⟨fun hkey => ((isKey_quoteName_iff _).1 hkey).1 _ hfed, ?_⟩
  refine ⟨.tree .object "a\n" [], .tree .object "a" [], ?_, by decide⟩
  rw [Node.key?_eq, Node.key?_eq]
  exact congrArg some ((denoted_eq_iff _ _).2 (.inr (.inl hfed)))

end DeviceTypings
