import DeviceTypings.Text.Basic

namespace DeviceTypings.Text

/-!
# Identifiers

An identifier is made of ASCII letters, digits, `_` and `$`, and its first
character is no digit.
-/

def isIdentifierPart (c : CodePoint) : Bool := c.isAlphanum || c == '_' || c == '$'

def isIdentifierStart (c : CodePoint) : Bool := c.isAlpha || c == '_' || c == '$'

/-- Characters that spell an identifier from first to last. -/
def isWord : List CodePoint → Bool
  | [] => false
  | c :: r => isIdentifierStart c && r.all isIdentifierPart

/-- Removes one line feed at the very end. -/
def dropFinalFeed : List CodePoint → List CodePoint
  | [] => []
  | [.char '\n'] => []
  | c :: r => c :: dropFinalFeed r

/-- Whether a name may stand bare as a property key. One line feed after the
last character is allowed. -/
def isIdentifier (name : Text) : Bool := isWord (dropFinalFeed name.toList)

/-- Keeps only the characters of identifiers. -/
def sanitize (name : Text) : Text := Text.ofList (name.toList.filter isIdentifierPart)

theorem isIdentifierPart_of_start {c : CodePoint} (h : isIdentifierStart c = true) :
    isIdentifierPart c = true := by
  simp only [isIdentifierStart, isIdentifierPart, CodePoint.isAlphanum, Bool.or_eq_true] at *
  rcases h with (h | h) | h <;> simp [h]

theorem mem_sanitize {name : Text} {c : CodePoint} :
    c ∈ (sanitize name).toList ↔ c ∈ name.toList ∧ isIdentifierPart c = true := by
  simp [sanitize]

end DeviceTypings.Text
