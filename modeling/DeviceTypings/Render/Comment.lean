import DeviceTypings.Text.Blank

namespace DeviceTypings.Render

/-!
# Comment blocks

A docstring becomes a block comment, one line of it for each line of the
text. The text cannot end the comment, since a slash after a star is escaped.
-/

/-- Puts a backslash between a star and the slash after it. -/
def escapeClose : List CodePoint → List CodePoint
  | [] => []
  | .char '*' :: .char '/' :: r => '*' :: '\\' :: '/' :: escapeClose r
  | c :: r => c :: escapeClose r

def commentLine (line : List CodePoint) : Text :=
  match escapeClose (Text.trimEnd line) with
  | [] => " *"
  | text => " * " ++ Text.ofList text

def commentBlock (docstring : Text) : List Text :=
  "/**" :: ((Text.lines (Text.trim docstring.toList)).map commentLine ++ [(" */" : Text)])

/-- An absent or empty docstring has no comment. -/
def comment : Option Text → List Text
  | none => []
  | some docstring => if docstring = "" then [] else commentBlock docstring

@[simp] theorem comment_none : comment none = [] := rfl

end DeviceTypings.Render
