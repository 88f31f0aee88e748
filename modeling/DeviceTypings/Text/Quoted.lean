import DeviceTypings.Text.Escape
import DeviceTypings.Text.Identifier

namespace DeviceTypings.Text

/-!
# Quoted names and literals

A property key stands bare if it is an identifier and in double quotes
otherwise. A string constant stands in single quotes, where both kinds of
quote are escaped.
-/

/-- Text in double quotes, ASCII only. -/
def doubleQuoted (s : Text) : Text :=
  Text.ofList ('"' :: (s.toList.flatMap escapeAscii ++ [.char '"']))

/-- The key that denotes a name. -/
def quoteName (name : Text) : Text :=
  if isIdentifier name then name else doubleQuoted name

def escapeLiteral (c : CodePoint) : List CodePoint :=
  if c = '\'' then ['\\', '\''] else escapeShort c

/-- The constant type whose only value is `s`. -/
def quoteLiteral (s : Text) : Text :=
  Text.ofList ('\'' :: (s.toList.flatMap escapeLiteral ++ [.char '\'']))

end DeviceTypings.Text
