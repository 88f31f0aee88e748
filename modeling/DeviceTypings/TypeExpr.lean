import DeviceTypings.Text.Quoted

namespace DeviceTypings

/-!
# Type expressions

The types that a generated declaration mentions: names, unions of string
constants, arrays, and an alias applied to an interface.
-/

inductive TypeExpr
  /-- A primitive or declared type. -/
  | plain (name : Text)
  /-- A union of string constants, of which there is at least one. -/
  | literal (value : Text) (others : List Text)
  | list (element : TypeExpr)
  /-- A generic alias with an interface as its argument. -/
  | generic (wrapper interface : Text)
deriving DecidableEq

namespace TypeExpr

/-- The union of the given constants, if there are any. -/
def literalOf? : List Text → Option TypeExpr
  | [] => none
  | v :: vs => some (literal v vs)

/-- The constants of a union. -/
def values : TypeExpr → List Text
  | literal v vs => v :: vs
  | _ => []

/-- An array of a union puts the union in parentheses, since `[]` binds closer
than the bar. -/
def render : TypeExpr → Text
  | plain name => name
  | literal v vs => Text.intercalate " | " ((v :: vs).map Text.quoteLiteral)
  | list (literal v vs) => "(" ++ (literal v vs).render ++ ")[]"
  | list element => element.render ++ "[]"
  | generic wrapper interface => wrapper ++ "<" ++ interface ++ ">"

theorem literalOf?_eq_none {vs : List Text} : literalOf? vs = none ↔ vs = [] := by
  cases vs <;> simp [literalOf?]

end TypeExpr

end DeviceTypings
