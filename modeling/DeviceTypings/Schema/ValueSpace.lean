import DeviceTypings.Fault
import DeviceTypings.Schema.Attribute
import DeviceTypings.TypeExpr

namespace DeviceTypings.Schema

/-!
# Value spaces

The descriptor of a leaf names one of six types. A literal type also lists its
constants, and must list at least one.
-/

/-- The types that need no constants. -/
def typeTable : List (Text × TypeExpr) :=
  [("Integer", .plain "number"), ("String", .plain "string"),
   ("IntegerArray", .list (.plain "number")), ("StringArray", .list (.plain "string"))]

def simpleType? (name : Text) : Option TypeExpr := typeTable.lookup name

/-- What a literal type makes of the union of its constants. -/
def literalType? (name : Text) : Option (TypeExpr → TypeExpr) :=
  if name = "Literal" then some id else if name = "LiteralArray" then some .list else none

/-- The listed constants, if there are any. -/
def constants? (v : Value) : Option (Value × List Value) :=
  match v.bare with
  | .list (v :: vs) => some (v, vs)
  | _ => none

/-- The union of constants, each by its text. -/
def union (v : Value) (vs : List Value) : Except Fault TypeExpr := do
  let text ← Fault.textOf v
  let texts ← vs.mapM Fault.textOf
  return .literal text texts

/-- The type with a given name, in a descriptor with the entries `es` at
`path`. -/
def namedType (path : List Text) (es : Entries) (name : Text) : Except Fault TypeExpr :=
  match simpleType? name with
  | some t => .ok t
  | none =>
      match literalType? name with
      | none => .error (.malformed path (.unknownType name))
      | some wrap =>
          match (Entries.lookup constantsKey es).bind constants? with
          | some (v, vs) => (union v vs).map wrap
          | none => .error (.malformed path (.missingValues name))

/-- The type that the descriptor at `path` describes. -/
def spaceType (path : List Text) (space : Value) : Except Fault TypeExpr :=
  match space.bare with
  | .map es =>
      match Entries.lookup typeKey es with
      | none => .error (.malformed path .missingType)
      | some .null => .error (.malformed path .missingType)
      | some (.text name) => namedType path es name
      | some v => .error (.misplaced path .notTypeName v)
  | v => .error (.misplaced path .notObject v)

/-- The type of the leaf at `path` with the descriptor `space`. -/
def inferType (path : List Text) (space : Value) : Except Fault TypeExpr :=
  spaceType (path ++ [valueSpaceKey]) space

end DeviceTypings.Schema
