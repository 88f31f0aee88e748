import DeviceTypings.Text.Quoted

namespace DeviceTypings.Render

/-!
# Signatures

The one-line forms: typed names, parameter lists, callable signatures and the
opening lines of declarations.
-/

/-- A property or parameter with its type. -/
structure Variable where
  name : Text
  type : Text
  optional : Bool := false

namespace Variable

def render (v : Variable) : Text :=
  Text.quoteName v.name ++ (if v.optional then "?" else "") ++ ": " ++ v.type

end Variable

/-- What a parameter list is made of. -/
inductive Piece
  | text (s : Text)
  | typed (v : Variable)

namespace Piece

def render : Piece → Text
  | text s => s
  | typed v => v.render

/-- Empty text takes no place in a list. A typed name always does. -/
def isShown : Piece → Bool
  | text s => s != ""
  | typed _ => true

end Piece

def joinPieces (ps : List Piece) : Text :=
  Text.intercalate ", " ((ps.filter Piece.isShown).map Piece.render)

def joinNames (names : List Text) : Text := joinPieces (names.map Piece.text)

/-- A generic name with its type arguments. -/
def group (name : Text) (args : List Piece) : Text := name ++ "<" ++ joinPieces args ++ ">"

/-- A callable that answers with a promise. The type of the answer is a
parameter whose default is `returnType`. -/
def callable (name : Text) (parameters : List Piece) (returnType : Text) : Text :=
  Text.quoteName name ++ "<R=" ++ returnType ++ ">(" ++ joinPieces parameters ++ "): Promise<R>"

def interfaceHeader (name : Text) (bases : List Text) : Text :=
  if bases.isEmpty then "export interface " ++ name
  else "export interface " ++ name ++ " extends " ++ joinNames bases

def classDeclaration (name base : Text) : Text :=
  "export class " ++ name ++ " extends " ++ base ++ " \x7b\x7d"

def importLine (names : List Text) (source : Text) : Text :=
  "import \x7b " ++ joinNames names ++ " \x7d from \"" ++ source ++ "\";"

end DeviceTypings.Render
