import DeviceTypings.Node
import DeviceTypings.Render.Comment
import DeviceTypings.Render.Layout
import DeviceTypings.Render.Signature

namespace DeviceTypings

/-!
# The bodies of interfaces

Each member is a block of lines: its comment and its declaration. In an
interface the blocks end with a semicolon, in a nested object type with a
comma.
-/

namespace Member

def signature (m : Member) : Text :=
  Render.Variable.render ⟨m.name, m.type.render, !m.required⟩

def lines (m : Member) : List Text := Render.comment m.docstring ++ [m.signature]

end Member

namespace CommandOf

/-- The arguments, if the command takes any, and then the body. -/
def parameters (c : Command) : List Render.Piece :=
  (match c.args with
    | some i => [.typed ⟨"args", i.name, c.argsOptional⟩]
    | none => []) ++
  if c.multiline then [.typed ⟨"body", "string", false⟩] else []

def signature (c : Command) : Text := Render.callable c.name c.parameters c.returnType

def lines (c : Command) : List Text := Render.comment c.docstring ++ [c.signature]

end CommandOf

namespace Render

/-- A header line, the indented lines of a body, and the closing brace. -/
def block (header : Text) (body : List Text) : List Text :=
  (header ++ " \x7b") :: (indent 1 body ++ [("\x7d" : Text)])

mutual

/-- The lines of a member, without the separator after it. -/
def nodeLines : Node → List Text
  | .member m => m.lines
  | .command c => c.lines
  | .tree _ name [] => [Text.quoteName name ++ ": \x7b\x7d"]
  | .tree _ name (c :: cs) => block (Text.quoteName name ++ ":") (bodyLines "," (c :: cs))
termination_by structural n => n

/-- The lines of a body whose members end with `separator`. -/
def bodyLines (separator : Text) : List Node → List Text
  | [] => []
  | n :: ns => closeWith separator (nodeLines n) ++ bodyLines separator ns
termination_by structural ns => ns

end

theorem bodyLines_eq_flatMap (separator : Text) (ns : List Node) :
    bodyLines separator ns = ns.flatMap fun n => closeWith separator (nodeLines n) := by
  induction ns with
  | nil => rfl
  | cons n ns ih => rw [bodyLines, ih, List.flatMap_cons]

end Render

def Node.render (n : Node) : Text := Render.unlines (Render.nodeLines n)

/-- The lines of an interface declaration. -/
def Render.interfaceLines (name : Text) (bases : List Text) (children : List Node) :
    List Text :=
  match children with
  | [] => [Render.interfaceHeader name bases ++ " \x7b\x7d"]
  | children => Render.block (Render.interfaceHeader name bases) (Render.bodyLines ";" children)

def InterfaceOf.render (i : Interface) : Text :=
  Render.unlines (Render.interfaceLines i.name i.bases i.children)

end DeviceTypings
