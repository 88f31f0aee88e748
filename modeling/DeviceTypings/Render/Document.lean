import DeviceTypings.Document.Basic
import DeviceTypings.Render.Body

namespace DeviceTypings

/-!
# The text of a document

The import, the declarations in their order with the main class last, and an
empty line between any two of them. A document that declares nothing is empty.
-/

namespace Render

/-- The generic interfaces and the aliases that apply them to every field of a
tree. -/
def builtins : Text := unlines
  ["export interface Gettable<T> \x7b",
   "  get(): Promise<T>;",
   "\x7d",
   "",
   "export interface Settable<T> \x7b",
   "  set(value: T): Promise<void>;",
   "\x7d",
   "",
   "export interface Listenable<T> \x7b",
   "  on(handler: (value: T) => void): () => void;",
   "  once(handler: (value: T) => void): () => void;",
   "\x7d",
   "",
   "type Configify<T> = [T] extends [object]",
   "  ? \x7b [P in keyof T]: Configify<T[P]>; \x7d & Gettable<T> & Listenable<T>",
   "  : Gettable<T> & Settable<T> & Listenable<T>;",
   "",
   "type Statusify<T> = [T] extends [object]",
   "  ? \x7b [P in keyof T]: Statusify<T[P]>; \x7d & Gettable<T> & Listenable<T>",
   "  : Gettable<T> & Listenable<T>;"]

end Render

namespace ImportStatement

def render (i : ImportStatement) : Text := Render.importLine i.names i.source

end ImportStatement

namespace MainClass

/-- The exports that accompany the class. -/
def exports (m : MainClass) : List Text :=
  (if m.withDefault then ["export default " ++ m.name ++ ";"] else []) ++
  if m.withConnect then
    ["export const connect = " ++ connectGenerator ++ "(" ++ m.name ++ ");"]
  else []

def blocks (m : MainClass) : List Text :=
  Render.classDeclaration m.name m.base ::
    ((if m.exports.isEmpty then [] else [Render.unlines m.exports]) ++
      [Render.unlines (Render.interfaceLines m.name [] m.children)])

def render (m : MainClass) : Text := Render.paragraphs m.blocks

end MainClass

namespace Declaration

def render : Declaration → Text
  | interface i => i.render
  | main m => m.render
  | builtins => Render.builtins

end Declaration

namespace Document

/-- The declarations as they are printed. -/
def printOrder (d : Document) : List Declaration :=
  d.declarations.filter (!·.isMain) ++ d.declarations.filter (·.isMain)

def render (d : Document) : Text :=
  if d.declarations.isEmpty then ""
  else Render.paragraphs (d.imports.render :: d.printOrder.map Declaration.render) ++ "\n"

end Document

end DeviceTypings
