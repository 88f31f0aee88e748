import DeviceTypings.Document.Scope
import DeviceTypings.Node

namespace DeviceTypings

/-!
# Documents

A document starts with an import and goes on with declarations: interfaces, at
most one main class, and the builtin generic interfaces.
-/

/-- The library that the base class and the connect generator come from. -/
def defaultLibrary : Text := "jsxapi"

def defaultMainName : Text := "TypedXAPI"

def defaultBaseName : Text := "XAPI"

def connectGenerator : Text := "connectGen"

structure ImportStatement where
  source : Text := defaultLibrary
  names : List Text := [defaultBaseName, connectGenerator]
deriving DecidableEq

/-- The typed client class, with the members of the interface of its name. -/
structure MainClass where
  name : Text := defaultMainName
  base : Text := defaultBaseName
  withConnect : Bool := true
  withDefault : Bool := true
  children : List Node := []

inductive Declaration
  | interface (i : Interface)
  | main (m : MainClass)
  | builtins

/-- The import is kept apart since it always comes first. `registered` holds
the names that interfaces may extend, in order of registration. -/
structure Document where
  library : Text := defaultLibrary
  imports : ImportStatement := ⟨library, [defaultBaseName, connectGenerator]⟩
  declarations : List Declaration := []
  registered : List Text := []

namespace Declaration

def main? : Declaration → Option MainClass
  | main m => some m
  | _ => none

def interface? : Declaration → Option Interface
  | interface i => some i
  | _ => none

def isMain : Declaration → Bool
  | main _ => true
  | _ => false

def isBuiltins : Declaration → Bool
  | builtins => true
  | _ => false

end Declaration

namespace Document

def empty (library : Text) : Document := { library }

def main? (d : Document) : Option MainClass := d.declarations.findSome? Declaration.main?

def interfaces (d : Document) : List Interface := d.declarations.filterMap Declaration.interface?

/-- The interface declared under a name. -/
def interface? (d : Document) (name : Text) : Option Interface :=
  d.interfaces.find? fun i => i.name == name

def scope (d : Document) : Scope := ⟨d.registered, d.main?.map MainClass.name⟩

def getMain (d : Document) : Except Fault MainClass :=
  match d.main? with
  | some m => .ok m
  | none => .error (.notFound "main class")

end Document

end DeviceTypings
