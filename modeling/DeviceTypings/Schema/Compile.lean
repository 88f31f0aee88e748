import DeviceTypings.Render.Document
import DeviceTypings.Schema.Outline

namespace DeviceTypings.Schema

/-!
# Compiling schemas

The top level of a schema holds up to three families. Each has an interface of
its own and a member of the main class that leads to it. Fields that can be
read, written or followed are wrapped by an alias, which needs the builtins.
-/

structure Options where
  library : Text := defaultLibrary
  className : Text := defaultMainName
  base : Text := defaultBaseName
  withConnect : Bool := true

inductive Family
  | command
  | configuration
  | status
deriving DecidableEq

namespace Family

def all : List Family := [command, configuration, status]

/-- The key of the family in a schema. -/
def key : Family → Text
  | command => "Command"
  | configuration => "Configuration"
  | status => "StatusSchema"

def interfaceName : Family → Text
  | command => "CommandTree"
  | configuration => "ConfigTree"
  | status => "StatusTree"

def memberName : Family → Text
  | command => "Command"
  | configuration => "Config"
  | status => "Status"

/-- The alias that is applied to the interface, if there is one. -/
def wrapper? : Family → Option Text
  | command => none
  | configuration => some "Configify"
  | status => some "Statusify"

def type (f : Family) : TypeExpr :=
  match f.wrapper? with
  | some a => .generic a f.interfaceName
  | none => .plain f.interfaceName

def ofKey? : Value → Option Family
  | .text k => all.find? fun f => f.key == k
  | _ => none

end Family

/-- Declares the family with the entries `es`. -/
def family (f : Family) (hasBuiltins : Bool) (es : Entries) : Script Unit := do
  if f.wrapper?.isSome && !hasBuiltins then .step .addBuiltins
  .step (.addInterface f.interfaceName [])
  .step (.extend { owner := .main } [.member { name := f.memberName, type := f.type }])
  let nodes ← outlineEntries [f.key] es
  .step (.extend { owner := .interface f.interfaceName } nodes)

/-- Declares the families in their order. Other keys are noted only. -/
def families (hasBuiltins : Bool) : List (Value × Value) → Script Unit
  | [] => pure ()
  | (k, v) :: es =>
      match Family.ofKey? k, v.bare with
      | some f, .map children => do
          family f hasBuiltins children
          families (hasBuiltins || f.wrapper?.isSome) es
      | some f, v => misplaced [f.key] .notObject v
      | none, _ => do
          .note (.unknownKey k.toText)
          families hasBuiltins es

def script (o : Options) (schema : Value) : Script Unit :=
  match schema.bare with
  | .map es => do
      .step (.addMain o.className o.base o.withConnect)
      families false es
  | v => misplaced [] .notObject v

/-- Compiles a schema, with the entries of its script that took effect. -/
def trace (o : Options) (schema : Value) : List Entry × Except Fault Document :=
  (script o schema).run (.empty o.library)

/-- The document of a schema, or its first fault. -/
def compile (o : Options) (schema : Value) : Except Fault Document := (trace o schema).2

/-- The declarations of a schema. -/
def generate (o : Options) (schema : Value) : Except Fault Text :=
  (compile o schema).map Document.render

theorem compile_eq (o : Options) (schema : Value) :
    compile o schema =
      ((Document.empty o.library).steps (script o schema).steps).bind fun d =>
        (script o schema).result.map fun _ => d :=
  Script.run_snd _ _

end DeviceTypings.Schema
