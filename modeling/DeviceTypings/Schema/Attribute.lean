import DeviceTypings.Fault
import DeviceTypings.Text.Upper

namespace DeviceTypings.Schema

/-!
# Keys of a schema

A key that starts with an upper case character describes structure. Any other
key is an attribute, and of those only a few have a meaning.
-/

def isStructural (key : Text) : Bool :=
  match key.toList with
  | [] => false
  | c :: _ => Text.isUpper c

/-- The text of a key that describes structure. -/
def structuralKey? : Value → Option Text
  | .text key => if isStructural key then some key else none
  | _ => none

/-- The entries that describe structure, in order. -/
def structuralEntries (es : Entries) : List (Text × Value) :=
  es.filterMap fun (k, v) => (structuralKey? k).map (·, v)

def structuralKeys (es : Entries) : List Text := (structuralEntries es).map Prod.fst

/-- The descriptor of the type of a leaf. -/
def valueSpaceKey : Text := "ValueSpace"

/-- The constants of a literal value space. -/
def constantsKey : Text := "Value"

def typeKey : Text := "type"

def commandKey : Text := "command"

def requiredKey : Text := "required"

def multilineKey : Text := "multiline"

def descriptionKey : Text := "description"

def idKey : Text := "id"

/-- Flags are written as truth values or as text. -/
def isSet : Option Value → Bool
  | some (.bool b) => b
  | some (.text s) => s == "True"
  | _ => false

def isUnset : Option Value → Bool
  | some (.bool b) => !b
  | some (.text s) => s == "False"
  | _ => false

/-- The text of the description, unless that says nothing. -/
def docstring (es : Entries) : Except Fault (Option Text) :=
  match Entries.lookup descriptionKey es with
  | some v => if v.isEmpty then .ok none else (Fault.textOf v).map some
  | none => .ok none

theorem structuralKey?_eq_some {k : Value} {key : Text} :
    structuralKey? k = some key ↔ k = .text key ∧ isStructural key = true := by
  cases k with
  | text s =>
      simp only [structuralKey?, Option.ite_none_right_eq_some, Option.some.injEq, Value.text.injEq]
      exact ⟨fun ⟨h, e⟩ => ⟨e, e ▸ h⟩, fun ⟨e, h⟩ => ⟨e ▸ h, e⟩⟩
  | _ => simp [structuralKey?]

end DeviceTypings.Schema
