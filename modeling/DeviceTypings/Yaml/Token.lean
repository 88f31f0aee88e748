import DeviceTypings.Text.Basic

namespace DeviceTypings.Yaml

/-!
# The tokens of YAML

Indentation shows as tokens: block collections start and end with tokens of
their own, and every key of a mapping is announced.
-/

/-- A tag as it is written: a handle, unless it is verbatim, and what follows. -/
structure WrittenTag where
  handle : Option Text
  suffix : Text

inductive Directive
  | version (major minor : Nat)
  | tag (handle expansion : Text)
  /-- A directive of any other name, which has no meaning. -/
  | reserved

inductive Token
  | directive (d : Directive)
  | documentStart
  | documentEnd
  | sequenceStart
  | mappingStart
  | blockEnd
  | flowSequenceStart
  | flowSequenceEnd
  | flowMappingStart
  | flowMappingEnd
  | item
  | separator
  | key
  | value
  | reference (name : Text)
  | anchor (name : Text)
  | tag (t : WrittenTag)
  | scalar (text : Text) (isPlain : Bool)

end DeviceTypings.Yaml
