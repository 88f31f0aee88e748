import DeviceTypings.Text.Basic

namespace DeviceTypings.CommandLine

/-!
# Formats of schema files

A schema is written in one of two formats. The name of its file tells which.
-/

inductive Format
  | json
  | yaml
deriving DecidableEq

namespace Format

def name : Format → Text
  | json => "JSON"
  | yaml => "YAML"

/-- The ends of the names of YAML files. -/
def yamlSuffixes : List Text := [".yaml", ".yml"]

/-- Files are JSON unless their path, as it stands, ends like that of a YAML file. -/
def ofPath (path : Text) : Format :=
  if yamlSuffixes.any fun s => s.toList.isSuffixOf path.toList then yaml else json

theorem ofPath_eq_yaml {path : Text} :
    ofPath path = yaml ↔ ∃ s ∈ yamlSuffixes, s.toList <:+ path.toList := by
  simp [ofPath]

end Format

end DeviceTypings.CommandLine
