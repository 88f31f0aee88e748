import DeviceTypings.Yaml.Collection
import DeviceTypings.Yaml.Node

namespace DeviceTypings.Yaml

/-!
# Reading YAML

A text is cut into tokens, which give a graph of nodes, which gives a value.
-/

/-- The value of a YAML text. An empty text is null. -/
def parse (s : Text) : Except Misread Value := do
  match ← RootedGraph.ofStream? (.ofText s) with
  | none => return .null
  | some d => d.graph.value d.root

end DeviceTypings.Yaml
