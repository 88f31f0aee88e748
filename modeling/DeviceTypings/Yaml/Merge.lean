import DeviceTypings.Value.Misread
import DeviceTypings.Yaml.Graph

namespace DeviceTypings.Yaml

/-!
# Merging mappings

A merge key brings the pairs of other mappings into the one that it stands in,
before its own pairs. The other mappings are merged first. A mapping can be
merged into itself: then it has the pairs that it has without the merge key.
-/

/-- The pairs before the first merge key, its value and the pairs after it. -/
def splitAtMerge (g : Graph) : List Pair → Option (List Pair × Nat × List Pair)
  | [] => none
  | (k, v) :: ps =>
      if g.tag k == .merge then some ([], v, ps)
      else (splitAtMerge g ps).map fun (before, w, after) => ((k, v) :: before, w, after)

/-- The value key is a text like any other inside a mapping. -/
def plainKey (g : Graph) (p : Pair) : Graph :=
  match g.get p.1 with
  | .scalar .value text => g.set p.1 (.scalar .str text)
  | .sequence .value items => g.set p.1 (.sequence .str items)
  | .mapping .value ps => g.set p.1 (.mapping .str ps)
  | _ => g

mutual

/-- Merges a mapping, so that none of its keys is a merge key. -/
def merge : Nat → Nat → Graph → Except Misread Graph
  | 0, _, _ => .error .invalid
  | fuel + 1, id, g => do
      let (merged, g) ← takeMerges fuel id g
      let ps := merged ++ g.pairs id
      return ps.foldl plainKey (g.setPairs id ps)

/-- Takes the merge keys out of a mapping and gives the pairs that they bring. -/
def takeMerges : Nat → Nat → Graph → Except Misread (List Pair × Graph)
  | 0, _, _ => .error .invalid
  | fuel + 1, id, g =>
      match splitAtMerge g (g.pairs id) with
      | none => .ok ([], g)
      | some (before, v, after) => do
          let (ps, g) ← broughtBy fuel v (g.setPairs id (before ++ after))
          let (more, g) ← takeMerges fuel id g
          return (ps ++ more, g)

/-- The pairs that the value of a merge key brings: those of a mapping, or those
of several with the last one first. -/
def broughtBy : Nat → Nat → Graph → Except Misread (List Pair × Graph)
  | 0, _, _ => .error .invalid
  | fuel + 1, v, g =>
      match g.get v with
      | .scalar _ _ => .error .invalid
      | .mapping _ _ => do
          let g ← merge fuel v g
          return (g.pairs v, g)
      | .sequence _ items => broughtByAll fuel items g

def broughtByAll : Nat → List Nat → Graph → Except Misread (List Pair × Graph)
  | 0, _, _ => .error .invalid
  | _, [], g => .ok ([], g)
  | fuel + 1, v :: vs, g => do
      if !g.isMapping v then throw .invalid
      let g ← merge fuel v g
      let own := g.pairs v
      let (ps, g) ← broughtByAll fuel vs g
      return (ps ++ own, g)

end

/-- How deep merging can go: every merge key on the way is taken out, and brings
no more than one sequence. -/
def mergeFuel (g : Graph) : Nat := (g.linkCount + 4) * (g.linkCount + 4)

end DeviceTypings.Yaml
