import DeviceTypings.Workbench.Shape

namespace DeviceTypings.Workbench

/-!
# Equality of sketches

Two sketches are equal if they are of the same kind and agree in every field
and child, in order. Foreign values are compared as values.
-/

mutual

/-- Equality of values, where the order of the entries of a map is of no
account. -/
def sameValue : Value → Value → Bool
  | .list xs, .list ys => sameValues xs ys
  | .map xs, .map ys => xs.length == ys.length && sameEntries xs ys
  | x, y => x.sameKey y
termination_by structural x => x

def sameValues : List Value → List Value → Bool
  | [], [] => true
  | x :: xs, y :: ys => sameValue x y && sameValues xs ys
  | _, _ => false
termination_by structural xs => xs

/-- Every entry on the left has its equal on the right. -/
def sameEntries : List (Value × Value) → List (Value × Value) → Bool
  | [], _ => true
  | (k, x) :: xs, ys =>
      (match ys.find? fun e => k.sameKey e.1 with
        | some e => sameValue x e.2
        | none => false) && sameEntries xs ys
termination_by structural xs => xs

end

mutual

def Sketch.same : Sketch → Sketch → Bool
  | .of s, .of t => sameShape s t
termination_by structural s => s

def sameShape : Shape Sketch → Shape Sketch → Bool
  | .plain n, .plain n' => n == n'
  | .literal v vs, .literal v' vs' => v == v' && vs == vs'
  | .list t, .list t' => t.same t'
  | .generic w i, .generic w' i' => w == w' && i == i'
  | .member n t r d, .member n' t' r' d' => n == n' && t.same t' && r == r' && d == d'
  | .command n a r d m, .command n' a' r' d' m' =>
      n == n' && sameOption a a' && r == r' && d == d' && m == m'
  | .tree k n cs, .tree k' n' cs' => k == k' && n == n' && sameList cs cs'
  | .interface n bs cs, .interface n' bs' cs' => n == n' && bs == bs' && sameList cs cs'
  | .main n b c d cs, .main n' b' c' d' cs' =>
      n == n' && b == b' && c == c' && d == d' && sameList cs cs'
  | .imports i, .imports j => i == j
  | .builtins, .builtins => true
  | .document l cs, .document l' cs' => l == l' && sameList cs cs'
  | .foreign v, .foreign w => sameValue v w
  | _, _ => false
termination_by structural s => s

def sameOption : Option Sketch → Option Sketch → Bool
  | none, none => true
  | some s, some t => s.same t
  | _, _ => false
termination_by structural s => s

def sameList : List Sketch → List Sketch → Bool
  | [], [] => true
  | s :: ss, t :: ts => s.same t && sameList ss ts
  | _, _ => false
termination_by structural ss => ss

end

end DeviceTypings.Workbench
