import DeviceTypings.Value.Basic

namespace DeviceTypings

/-!
# Objects

Collections that hold their parts by number, so that one object can be a part
of many others, and of itself. An object without such a ring below it has a
value that is a tree. Any other one is unfolded, with labels by which it is seen
that an object comes again.
-/

inductive Object
  /-- An object whose value is known. -/
  | settled (v : Value)
  | list (items : List Nat)
  | tuple (items : List Nat)
  | map (entries : List (Value × Nat))

namespace Object

def parts : Object → List Nat
  | settled _ => []
  | list items => items
  | tuple items => items
  | map es => es.map Prod.snd

/-- The value of an object, given those of its parts. -/
def value (part : Nat → Value) : Object → Value
  | settled v => v
  | list items => .list (items.map part)
  | tuple items => .tuple (items.map part)
  | map es => .map (es.map fun (k, i) => (k, part i))

/-- The value of an object whose parts all have values. -/
def value? (part : Nat → Option Value) (o : Object) : Option Value :=
  if o.parts.all fun i => (part i).isSome then some (o.value fun i => (part i).getD .null)
  else none

end Object

namespace Objects

def get (objects : Array Object) (i : Nat) : Object := objects.getD i (.settled .null)

/-- Finds the value of one object if those of its parts are known. -/
def settleAt (objects : Array Object) (i : Nat) (values : Array (Option Value)) :
    Array (Option Value) :=
  if (values.getD i none).isSome then values
  else
    let v := (get objects i).value? fun j => values.getD j none
    values.setIfInBounds i v

/-- One pass over all objects, the last one first. -/
def settlePass (objects : Array Object) (values : Array (Option Value)) : Array (Option Value) :=
  (List.range objects.size).foldr (settleAt objects) values

def settledCount (values : Array (Option Value)) : Nat := values.countP Option.isSome

/-- Passes over the objects until no further value is found. -/
def settle (objects : Array Object) : Nat → Array (Option Value) → Array (Option Value)
  | 0, values => values
  | fuel + 1, values =>
      let count := settledCount values
      let values := settlePass objects values
      if settledCount values = count then values else settle objects fuel values

/-- The values of all objects, those of rings down to a depth. -/
def unfold (objects : Array Object) (values : Array (Option Value)) : Nat → Array Value
  | 0 => values.map fun v => v.getD .endless
  | depth + 1 =>
      let below := unfold objects values depth
      ((List.range objects.size).map fun i =>
        match values.getD i none with
        | some v => v
        | none => .ring i ((get objects i).value fun j => below.getD j .endless)).toArray

/-- The value of an object. The depth is that of three rounds through all rings,
while no use of a value that comes to an end makes more than two. -/
def value (objects : Array Object) (i : Nat) : Value :=
  let values := settle objects (objects.size + 1) (Array.replicate objects.size none)
  match values.getD i none with
  | some v => v
  | none =>
      let depth := 3 * (objects.size - settledCount values) + 8
      (unfold objects values depth).getD i .endless

end Objects

end DeviceTypings
