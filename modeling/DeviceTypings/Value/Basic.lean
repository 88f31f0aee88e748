import DeviceTypings.Number.Binary64
import DeviceTypings.Text.Basic
import DeviceTypings.Value.Calendar

namespace DeviceTypings

/-!
# Values

The data that a schema file holds. Maps keep the order of their entries, and
their keys may be any values, although only text keys have a meaning in a
schema. A file can hold a collection that contains itself. Its value is
unfolded, and goes on for much longer than any use of it.
-/

inductive Value
  | null
  | bool (b : Bool)
  | int (i : Int)
  | float (x : Binary64)
  | text (s : Text)
  | date (d : Date)
  | instant (t : Instant)
  | bytes (octets : List UInt8)
  | list (items : List Value)
  | tuple (items : List Value)
  | map (entries : List (Value × Value))
  | set (members : List Value)
  /-- A collection that contains itself, where the same label comes again. -/
  | ring (label : Nat) (v : Value)
  /-- Where a collection that contains itself is unfolded no further. -/
  | endless

/-- The entries of a map, in order. -/
abbrev Entries := List (Value × Value)

namespace Value

/-- The name of the kind of a value, as messages give it. -/
def kind : Value → Text
  | null => "NoneType"
  | bool _ => "bool"
  | int _ => "int"
  | float _ => "float"
  | text _ => "str"
  | date _ => "date"
  | instant _ => "datetime"
  | bytes _ => "bytes"
  | list _ => "list"
  | tuple _ => "tuple"
  | map _ => "dict"
  | set _ => "set"
  | ring _ v => v.kind
  | endless => "endless"

/-- A collection without its label. -/
def bare : Value → Value
  | ring _ v => v
  | v => v

/-- Whether a value says nothing: null, false, a zero, or an empty text or
collection. -/
def isEmpty : Value → Bool
  | null => true
  | bool b => !b
  | int i => i == 0
  | float x => x.isZero
  | text s => s == ""
  | bytes octets => octets.isEmpty
  | list items => items.isEmpty
  | tuple items => items.isEmpty
  | map entries => entries.isEmpty
  | set members => members.isEmpty
  | ring _ v => v.isEmpty
  | _ => false

def isText (s : Text) : Value → Bool
  | text t => t == s
  | _ => false

@[simp] theorem isText_iff {s : Text} {v : Value} : v.isText s = true ↔ v = text s := by
  cases v <;> simp [isText]

/-- The integer that a value is equal to as a key: true counts as one and false
as zero. -/
def integer? : Value → Option Int
  | bool b => some (if b then 1 else 0)
  | int i => some i
  | float x => x.toInt?
  | _ => none

/-- Whether two scalars are the same key. Numbers of different kinds are if
they are equal. -/
def sameKey (a b : Value) : Bool :=
  match a.integer?, b.integer? with
  | some i, some j => i == j
  | _, _ =>
      match a, b with
      | null, null => true
      | float x, float y => x.sameValue y
      | text s, text t => s == t
      | date d, date e => d == e
      | instant t, instant u => t.same u
      | bytes x, bytes y => x == y
      | _, _ => false

end Value

namespace Entries

/-- The value under a text key. -/
def lookup (key : Text) : Entries → Option Value
  | [] => none
  | (k, v) :: es => if k.isText key then some v else lookup key es

/-- Gives a key a value. A key that is there already keeps its place. -/
def insert (key value : Value) : Entries → Entries
  | [] => [(key, value)]
  | (k, v) :: es => if k.sameKey key then (k, value) :: es else (k, v) :: insert key value es

def ofList (es : List (Value × Value)) : Entries :=
  es.foldl (fun acc e => insert e.1 e.2 acc) []

@[simp] theorem lookup_nil (key : Text) : lookup key [] = none := rfl

theorem lookup_cons (key : Text) (k v : Value) (es : Entries) :
    lookup key ((k, v) :: es) = if k.isText key then some v else lookup key es := rfl

theorem mem_of_lookup {key : Text} {v : Value} {es : Entries} (h : lookup key es = some v) :
    (.text key, v) ∈ es := by
  induction es with
  | nil => simp at h
  | cons e es ih =>
      obtain ⟨k, w⟩ := e
      rw [lookup_cons] at h
      split at h
      · simp_all
      · exact List.mem_cons_of_mem _ (ih h)

theorem notMem_of_lookup {key : Text} {es : Entries} (h : lookup key es = none) (v : Value) :
    (.text key, v) ∉ es := by
  induction es with
  | nil => simp
  | cons e es ih =>
      obtain ⟨k, w⟩ := e
      rw [lookup_cons] at h
      split at h
      · simp at h
      · rename_i hk
        rw [List.mem_cons, Prod.mk.injEq]
        rintro (⟨rfl, -⟩ | hmem)
        · exact hk (Value.isText_iff.2 rfl)
        · exact ih h hmem

end Entries

end DeviceTypings
