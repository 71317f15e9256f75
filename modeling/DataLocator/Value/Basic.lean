import DataLocator.Entries
import DataLocator.Number.Binary64

/-! # Values

A value is a node of a tree of configuration data. Mappings are keyed by strings, sequences are indexed, and
records carry a type name and named fields; all else is a leaf. An integer is `integer` when it fits in the
signed range and `unsigned` above it: `ofUInt64` and `ofInt?` choose the constructor, and nothing else in the
library makes an `unsigned`.
-/

namespace DataLocator

/-- Whether a record takes fields that it does not have yet. -/
inductive Shape where
  | extensible
  | closed
deriving DecidableEq, Repr

/-- A node of a tree of configuration data. -/
inductive Value where
  /-- An explicit null, which is not the absence of a value. -/
  | null
  | bool (flag : Bool)
  | integer (n : Int64)
  | unsigned (n : UInt64)
  | float (x : Binary64)
  | string (text : String)
  | sequence (items : List Value)
  | mapping (entries : List (String × Value))
  | record (typeName : String) (shape : Shape) (fields : List (String × Value))

namespace Value

instance : Inhabited Value := ⟨null⟩

/-- The mapping that stands at a place which was made on the way to another. -/
def emptyMapping : Value := mapping []

/-- The name of a value's kind in error messages; a record gives its own. -/
def typeName : Value → String
  | null => "null"
  | bool _ => "boolean"
  | integer _ | unsigned _ => "integer"
  | float _ => "float"
  | string _ => "string"
  | sequence _ => "sequence"
  | mapping _ => "mapping"
  | record name _ _ => name

/-- The value of a natural below `2 ^ 64`. -/
def ofUInt64 (n : UInt64) : Value :=
  if n.toNat ≤ Int64.maxValue.toInt then integer n.toInt64 else unsigned n

/-- The value of an integer, if one of the two ranges holds it. -/
def ofInt? (z : Int) : Option Value :=
  if Int64.minValue.toInt ≤ z ∧ z ≤ Int64.maxValue.toInt then some (integer (Int64.ofInt z))
  else if 0 ≤ z ∧ z < UInt64.size then some (unsigned (UInt64.ofNat z.toNat))
  else none

mutual

/-- The keys of every mapping and every record in the tree are in increasing order. -/
def Ordered : Value → Prop
  | sequence items => OrderedItems items
  | mapping entries => Entries.Ordered entries ∧ OrderedEntries entries
  | record _ _ fields => Entries.Ordered fields ∧ OrderedEntries fields
  | _ => True

def OrderedItems : List Value → Prop
  | [] => True
  | item :: rest => item.Ordered ∧ OrderedItems rest

def OrderedEntries : List (String × Value) → Prop
  | [] => True
  | (_, value) :: rest => value.Ordered ∧ OrderedEntries rest

end

mutual

instance decidableOrdered : (value : Value) → Decidable value.Ordered
  | sequence items => decidableOrderedItems items
  | mapping entries => haveI := decidableOrderedEntries entries; instDecidableAnd
  | record _ _ fields => haveI := decidableOrderedEntries fields; instDecidableAnd
  | null | bool _ | integer _ | unsigned _ | float _ | string _ => instDecidableTrue

instance decidableOrderedItems : (items : List Value) → Decidable (OrderedItems items)
  | [] => instDecidableTrue
  | item :: rest => haveI := item.decidableOrdered; haveI := decidableOrderedItems rest; instDecidableAnd

instance decidableOrderedEntries : (entries : List (String × Value)) → Decidable (OrderedEntries entries)
  | [] => instDecidableTrue
  | (_, value) :: rest => haveI := value.decidableOrdered; haveI := decidableOrderedEntries rest; instDecidableAnd

end

theorem orderedItems_iff {items : List Value} : OrderedItems items ↔ ∀ item ∈ items, item.Ordered := by
  induction items with
  | nil => simp [OrderedItems]
  | cons item rest ih => rw [OrderedItems, ih, List.forall_mem_cons]

theorem orderedEntries_iff {entries : List (String × Value)} :
    OrderedEntries entries ↔ ∀ pair ∈ entries, pair.2.Ordered := by
  induction entries with
  | nil => simp [OrderedEntries]
  | cons pair rest ih => rw [OrderedEntries, ih, List.forall_mem_cons]

/-- Induction over the tree of a value. -/
@[elab_as_elim]
theorem tree_induction {motive : Value → Prop} (null : motive .null) (bool : ∀ flag, motive (.bool flag))
    (integer : ∀ n, motive (.integer n)) (unsigned : ∀ n, motive (.unsigned n)) (float : ∀ x, motive (.float x))
    (string : ∀ text, motive (.string text))
    (sequence : ∀ items, (∀ item ∈ items, motive item) → motive (.sequence items))
    (mapping : ∀ entries, (∀ pair ∈ entries, motive pair.2) → motive (.mapping entries))
    (record : ∀ typeName shape fields, (∀ pair ∈ fields, motive pair.2) → motive (.record typeName shape fields)) :
    ∀ value, motive value
  | .null => null
  | .bool flag => bool flag
  | .integer n => integer n
  | .unsigned n => unsigned n
  | .float x => float x
  | .string text => string text
  | .sequence items =>
    sequence items fun item _ =>
      tree_induction null bool integer unsigned float string sequence mapping record item
  | .mapping entries =>
    mapping entries fun pair _ =>
      tree_induction null bool integer unsigned float string sequence mapping record pair.2
  | .record typeName shape fields =>
    record typeName shape fields fun pair _ =>
      tree_induction null bool integer unsigned float string sequence mapping record pair.2
termination_by value => sizeOf value
decreasing_by
  · rename_i member
    have smaller := List.sizeOf_lt_of_mem member
    simp only [Value.sequence.sizeOf_spec]
    omega
  · rename_i member
    have smaller := Entries.sizeOf_lt_of_mem member
    simp only [Value.mapping.sizeOf_spec]
    omega
  · rename_i member
    have smaller := Entries.sizeOf_lt_of_mem member
    simp only [Value.record.sizeOf_spec]
    omega

end Value

/-- A value with a type name and named fields, as it is put together before it becomes a `Value`. -/
structure Record where
  typeName : String
  shape : Shape := .extensible
  fields : List (String × Value) := []

namespace Record

/-- The record with a field set, whatever its shape: the shape restrains later assignments only. -/
def withField (r : Record) (name : String) (value : Value) : Record :=
  { r with fields := Entries.insert name value r.fields }

def field? (r : Record) (name : String) : Option Value := r.fields.lookup name

def toValue (r : Record) : Value := .record r.typeName r.shape r.fields

end Record

/-! ## Numeric equality of values

Two values are the same when they have the same constructor and the same parts, where floats are compared as
numbers: the zeros are the same, and a value with a not-a-number in it is not the same as itself.
-/

namespace Value

mutual

/-- Equality of values with floats compared as numbers. -/
def sameAs : Value → Value → Bool
  | null, null => true
  | bool a, bool b => a == b
  | integer m, integer n => m == n
  | unsigned m, unsigned n => m == n
  | float x, float y => x.sameNumber y
  | string s, string t => s == t
  | sequence xs, sequence ys => sameItems xs ys
  | mapping es, mapping fs => sameEntries es fs
  | record s a es, record t b fs => s == t && a == b && sameEntries es fs
  | _, _ => false

def sameItems : List Value → List Value → Bool
  | [], [] => true
  | x :: xs, y :: ys => x.sameAs y && sameItems xs ys
  | _, _ => false

def sameEntries : List (String × Value) → List (String × Value) → Bool
  | [], [] => true
  | (k, x) :: es, (l, y) :: fs => k == l && x.sameAs y && sameEntries es fs
  | _, _ => false

end

end Value

/-! ## Presence

What a load finds: a value, or nothing at all. An explicit null is a value that is present.
-/

/-- A value that may be absent. -/
inductive Presence where
  | present (value : Value)
  | notPresent

namespace Presence

def ofOption : Option Value → Presence
  | some value => present value
  | none => notPresent

def toOption : Presence → Option Value
  | present value => some value
  | notPresent => none

def isPresent (presence : Presence) : Bool := presence.toOption.isSome

def getD (presence : Presence) (fallback : Value) : Value := presence.toOption.getD fallback

end Presence

end DataLocator
