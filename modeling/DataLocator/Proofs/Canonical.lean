import DataLocator.Proofs.SchemaReading

/-! # Canonical integers

A value is canonical when the integers in it that fit in the signed range are held as signed ones, at every depth. That
is an invariant (`canonical_invariant`): whatever makes a value of an integer takes the constructor that its size asks
for, and a tree is canonical if its parts are. So a value that comes from a JSON tree is canonical (`canonical_ofJson`),
and one that is read by a schema too if the fallbacks of the schema are (`Schema.canonical_of_read`).
-/

namespace DataLocator

namespace Value

/-- No unsigned integer in the value fits in the signed range. -/
def Canonical (value : Value) : Prop := ∀ n, value.Holds (unsigned n) → Int64.maxValue.toInt < n.toNat

section Constructors

variable {items : List Value} {entries fields : List (String × Value)} {typeName : String} {shape : Shape}

/-- Leaves that are no unsigned integers are canonical. -/
@[simp] theorem canonical_leaf :
    null.Canonical ∧ (∀ flag, (bool flag).Canonical) ∧ (∀ n, (integer n).Canonical) ∧ (∀ x, (float x).Canonical) ∧
      ∀ text, (string text).Canonical := by
  refine ⟨?_, fun _ => ?_, fun _ => ?_, fun _ => ?_, fun _ => ?_⟩ <;> rintro n ⟨⟩

@[simp] theorem canonical_unsigned_iff {n : UInt64} : (unsigned n).Canonical ↔ Int64.maxValue.toInt < n.toNat := by
  constructor
  · intro canonical
    exact canonical n (.self _)
  · rintro large _ ⟨⟩
    exact large

@[simp] theorem canonical_sequence_iff : (sequence items).Canonical ↔ ∀ item ∈ items, item.Canonical := by
  constructor
  · intro canonical item member n holds
    exact canonical n (.item member holds)
  · rintro each n ⟨⟩
    rename_i item member holds
    exact each item member n holds

@[simp] theorem canonical_mapping_iff : (mapping entries).Canonical ↔ ∀ pair ∈ entries, pair.2.Canonical := by
  constructor
  · intro canonical pair member n holds
    exact canonical n (.entry member holds)
  · rintro each n ⟨⟩
    rename_i pair member holds
    exact each pair member n holds

@[simp] theorem canonical_record_iff :
    (record typeName shape fields).Canonical ↔ ∀ pair ∈ fields, pair.2.Canonical := by
  constructor
  · intro canonical pair member n holds
    exact canonical n (.field member holds)
  · rintro each n ⟨⟩
    rename_i pair member holds
    exact each pair member n holds

end Constructors

/-- Nothing is asked of the keys. -/
theorem canonical_invariant : Invariant Canonical fun _ => True where
  null := canonical_leaf.1
  bool := canonical_leaf.2.1
  integer := canonical_leaf.2.2.1
  unsigned _ := canonical_unsigned_iff.2
  float := canonical_leaf.2.2.2.1
  string := canonical_leaf.2.2.2.2
  sequence_iff _ := canonical_sequence_iff
  mapping_iff _ := by rw [canonical_mapping_iff, OfEntries, true_and]
  record_iff _ _ _ := by rw [canonical_record_iff, OfEntries, true_and]
  nil := trivial
  insert _ _ _ _ := trivial

/-- The value of a JSON tree is canonical. -/
theorem canonical_ofJson (tree : Json) : (ofJson tree).Canonical := by
  induction tree using Json.tree_induction with
  | number n => exact canonical_invariant.ofJsonNumber n
  | array items ih => exact canonical_invariant.array_iff.2 ih
  | object members ih => exact canonical_invariant.object_iff.2 ⟨trivial, ih⟩
  | _ => simp [ofJson]

theorem canonical_of_ofDatum {datum : Datum} {value : Value} (made : ofDatum datum = .ok value) : value.Canonical := by
  obtain ⟨tree, -, rfl⟩ := map_eq_ok_iff.1 made
  exact canonical_ofJson tree

end Value

namespace Schema

/-- Every fallback in the schema is canonical. -/
def Canonical (schema : Schema) : Prop := schema.Fallbacks Value.Canonical

/-- What is read by a schema with canonical fallbacks is canonical. -/
theorem canonical_of_read (schema : Schema) (canonical : schema.Canonical) (tree : Json) (value : Value)
    (read : schema.read tree = .ok value) : value.Canonical :=
  keeps_read Value.canonical_invariant schema canonical tree value (Value.canonical_ofJson tree) read

end Schema

end DataLocator
