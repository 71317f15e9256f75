import DataLocator.Interchange.Json
import DataLocator.Proofs.IntegerTexts
import DataLocator.Proofs.Overlay

/-! # Invariants of values

Some properties of a value are decided part by part, by the keys of each mapping and of each record and by the leaves.
Such a property is an `Invariant` if it asks nothing of keys that an insertion could break, and nothing of leaves but
that an unsigned integer is above the signed range. What is put together of values with the invariant has it then too:
by a write at a place (`Invariant.setChild`), by an insertion (`Invariant.insertIdx`), and by laying one value over
another (`Invariant.overlay`).

That the keys are in order is an invariant (`ordered_invariant`).
-/

namespace DataLocator.Value

/-- What an invariant asks of entries: something of their keys, and that each value has the invariant. -/
def OfEntries (holds : Value → Prop) (keys : List String → Prop) (entries : List (String × Value)) : Prop :=
  keys (entries.map Prod.fst) ∧ ∀ pair ∈ entries, holds pair.2

/-- A property that values have by their parts, where `keys` is what it asks of the keys of a mapping or of a record. -/
structure Invariant (holds : Value → Prop) (keys : List String → Prop) : Prop where
  null : holds null
  bool : ∀ flag, holds (bool flag)
  integer : ∀ n, holds (integer n)
  unsigned : ∀ n : UInt64, Int64.maxValue.toInt < n.toNat → holds (unsigned n)
  float : ∀ x, holds (float x)
  string : ∀ text, holds (string text)
  sequence_iff : ∀ items, holds (sequence items) ↔ ∀ item ∈ items, holds item
  mapping_iff : ∀ entries, holds (mapping entries) ↔ OfEntries holds keys entries
  record_iff : ∀ typeName shape fields, holds (record typeName shape fields) ↔ OfEntries holds keys fields
  nil : keys []
  insert : ∀ (key : String) (value : Value) (entries : List (String × Value)),
    keys (entries.map Prod.fst) → keys ((Entries.insert key value entries).map Prod.fst)

/-- The keys of every mapping and every record stay in order. -/
theorem ordered_invariant : Invariant Ordered (List.Pairwise (· < ·)) where
  null := trivial
  bool _ := trivial
  integer _ := trivial
  unsigned _ _ := trivial
  float _ := trivial
  string _ := trivial
  sequence_iff items := by rw [Ordered, orderedItems_iff]
  mapping_iff entries := by rw [Ordered, orderedEntries_iff, OfEntries, Entries.Ordered]
  record_iff typeName shape fields := by rw [Ordered, orderedEntries_iff, OfEntries, Entries.Ordered]
  nil := List.Pairwise.nil
  insert key value entries ordered := Entries.Ordered.insert ordered key value

namespace Invariant

variable {holds : Value → Prop} {keys : List String → Prop} (invariant : Invariant holds keys)
include invariant

section Entries

variable {entries pairs : List (String × Value)} {key : String} {value : Value}

theorem ofEntries_nil : OfEntries holds keys [] :=
  ⟨invariant.nil, fun _ member => absurd member List.not_mem_nil⟩

theorem ofEntries_insert (inserted : holds value) (kept : OfEntries holds keys entries) :
    OfEntries holds keys (Entries.insert key value entries) :=
  ⟨invariant.insert key value entries kept.1, Entries.forall_mem_insert inserted kept.2⟩

/-- Pairs that are inserted one after the other need not be in order themselves. -/
theorem ofEntries_ofList (each : ∀ pair ∈ pairs, holds pair.2) : OfEntries holds keys (Entries.ofList pairs) :=
  List.foldlRecOn pairs _ invariant.ofEntries_nil fun _ kept pair member =>
    invariant.ofEntries_insert (each pair member) kept

theorem emptyMapping : holds emptyMapping := (invariant.mapping_iff []).2 invariant.ofEntries_nil

end Entries

section Integers

variable {z : Int} {value converted : Value}

theorem ofUInt64 (n : UInt64) : holds (ofUInt64 n) := by
  unfold Value.ofUInt64
  split
  · exact invariant.integer _
  · next large => exact invariant.unsigned n (Int.not_le.1 large)

theorem of_ofInt? (found : ofInt? z = some value) : holds value := by
  rcases ofInt?_eq_some_iff.1 found with ⟨-, n, rfl, -⟩ | ⟨large, n, rfl, rfl⟩
  · exact invariant.integer n
  · exact invariant.unsigned n large

theorem ofJsonNumber (n : JsonNumber) : holds (ofJsonNumber n) := by
  cases n with
  | natural n => exact invariant.ofUInt64 n
  | negative n isNegative => exact invariant.integer n
  | float x isFinite => exact invariant.float x

theorem of_toInteger (kept : holds value) (converts : Converter.integer.convert value = .ok converted) :
    holds converted := by
  cases value with
  | string text =>
    obtain ⟨z, -, found⟩ := toInteger_eq_ok_iff.1 converts
    exact invariant.of_ofInt? found
  | integer n => exact Except.ok.inj converts ▸ kept
  | unsigned n => exact Except.ok.inj converts ▸ kept
  | _ => contradiction

end Integers

section Children

variable {container child : Value} {place : Selector}

theorem child? (kept : holds container) (held : container.child? place = some child) : holds child := by
  cases container <;> cases place <;> try contradiction
  · exact (invariant.sequence_iff _).1 kept child (List.mem_of_getElem? held)
  · exact ((invariant.mapping_iff _).1 kept).2 _ (Entries.mem_of_lookup held)
  · exact ((invariant.record_iff _ _ _).1 kept).2 _ (Entries.mem_of_lookup held)

theorem setChild (kept : holds container) (also : holds child) (place : Selector) :
    holds (container.setChild place child) := by
  cases container <;> cases place <;> try exact kept
  · refine (invariant.sequence_iff _).2 fun item member => ?_
    rcases List.mem_or_eq_of_mem_set member with old | rfl
    · exact (invariant.sequence_iff _).1 kept item old
    · exact also
  · exact (invariant.mapping_iff _).2 (invariant.ofEntries_insert also ((invariant.mapping_iff _).1 kept))
  · exact (invariant.record_iff _ _ _).2 (invariant.ofEntries_insert also ((invariant.record_iff _ _ _).1 kept))

theorem insertIdx {items : List Value} {position : Nat} (within : position ≤ items.length)
    (kept : holds (.sequence items)) (also : holds child) : holds (.sequence (items.insertIdx position child)) := by
  refine (invariant.sequence_iff _).2 fun item member => ?_
  rcases (List.mem_insertIdx within).1 member with rfl | old
  · exact also
  · exact (invariant.sequence_iff _).1 kept item old

end Children

section Overlay

variable {policy : OverlayPolicy} {existing incoming : Value} {entries layer : List (String × Value)}

theorem settle (kept : holds existing) (also : holds incoming) : holds (policy.settle existing incoming) := by
  unfold OverlayPolicy.settle
  split
  · rw [invariant.sequence_iff] at kept also ⊢
    exact List.forall_mem_append.2 ⟨kept, also⟩
  · split
    · exact also
    · exact kept

theorem overlayEntries
    (each : ∀ pair ∈ layer, ∀ existing, holds existing → holds (overlay policy existing pair.2))
    (also : ∀ pair ∈ layer, holds pair.2) (kept : OfEntries holds keys entries) :
    OfEntries holds keys (Value.overlayEntries policy entries layer) := by
  induction layer generalizing entries with
  | nil => exact kept
  | cons pair rest ih =>
    obtain ⟨laid, others⟩ := List.forall_mem_cons.1 each
    obtain ⟨first, later⟩ := List.forall_mem_cons.1 also
    have combined : holds (overlayOn policy (entries.lookup pair.1) pair.2) := by
      cases held : entries.lookup pair.1 with
      | none => exact first
      | some existing => exact laid existing (kept.2 _ (Entries.mem_of_lookup held))
    rw [overlayEntries_cons]
    exact ih others later (invariant.ofEntries_insert combined kept)

theorem overlay (policy : OverlayPolicy) (kept : holds existing) (also : holds incoming) :
    holds (overlay policy existing incoming) := by
  induction incoming using tree_induction generalizing existing with
  | mapping layer ih =>
    -- Two mappings are laid over one another pair by pair; all else is settled between the two sides.
    have parts := ((invariant.mapping_iff layer).1 also).2
    cases existing with
    | mapping entries =>
      have each : ∀ pair ∈ layer, ∀ existing, holds existing → holds (Value.overlay policy existing pair.2) :=
        fun pair member existing whole => ih pair member whole (parts pair member)
      have entriesKept := (invariant.mapping_iff entries).1 kept
      exact (invariant.mapping_iff _).2 (invariant.overlayEntries each parts entriesKept)
    | _ => exact invariant.settle kept also
  | _ => exact invariant.settle kept also

theorem mergeInto (context : MergeContext) (kept : holds existing) (also : holds incoming) :
    holds (mergeInto context existing incoming).data := by
  unfold DataLocator.mergeInto
  split
  · exact invariant.overlay context.policy kept also
  · exact kept
  · exact kept

end Overlay

end Invariant

end DataLocator.Value
