import DataLocator.Interchange.Datum
import DataLocator.Interchange.Schema
import Mathlib.Data.List.Forall2

/-! # Values through JSON

The way from a JSON tree to a value and back changes nothing (`toJson_ofJson`). So the way from a value to JSON and back
ends at its `jsonForm` (`ofJson_toJson`), where a second way ends too. A value is its own JSON form exactly if it holds
nothing that JSON has no form of its own for (`jsonForm_eq_self_iff`).

What is relied on of the library behind these ways is a structure of laws (`JsonLibrary.Lawful`). Under them a value that
is handed over as data makes the same tree (`JsonLibrary.Lawful.tree_toDatum`), and the library at hand keeps them
(`JsonLibrary.standard_lawful`).

All these ways are maps over items and over entries, so that each law is an induction with one case for a container.
-/

namespace DataLocator

section Maps

/-- A function on lists that treats the elements one by one is a map. -/
theorem eq_map_of_cons {α β : Type} {g : List α → List β} {f : α → β} (nil : g [] = [])
    (cons : ∀ item rest, g (item :: rest) = f item :: g rest) (items : List α) : g items = items.map f := by
  induction items with
  | nil => exact nil
  | cons item rest ih => rw [cons, ih, List.map_cons]

variable {α : Type} {f : α → α}

theorem map_eq_self_iff {items : List α} : items.map f = items ↔ ∀ item ∈ items, f item = item := by
  simpa using List.map_eq_map_iff (f := f) (g := id) (l := items)

theorem map_snd_eq_self_iff {entries : List (String × α)} :
    (entries.map fun pair => (pair.1, f pair.2)) = entries ↔ ∀ pair ∈ entries, f pair.2 = pair.2 := by
  rw [map_eq_self_iff]
  simp only [Prod.ext_iff, true_and]

end Maps

section Words

theorem toInt_toInt64 {n : UInt64} (small : n.toNat ≤ Int64.maxValue.toInt) : n.toInt64.toInt = n.toNat := by
  have within : 2 * n.toBitVec.toNat < 2 ^ 64 := by
    have top : Int64.maxValue.toInt = 2 ^ 63 - 1 := rfl
    have same : n.toBitVec.toNat = n.toNat := rfl
    omega
  exact BitVec.toInt_eq_toNat_of_lt within

theorem toNat_toUInt64 {n : Int64} (natural : ¬ n < 0) : n.toUInt64.toNat = n.toInt := by
  rw [Int64.lt_iff_toInt_lt, Int64.toInt_zero] at natural
  have word : n.toInt = if 2 * n.toUInt64.toNat < 2 ^ 64 then (n.toUInt64.toNat : Int) else n.toUInt64.toNat - 2 ^ 64 :=
    BitVec.toInt_eq_toNat_cond _
  have bound := n.toUInt64.toNat_lt
  split at word <;> omega

end Words

namespace Value

theorem itemsToJson_eq_map (items : List Value) : itemsToJson items = items.map toJson :=
  eq_map_of_cons rfl (fun _ _ => rfl) items

theorem entriesToJson_eq_map (entries : List (String × Value)) :
    entriesToJson entries = entries.map fun pair => (pair.1, pair.2.toJson) :=
  eq_map_of_cons rfl (fun _ _ => rfl) entries

theorem itemsOfJson_eq_map (items : List Json) : itemsOfJson items = items.map ofJson :=
  eq_map_of_cons rfl (fun _ _ => rfl) items

theorem entriesOfJson_eq_map (members : List (String × Json)) :
    entriesOfJson members = members.map fun pair => (pair.1, ofJson pair.2) :=
  eq_map_of_cons rfl (fun _ _ => rfl) members

theorem jsonFormItems_eq_map (items : List Value) : jsonFormItems items = items.map jsonForm :=
  eq_map_of_cons rfl (fun _ _ => rfl) items

theorem jsonFormEntries_eq_map (entries : List (String × Value)) :
    jsonFormEntries entries = entries.map fun pair => (pair.1, pair.2.jsonForm) :=
  eq_map_of_cons rfl (fun _ _ => rfl) entries

theorem itemsToData_eq_map (items : List Value) : itemsToData items = items.map toDatum :=
  eq_map_of_cons rfl (fun _ _ => rfl) items

theorem entriesToData_eq_map (entries : List (String × Value)) :
    entriesToData entries = entries.map fun pair => (.text pair.1, pair.2.toDatum) :=
  eq_map_of_cons rfl (fun _ _ => rfl) entries

section Numbers

/-- A natural has one number in JSON, whichever value holds it. -/
theorem toJson_ofUInt64 (n : UInt64) : (ofUInt64 n).toJson = .number (.natural n) := by
  unfold ofUInt64
  split
  · next small =>
    have natural : ¬ n.toInt64 < 0 := by
      rw [Int64.lt_iff_toInt_lt, toInt_toInt64 small, Int64.toInt_zero]
      omega
    rw [toJson, JsonNumber.ofInt64, dif_neg natural, UInt64.toUInt64_toInt64]
  · rfl

theorem ofJsonNumber_ofInt64 (n : Int64) : ofJsonNumber (JsonNumber.ofInt64 n) = integer n := by
  unfold JsonNumber.ofInt64
  split
  · rfl
  · next natural =>
    have small : n.toUInt64.toNat ≤ Int64.maxValue.toInt := toNat_toUInt64 natural ▸ n.toInt_le
    rw [ofJsonNumber, ofUInt64, if_pos small, Int64.toInt64_toUInt64]

theorem toJson_ofJsonNumber (n : JsonNumber) : (ofJsonNumber n).toJson = .number n := by
  cases n with
  | natural n => exact toJson_ofUInt64 n
  | negative n isNegative => rw [ofJsonNumber, toJson, JsonNumber.ofInt64, dif_pos isNegative]
  | float x isFinite => simp [ofJsonNumber, toJson, JsonNumber.ofFloat?, isFinite]

end Numbers

/-- The way from a JSON tree to a value and back changes nothing. -/
theorem toJson_ofJson (tree : Json) : (ofJson tree).toJson = tree := by
  induction tree using Json.tree_induction with
  | number n => exact toJson_ofJsonNumber n
  | array items ih =>
    rw [ofJson, toJson, itemsOfJson_eq_map, itemsToJson_eq_map, List.map_map]
    exact congrArg Json.array (map_eq_self_iff.2 ih)
  | object members ih =>
    rw [ofJson, toJson, entriesOfJson_eq_map, entriesToJson_eq_map, List.map_map]
    exact congrArg Json.object ((map_snd_eq_self_iff (f := fun tree => (ofJson tree).toJson)).2 ih)
  | _ => rfl

theorem entriesOfJson_entriesToJson {entries : List (String × Value)}
    (each : ∀ pair ∈ entries, ofJson pair.2.toJson = pair.2.jsonForm) :
    entriesOfJson (entriesToJson entries) = jsonFormEntries entries := by
  rw [entriesToJson_eq_map, entriesOfJson_eq_map, jsonFormEntries_eq_map, List.map_map]
  exact List.map_congr_left fun pair member => congrArg (Prod.mk pair.1) (each pair member)

/-- The way from a value to JSON and back ends at its JSON form. -/
theorem ofJson_toJson (value : Value) : ofJson value.toJson = value.jsonForm := by
  induction value using tree_induction with
  | integer n => exact ofJsonNumber_ofInt64 n
  | float x => cases finite : x.isFinite <;> simp [toJson, JsonNumber.ofFloat?, finite, ofJson, ofJsonNumber, jsonForm]
  | sequence items ih =>
    rw [toJson, ofJson, jsonForm, itemsToJson_eq_map, itemsOfJson_eq_map, jsonFormItems_eq_map, List.map_map]
    exact congrArg sequence (List.map_congr_left ih)
  | mapping entries ih => exact congrArg mapping (entriesOfJson_entriesToJson ih)
  | record typeName shape fields ih => exact congrArg mapping (entriesOfJson_entriesToJson ih)
  | _ => rfl

theorem jsonForm_jsonForm (value : Value) : value.jsonForm.jsonForm = value.jsonForm := by
  calc value.jsonForm.jsonForm
    _ = ofJson (ofJson value.toJson).toJson := by rw [ofJson_toJson, ofJson_toJson]
    _ = ofJson value.toJson := by rw [toJson_ofJson]
    _ = value.jsonForm := ofJson_toJson value

section Holds

/-- A value holds itself and all that its items, its entries or its fields hold. -/
inductive Holds : Value → Value → Prop
  | self (value : Value) : Holds value value
  | item {items : List Value} {item node : Value} (member : item ∈ items) (below : Holds item node) :
      Holds (sequence items) node
  | entry {entries : List (String × Value)} {pair : String × Value} {node : Value} (member : pair ∈ entries)
      (below : Holds pair.2 node) : Holds (mapping entries) node
  | field {typeName : String} {shape : Shape} {fields : List (String × Value)} {pair : String × Value} {node : Value}
      (member : pair ∈ fields) (below : Holds pair.2 node) : Holds (record typeName shape fields) node

/-- The values that JSON has no form of their own for. -/
inductive Formless : Value → Prop
  | record (typeName : String) (shape : Shape) (fields : List (String × Value)) : Formless (record typeName shape fields)
  | float {x : Binary64} (notFinite : x.isFinite = false) : Formless (float x)
  | unsigned {n : UInt64} (small : n.toNat ≤ Int64.maxValue.toInt) : Formless (unsigned n)

theorem formless_unsigned_iff {n : UInt64} : (unsigned n).Formless ↔ n.toNat ≤ Int64.maxValue.toInt := by
  constructor
  · rintro (_ | _ | small)
    exact small
  · exact .unsigned

theorem formless_float_iff {x : Binary64} : (float x).Formless ↔ x.isFinite = false := by
  constructor
  · rintro (_ | notFinite | _)
    exact notFinite
  · exact .float

theorem forall_holds_iff_of_leaf {value : Value} (leaf : ∀ node, value.Holds node → node = value) :
    (∀ node, value.Holds node → ¬ node.Formless) ↔ ¬ value.Formless := by
  constructor
  · intro clean
    exact clean value (.self value)
  · intro formed node holds
    rw [leaf node holds]
    exact formed

/-- A value is its own JSON form exactly if it holds nothing that JSON has no form of its own for. -/
theorem jsonForm_eq_self_iff (value : Value) :
    value.jsonForm = value ↔ ∀ node, value.Holds node → ¬ node.Formless := by
  induction value using tree_induction with
  | unsigned n =>
    rw [forall_holds_iff_of_leaf (by rintro _ ⟨⟩; rfl), formless_unsigned_iff]
    by_cases small : n.toNat ≤ Int64.maxValue.toInt <;> simp [jsonForm, ofUInt64, small]
  | float x =>
    rw [forall_holds_iff_of_leaf (by rintro _ ⟨⟩; rfl), formless_float_iff]
    cases finite : x.isFinite <;> simp [jsonForm, finite]
  | sequence items ih =>
    rw [jsonForm, jsonFormItems_eq_map, sequence.injEq, map_eq_self_iff]
    constructor
    · intro same node holds
      cases holds with
      | self => rintro ⟨⟩
      | item member below => exact (ih _ member).1 (same _ member) node below
    · intro clean item member
      exact (ih item member).2 fun node below => clean node (.item member below)
  | mapping entries ih =>
    rw [jsonForm, jsonFormEntries_eq_map, mapping.injEq, map_snd_eq_self_iff]
    constructor
    · intro same node holds
      cases holds with
      | self => rintro ⟨⟩
      | entry member below => exact (ih _ member).1 (same _ member) node below
    · intro clean pair member
      exact (ih pair member).2 fun node below => clean node (.entry member below)
  | record typeName shape fields ih =>
    exact iff_of_false (by simp [jsonForm]) fun clean => clean _ (.self _) (.record typeName shape fields)
  | _ =>
    refine iff_of_true rfl ?_
    rintro _ ⟨⟩ ⟨⟩

end Holds

end Value

open Value

namespace JsonLibrary

/-- What is relied on of a library: scalars are made the JSON of their kind, where a float that is not finite is null, a
sequence is made the array of its items, and a mapping with texts as keys the object of its pairs, each inserted behind
the other. A tree is handed over as it is. -/
structure Lawful (library : JsonLibrary) : Prop where
  unit : library.tree .unit = .ok .null
  bool : ∀ flag, library.tree (.bool flag) = .ok (.bool flag)
  signed : ∀ n, library.tree (.signed n) = .ok (.number (.ofInt64 n))
  unsigned : ∀ n, library.tree (.unsigned n) = .ok (.number (.natural n))
  finite : ∀ x isFinite, library.tree (.float x) = .ok (.number (.float x isFinite))
  notFinite : ∀ x, x.isFinite = false → library.tree (.float x) = .ok .null
  text : ∀ text, library.tree (.text text) = .ok (.string text)
  sequence : ∀ (items : List Datum) (trees : List Json),
    List.Forall₂ (fun item tree => library.tree item = .ok tree) items trees →
      library.tree (.sequence items) = .ok (.array trees)
  mapping : ∀ (pairs : List (String × Datum)) (members : List (String × Json)),
    List.Forall₂ (fun pair member => member.1 = pair.1 ∧ library.tree pair.2 = .ok member.2) pairs members →
      library.tree (.mapping (pairs.map fun pair => (.text pair.1, pair.2))) = .ok (.object (Entries.ofList members))
  reread : ∀ tree, library.reread tree = .ok tree

theorem itemsToJson_of_forall₂ {items : List Datum} {trees : List Json}
    (each : List.Forall₂ (fun item tree => item.toJson = .ok tree) items trees) :
    Datum.itemsToJson items = .ok trees := by
  induction each with
  | nil => rfl
  | cons first _ ih => simp only [Datum.itemsToJson, first, ih]

theorem pairsToJson_of_forall₂ {pairs : List (String × Datum)} {members : List (String × Json)}
    (each : List.Forall₂ (fun pair member => member.1 = pair.1 ∧ pair.2.toJson = .ok member.2) pairs members) :
    Datum.pairsToJson (pairs.map fun pair => (.text pair.1, pair.2)) = .ok members := by
  induction each with
  | nil => rfl
  | cons first _ ih =>
    obtain ⟨key, value⟩ := first
    simp only [List.map_cons, Datum.pairsToJson, Datum.keyText, value, ih, ← key]

/-- The laws hold of the library that values are exchanged through. -/
theorem standard_lawful : standard.Lawful where
  unit := rfl
  bool _ := rfl
  signed _ := rfl
  unsigned _ := rfl
  finite x isFinite := by simp [standard, Datum.toJson, JsonNumber.ofFloat?, isFinite]
  notFinite x other := by simp [standard, Datum.toJson, JsonNumber.ofFloat?, other]
  text _ := rfl
  sequence items trees each := by simp only [standard, Datum.toJson, itemsToJson_of_forall₂ each]
  mapping pairs members each := by simp only [standard, Datum.toJson, pairsToJson_of_forall₂ each]
  reread _ := rfl

namespace Lawful

variable {library : JsonLibrary} {value : Value} {entries : List (String × Value)}

/-- Entries that are handed over make an object, whose members are in the order of the entries. -/
theorem tree_entriesToData (lawful : library.Lawful) (ordered : Entries.Ordered entries)
    (each : ∀ pair ∈ entries, library.tree pair.2.toDatum = .ok pair.2.toJson) :
    library.tree (.mapping (entriesToData entries)) = .ok (.object (entriesToJson entries)) := by
  have keyed : entriesToData entries =
      (entries.map fun pair => (pair.1, pair.2.toDatum)).map fun pair => (.text pair.1, pair.2) := by
    rw [entriesToData_eq_map, List.map_map]
    rfl
  have made := lawful.mapping (entries.map fun pair => (pair.1, pair.2.toDatum))
    (entries.map fun pair => (pair.1, pair.2.toJson)) ?_
  · rw [keyed, made, entriesToJson_eq_map, Entries.ofList_of_ordered (ordered.map_snd toJson)]
  · rw [List.forall₂_map_left_iff, List.forall₂_map_right_iff, List.forall₂_same]
    exact fun pair member => ⟨rfl, each pair member⟩

/-- Handed over as data, a value makes the JSON tree that it makes itself. -/
theorem tree_toDatum (lawful : library.Lawful) (ordered : value.Ordered) :
    library.tree value.toDatum = .ok value.toJson := by
  induction value using tree_induction with
  | null => exact lawful.unit
  | bool flag => exact lawful.bool flag
  | integer n => exact lawful.signed n
  | unsigned n => exact lawful.unsigned n
  | string text => exact lawful.text text
  | float x =>
    cases finite : x.isFinite with
    | true => simp [toDatum, lawful.finite x finite, toJson, JsonNumber.ofFloat?, finite]
    | false => simp [toDatum, lawful.notFinite x finite, toJson, JsonNumber.ofFloat?, finite]
  | sequence items ih =>
    rw [Ordered, orderedItems_iff] at ordered
    rw [toDatum, itemsToData_eq_map, toJson, itemsToJson_eq_map]
    apply lawful.sequence
    rw [List.forall₂_map_left_iff, List.forall₂_map_right_iff, List.forall₂_same]
    exact fun item member => ih item member (ordered item member)
  | mapping entries ih =>
    rw [Ordered, orderedEntries_iff] at ordered
    exact lawful.tree_entriesToData ordered.1 fun pair member => ih pair member (ordered.2 pair member)
  | record typeName shape fields ih =>
    rw [Ordered, orderedEntries_iff] at ordered
    exact lawful.tree_entriesToData ordered.1 fun pair member => ih pair member (ordered.2 pair member)

theorem valueOf_toDatum (lawful : library.Lawful) (ordered : value.Ordered) :
    library.valueOf value.toDatum = .ok value.jsonForm := by
  rw [valueOf, lawful.tree_toDatum ordered, Except.map, value.ofJson_toJson]

theorem readAny_toJson (lawful : library.Lawful) (value : Value) :
    library.readAny value.toJson = .ok value.jsonForm := by
  rw [readAny, lawful.reread, Except.map, value.ofJson_toJson]

end Lawful

end JsonLibrary

/-- A JSON tree comes back from a value unchanged, and a value comes back from JSON in its JSON form, which is the value
itself unless it holds something that JSON has no form of its own for. Any lawful library makes the same tree of it when
it is handed over as data, and gives it out again, so that all ways to take a value from it give the JSON form; so does
the library that values are exchanged through. -/
theorem json_roundTrips :
    (∀ tree : Json, (Value.ofJson tree).toJson = tree) ∧
    ∀ value : Value,
      Value.ofJson value.toJson = value.jsonForm ∧ value.jsonForm.jsonForm = value.jsonForm ∧
      (value.jsonForm = value ↔ ∀ node, value.Holds node → ¬ node.Formless) ∧
      (∀ library : JsonLibrary, library.Lawful →
        library.readAny value.toJson = .ok value.jsonForm ∧
          (value.Ordered →
            library.tree value.toDatum = .ok value.toJson ∧ library.valueOf value.toDatum = .ok value.jsonForm)) ∧
      value.conform .any = .ok value.jsonForm ∧
      (value.Ordered → value.toDatum.toJson = .ok value.toJson ∧ Value.ofDatum value.toDatum = .ok value.jsonForm) := by
  refine ⟨Value.toJson_ofJson, fun value => ⟨value.ofJson_toJson, value.jsonForm_jsonForm, value.jsonForm_eq_self_iff,
    fun library lawful => ⟨lawful.readAny_toJson value, fun ordered => ?_⟩, ?_, fun ordered => ?_⟩⟩
  · exact ⟨lawful.tree_toDatum ordered, lawful.valueOf_toDatum ordered⟩
  · rw [Value.conform, Schema.read_any]
    exact JsonLibrary.standard_lawful.readAny_toJson value
  · exact ⟨JsonLibrary.standard_lawful.tree_toDatum ordered, JsonLibrary.standard_lawful.valueOf_toDatum ordered⟩

/-- A record comes back as a mapping, with a small integer in the signed range and with null in place of a float that is
not finite. -/
theorem json_roundTrips_record :
    let value : Value :=
      .record "Server" .closed [("host", .string "a"), ("port", .unsigned 80), ("weight", .float Binary64.nan)]
    let form : Value := .mapping [("host", .string "a"), ("port", .integer 80), ("weight", .null)]
    JsonLibrary.standard.Lawful ∧ value.Ordered ∧ JsonLibrary.standard.readAny value.toJson = .ok form ∧
      value.toDatum.toJson = .ok value.toJson ∧ Value.ofDatum value.toDatum = .ok form := by
  intro value form
  have lawful := JsonLibrary.standard_lawful
  have ordered : value.Ordered := ⟨by decide, trivial, trivial, trivial, trivial⟩
  obtain ⟨-, -, -, exchanged, -, -⟩ := json_roundTrips.2 value
  obtain ⟨reads, handed⟩ := exchanged JsonLibrary.standard lawful
  exact ⟨lawful, ordered, reads, handed ordered⟩

end DataLocator
