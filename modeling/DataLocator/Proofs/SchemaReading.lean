import DataLocator.Proofs.Invariants
import DataLocator.Proofs.JsonForm

/-! # What a schema reads

A schema puts together what it finds in a tree and its own fallbacks. So what it reads has every invariant that the
fallbacks have and that the value of the tree would have if it were taken as it is (`Schema.keeps_read`). The proof goes
down the schema as the reading does; a record is read member by member (`FieldReader.keeps_readRecord`).
-/

namespace DataLocator

section Traversal

variable {ε α β : Type}

theorem bind_eq_ok_iff {first : Except ε α} {next : α → Except ε β} {result : β} :
    (first >>= next) = .ok result ↔ ∃ middle, first = .ok middle ∧ next middle = .ok result := by
  cases first <;> simp [bind, Except.bind]

theorem map_eq_ok_iff {first : Except ε α} {f : α → β} {result : β} :
    first.map f = .ok result ↔ ∃ middle, first = .ok middle ∧ f middle = result := by
  cases first <;> simp [Except.map]

/-- What a traversal gives it gives item by item. -/
theorem forall₂_of_mapM {f : α → Except ε β} {items : List α} {results : List β} (ran : items.mapM f = .ok results) :
    List.Forall₂ (fun item result => f item = .ok result) items results := by
  induction items generalizing results with
  | nil =>
    obtain rfl := Except.ok.inj ran
    exact .nil
  | cons item rest ih =>
    rw [List.mapM_cons] at ran
    obtain ⟨first, atItem, ran⟩ := bind_eq_ok_iff.1 ran
    obtain ⟨later, behind, ran⟩ := bind_eq_ok_iff.1 ran
    obtain rfl := Except.ok.inj ran
    exact .cons atItem (ih behind)

theorem exists_mem_of_mapM {f : α → Except ε β} {items : List α} {results : List β}
    (ran : items.mapM f = .ok results) : ∀ result ∈ results, ∃ item ∈ items, f item = .ok result := by
  intro result member
  obtain ⟨index, bound, rfl⟩ := List.mem_iff_getElem.1 member
  have each := forall₂_of_mapM ran
  have inside : index < items.length := each.length_eq ▸ bound
  exact ⟨items[index], List.getElem_mem inside, each.get inside bound⟩

end Traversal

namespace Value.Invariant

variable {holds : Value → Prop} {keys : List String → Prop} (invariant : Invariant holds keys)
include invariant

theorem array_iff {items : List Json} : holds (ofJson (.array items)) ↔ ∀ tree ∈ items, holds (ofJson tree) := by
  rw [ofJson, itemsOfJson_eq_map, invariant.sequence_iff, List.forall_mem_map]

theorem object_iff {members : List (String × Json)} :
    holds (ofJson (.object members)) ↔ keys (members.map Prod.fst) ∧ ∀ member ∈ members, holds (ofJson member.2) := by
  have names : (members.map fun member => (member.1, ofJson member.2)).map Prod.fst = members.map Prod.fst := by
    rw [List.map_map]
    rfl
  rw [ofJson, entriesOfJson_eq_map, invariant.mapping_iff, OfEntries, names, List.forall_mem_map]

end Value.Invariant

open Value

variable {holds : Value → Prop} {keys : List String → Prop}

namespace FieldReader

/-- A field whose fallback has a property, and which reads values that have it from trees whose values have it. -/
structure Keeps (holds : Value → Prop) (field : FieldReader) : Prop where
  fallback : ∀ value ∈ field.fallback?, holds value
  reads : ∀ tree value, holds (ofJson tree) → field.read tree = .ok value → holds value

variable {fields : List FieldReader}

theorem keeps_readMembers (keeps : ∀ field ∈ fields, field.Keeps holds) {members : List (String × Json)}
    (given : ∀ member ∈ members, holds (ofJson member.2)) {values : List (String × Value)}
    (read : readMembers fields members = .ok values) : ∀ pair ∈ values, holds pair.2 := by
  induction members generalizing values with
  | nil =>
    obtain rfl := Except.ok.inj read
    simp
  | cons member rest ih =>
    obtain ⟨first, others⟩ := List.forall_mem_cons.1 given
    unfold readMembers at read
    split at read
    · exact ih others read
    · next field found =>
      obtain ⟨value, atMember, read⟩ := bind_eq_ok_iff.1 read
      obtain ⟨later, behind, read⟩ := bind_eq_ok_iff.1 read
      obtain rfl := Except.ok.inj read
      have known := keeps field (List.mem_of_find?_eq_some found)
      exact List.forall_mem_cons.2 ⟨known.reads _ value first atMember, ih others behind⟩

theorem Keeps.complete {field : FieldReader} (keeps : field.Keeps holds) {given : List (String × Value)}
    (each : ∀ pair ∈ given, holds pair.2) {pair : String × Value} (completed : field.complete given = .ok pair) :
    holds pair.2 := by
  unfold FieldReader.complete at completed
  split at completed
  · next value held =>
    obtain rfl := Except.ok.inj completed
    exact each _ (Entries.mem_of_lookup held)
  · next value _ fallback =>
    obtain rfl := Except.ok.inj completed
    exact keeps.fallback value fallback
  · contradiction

theorem keeps_readItems {expected : String} {index : Nat} (keeps : ∀ field ∈ fields, field.Keeps holds)
    {items : List Json} (given : ∀ tree ∈ items, holds (ofJson tree)) {values : List (String × Value)}
    (read : readItems expected index fields items = .ok values) : ∀ pair ∈ values, holds pair.2 := by
  induction fields generalizing index items values with
  | nil =>
    cases items with
    | nil =>
      obtain rfl := Except.ok.inj read
      simp
    | cons tree extra => contradiction
  | cons field rest ih =>
    obtain ⟨first, others⟩ := List.forall_mem_cons.1 keeps
    cases items with
    | nil =>
      unfold readItems at read
      split at read
      · contradiction
      · next value fallback =>
        obtain ⟨later, behind, read⟩ := bind_eq_ok_iff.1 read
        obtain rfl := Except.ok.inj read
        exact List.forall_mem_cons.2 ⟨first.fallback value fallback, ih others given behind⟩
    | cons tree trees =>
      obtain ⟨front, back⟩ := List.forall_mem_cons.1 given
      obtain ⟨value, atItem, read⟩ := bind_eq_ok_iff.1 read
      obtain ⟨later, behind, read⟩ := bind_eq_ok_iff.1 read
      obtain rfl := Except.ok.inj read
      exact List.forall_mem_cons.2 ⟨first.reads tree value front atItem, ih others back behind⟩

theorem keeps_readRecord (invariant : Invariant holds keys) (keeps : ∀ field ∈ fields, field.Keeps holds)
    {name : String} {tree : Json} (given : holds (ofJson tree)) {value : Value}
    (read : readRecord name fields tree = .ok value) : holds value := by
  have collected : ∃ values, value = record name .closed (Entries.ofList values) ∧ ∀ pair ∈ values, holds pair.2 := by
    unfold readRecord at read
    cases tree with
    | object members =>
      obtain ⟨found, visited, read⟩ := bind_eq_ok_iff.1 read
      obtain ⟨values, completed, read⟩ := bind_eq_ok_iff.1 read
      have each := keeps_readMembers keeps (invariant.object_iff.1 given).2 visited
      refine ⟨values, (Except.ok.inj read).symm, fun pair member => ?_⟩
      obtain ⟨field, among, completes⟩ := exists_mem_of_mapM completed pair member
      exact (keeps field among).complete each completes
    | array items =>
      obtain ⟨values, visited, read⟩ := bind_eq_ok_iff.1 read
      exact ⟨values, (Except.ok.inj read).symm, keeps_readItems keeps (invariant.array_iff.1 given) visited⟩
    | _ => contradiction
  obtain ⟨values, rfl, each⟩ := collected
  exact (invariant.record_iff _ _ _).2 (invariant.ofEntries_ofList each)

end FieldReader

namespace Schema

mutual

/-- Every fallback in the schema has the property. -/
def Fallbacks (holds : Value → Prop) : Schema → Prop
  | optional inner => inner.Fallbacks holds
  | list item => item.Fallbacks holds
  | map item => item.Fallbacks holds
  | record _ fields => FieldFallbacks holds fields
  | _ => True

def FieldFallbacks (holds : Value → Prop) : List (String × Option Value × Schema) → Prop
  | [] => True
  | (_, fallback?, schema) :: rest =>
    (∀ value ∈ fallback?, holds value) ∧ schema.Fallbacks holds ∧ FieldFallbacks holds rest

end

theorem keeps_readInteger (invariant : Invariant holds keys) {expected : String} {low high : Int} {tree : Json}
    {value : Value} (read : readInteger expected low high tree = .ok value) : holds value := by
  have chosen : ∃ z, ofInt? z = some value := by
    unfold readInteger at read
    split at read <;> grind
  obtain ⟨z, found⟩ := chosen
  exact invariant.of_ofInt? found

theorem keeps_readFloat (invariant : Invariant holds keys) {tree : Json} {value : Value}
    (read : readFloat tree = .ok value) : holds value := by
  have widened : ∃ x, value = .float x := by
    unfold readFloat at read
    split at read <;> grind
  obtain ⟨x, rfl⟩ := widened
  exact invariant.float x

-- The recursion is the one that reads: by the parts of a schema, and by the fields of a record.
mutual

/-- What is read by a schema has the invariant, if the fallbacks have it and the value of the tree has. -/
theorem keeps_read (invariant : Invariant holds keys) : ∀ schema : Schema, schema.Fallbacks holds →
    ∀ tree value, holds (ofJson tree) → schema.read tree = .ok value → holds value
  | unsigned bits, _, tree, value, _, read => keeps_readInteger invariant read
  | signed bits, _, tree, value, _, read => keeps_readInteger invariant read
  | float, _, tree, value, _, read => keeps_readFloat invariant read
  | any, _, tree, value, given, read => by
    rw [read_any] at read
    obtain ⟨same, reread, rfl⟩ := map_eq_ok_iff.1 read
    obtain rfl := Except.ok.inj reread
    exact given
  | record name fields, fallbacks, tree, value, given, read =>
    FieldReader.keeps_readRecord invariant (keeps_fieldReaders invariant fields fallbacks) given read
  | bool, _, tree, value, _, read => by
    cases tree with
    | bool flag =>
      obtain rfl := Except.ok.inj read
      exact invariant.bool flag
    | _ => contradiction
  | string, _, tree, value, _, read => by
    cases tree with
    | string text =>
      obtain rfl := Except.ok.inj read
      exact invariant.string text
    | _ => contradiction
  | unit, _, tree, value, _, read => by
    cases tree with
    | null =>
      obtain rfl := Except.ok.inj read
      exact invariant.null
    | _ => contradiction
  | optional inner, fallbacks, tree, value, given, read => by
    cases tree with
    | null =>
      obtain rfl := Except.ok.inj read
      exact invariant.null
    | _ => exact keeps_read invariant inner fallbacks _ value given read
  | list item, fallbacks, tree, value, given, read => by
    cases tree with
    | array items =>
      obtain ⟨results, ran, rfl⟩ := map_eq_ok_iff.1 read
      refine (invariant.sequence_iff results).2 fun result member => ?_
      obtain ⟨tree, among, gives⟩ := exists_mem_of_mapM ran result member
      exact keeps_read invariant item fallbacks tree result (invariant.array_iff.1 given tree among) gives
    | _ => contradiction
  | map item, fallbacks, tree, value, given, read => by
    cases tree with
    | object members =>
      obtain ⟨results, ran, rfl⟩ := map_eq_ok_iff.1 read
      obtain ⟨ordered, parts⟩ := invariant.object_iff.1 given
      -- The members are read one by one, so that the keys are those of the object.
      have names : List.Forall₂ (fun name read => name = read) (members.map Prod.fst) (results.map Prod.fst) := by
        rw [List.forall₂_map_left_iff, List.forall₂_map_right_iff]
        refine (forall₂_of_mapM ran).imp fun member pair reads => ?_
        obtain ⟨result, -, rfl⟩ := map_eq_ok_iff.1 reads
        rfl
      rw [List.forall₂_eq_eq_eq] at names
      refine (invariant.mapping_iff results).2 ⟨names ▸ ordered, fun pair among => ?_⟩
      obtain ⟨member, held, reads⟩ := exists_mem_of_mapM ran pair among
      obtain ⟨result, gives, rfl⟩ := map_eq_ok_iff.1 reads
      exact keeps_read invariant item fallbacks member.2 result (parts member held) gives
    | _ => contradiction

theorem keeps_fieldReaders (invariant : Invariant holds keys) : ∀ fields, FieldFallbacks holds fields →
    ∀ field ∈ fieldReaders fields, field.Keeps holds
  | [], _ => by simp [fieldReaders]
  | (name, fallback?, schema) :: rest, ⟨fallback, inner, others⟩ =>
    List.forall_mem_cons.2
      ⟨⟨fallback, keeps_read invariant schema inner⟩, keeps_fieldReaders invariant rest others⟩

end

end Schema

end DataLocator
