import DataLocator.Proofs.JsonForm
import DataLocator.Proofs.Putting

/-! # Dotted texts and JSON forms

A segment of a dotted text is an item where there are items and an attribute where there are attributes. So it does not
tell a record from the mapping of its fields, which is what the JSON form has in its place: the segment finds the JSON
form of the child (`get_segment_jsonForm`), and a store through it that succeeds does the same in the JSON form
(`takes_jsonForm`, `put_jsonForm`). Over a whole text, loads and stores see the JSON form of what they see in the data
(`dotted_sees_jsonForm`).

A store into the data may still fail where the one into its JSON form succeeds, since a mapping takes every key and a
record does not.
-/

namespace DataLocator

open Value

/-- The selector of the same child in the JSON form of its container: a field of a record is a key there. -/
def Selector.jsonForm : Selector → Selector
  | field name => key name
  | other => other

namespace Value

/-- The selectors of a container's own kind. -/
inductive HasPlace : Value → Selector → Prop
  | key (entries : List (String × Value)) (name : String) : HasPlace (mapping entries) (.key name)
  | index (items : List Value) (position : Nat) : HasPlace (sequence items) (.index position)
  | field (typeName : String) (shape : Shape) (fields : List (String × Value)) (name : String) :
    HasPlace (record typeName shape fields) (.field name)

section Container

variable {node : Value} {place : Selector} {name : String}

theorem jsonForm_sequence (items : List Value) : (sequence items).jsonForm = sequence (items.map jsonForm) := by
  rw [jsonForm, jsonFormItems_eq_map]

theorem jsonForm_mapping (entries : List (String × Value)) :
    (mapping entries).jsonForm = mapping (entries.map fun pair => (pair.1, pair.2.jsonForm)) := by
  rw [jsonForm, jsonFormEntries_eq_map]

theorem jsonForm_record (typeName : String) (shape : Shape) (fields : List (String × Value)) :
    (record typeName shape fields).jsonForm = mapping (fields.map fun pair => (pair.1, pair.2.jsonForm)) := by
  rw [jsonForm, jsonFormEntries_eq_map]

theorem HasPlace.child?_jsonForm (has : node.HasPlace place) :
    node.jsonForm.child? place.jsonForm = (node.child? place).map jsonForm := by
  cases has with
  | key entries name =>
    rw [jsonForm_mapping]
    exact Entries.lookup_map_snd jsonForm name entries
  | index items position =>
    rw [jsonForm_sequence]
    exact List.getElem?_map
  | field typeName shape fields name =>
    rw [jsonForm_record]
    exact Entries.lookup_map_snd jsonForm name fields

theorem HasPlace.setChild_jsonForm (has : node.HasPlace place) (child : Value) :
    (node.setChild place child).jsonForm = node.jsonForm.setChild place.jsonForm child.jsonForm := by
  cases has with
  | key entries name =>
    rw [setChild, jsonForm_mapping, jsonForm_mapping, ← Entries.insert_map_snd]
    rfl
  | index items position =>
    rw [setChild, jsonForm_sequence, jsonForm_sequence, List.map_set]
    rfl
  | field typeName shape fields name =>
    rw [setChild, jsonForm_record, jsonForm_record, ← Entries.insert_map_snd]
    rfl

theorem HasPlace.childOrEmpty_jsonForm (has : node.HasPlace place) :
    node.jsonForm.childOrEmpty place.jsonForm = (node.childOrEmpty place).jsonForm := by
  rw [childOrEmpty, has.child?_jsonForm, childOrEmpty]
  cases node.child? place <;> rfl

theorem accepts_jsonForm (accepted : node.accepts place = true) :
    node.jsonForm.accepts place.jsonForm = true := by
  cases node <;> cases place <;>
    simp_all [accepts, jsonForm_mapping, jsonForm_sequence, jsonForm_record, Selector.jsonForm]

end Container

section Segment

variable {node : Value} {request : Request} {place : Selector} {name : String} {failure : LookupFailure}

/-- A segment selects the same child in the JSON form. -/
theorem select_segment_jsonForm (selected : node.select request (.segment name) = .ok place) :
    node.HasPlace place ∧ node.jsonForm.select request (.segment name) = .ok place.jsonForm := by
  cases node with
  | mapping entries =>
    obtain rfl : Selector.key name = place := Except.ok.inj selected
    rw [jsonForm_mapping]
    exact ⟨.key entries name, rfl⟩
  | sequence items =>
    rw [jsonForm_sequence]
    cases index : (Key.name name).index? with
    | none => simp [select, selectItem, hasItems, index] at selected
    | some position =>
      simp only [select, selectItem, hasItems, index, ↓reduceIte, Except.ok.injEq] at selected ⊢
      subst selected
      exact ⟨.index items position.toNat, rfl⟩
  | record typeName shape fields =>
    obtain rfl : Selector.field name = place := Except.ok.inj selected
    rw [jsonForm_record]
    exact ⟨.field typeName shape fields name, rfl⟩
  | _ => simp [select, hasItems, selectAttribute, hasAttributes] at selected

/-- A segment that selects nothing selects nothing in the JSON form. -/
theorem refuses_segment_jsonForm (refused : node.select request (.segment name) = .error failure) :
    ∃ other, node.jsonForm.select request (.segment name) = .error other := by
  cases node with
  | mapping entries => contradiction
  | record typeName shape fields => contradiction
  | sequence items =>
    rw [jsonForm_sequence]
    cases index : (Key.name name).index? with
    | none => exact ⟨.unsupported "sequence" .nonNumericKey, by simp [select, selectItem, hasItems, index, typeName]⟩
    | some position => simp [select, selectItem, hasItems, index] at refused
  -- The form of a number may be another leaf, and no leaf has children.
  | unsigned n =>
    rw [jsonForm, ofUInt64]
    split <;> exact ⟨_, rfl⟩
  | float x =>
    rw [jsonForm]
    split <;> exact ⟨_, rfl⟩
  | _ => exact ⟨_, rfl⟩

/-- A segment finds the JSON form of the child in the JSON form of its container, and nothing where there is none. -/
theorem get_segment_jsonForm (node : Value) (name : String) :
    (node.jsonForm.get (.segment name)).toOption = (node.get (.segment name)).toOption.map jsonForm := by
  cases selected : node.select .itemAccess (.segment name) with
  | error failure =>
    obtain ⟨other, refused⟩ := refuses_segment_jsonForm selected
    rw [get_of_select_eq_error selected, get_of_select_eq_error refused]
    rfl
  | ok place =>
    obtain ⟨has, also⟩ := select_segment_jsonForm selected
    have child := has.child?_jsonForm
    cases held : node.child? place with
    | none =>
      rw [held, Option.map_none] at child
      rw [get_of_child?_eq_none selected held, get_of_child?_eq_none also child]
      rfl
    | some found =>
      rw [held, Option.map_some] at child
      rw [get_eq_ok_iff.2 ⟨place, selected, held⟩, get_eq_ok_iff.2 ⟨_, also, child⟩]
      rfl

theorem slot?_jsonForm (slot : node.slot? (.segment name) = some place) :
    node.HasPlace place ∧ node.jsonForm.slot? (.segment name) = some place.jsonForm := by
  obtain ⟨selected, accepted⟩ := slot?_eq_some_iff.1 slot
  obtain ⟨has, also⟩ := select_segment_jsonForm selected
  exact ⟨has, slot?_eq_some_iff.2 ⟨also, accepts_jsonForm accepted⟩⟩

end Segment

section Segments

variable {data : Value} {names : List String}

/-- Segments lead through the JSON form to the JSON form of what they find. -/
theorem walk_jsonForm (names : List String) (data : Value) :
    (data.jsonForm.walk (names.map Hop.segment)).toOption =
      (data.walk (names.map Hop.segment)).toOption.map jsonForm := by
  induction names generalizing data with
  | nil => rfl
  | cons name rest ih =>
    rw [List.map_cons, toOption_walk_cons, toOption_walk_cons, get_segment_jsonForm, Option.bind_map, Option.map_bind]
    exact congrArg _ (funext fun child => ih child)

/-- What can be stored through segments can be stored in the JSON form. -/
theorem takes_jsonForm (taken : data.Takes (names.map Hop.segment)) :
    data.jsonForm.Takes (names.map Hop.segment) := by
  induction names generalizing data with
  | nil => trivial
  | cons name rest ih =>
    obtain ⟨place, slot, makes, below⟩ := taken
    obtain ⟨has, also⟩ := slot?_jsonForm slot
    refine ⟨place.jsonForm, also, fun missing more => ?_, ?_⟩
    · rw [has.child?_jsonForm, Option.map_eq_none_iff] at missing
      obtain ⟨entries, rfl⟩ := makes missing more
      exact ⟨_, jsonForm_mapping entries⟩
    · rw [has.childOrEmpty_jsonForm]
      exact ih below

/-- A value put at the end of segments is put there in the JSON form too. -/
theorem put_jsonForm (taken : data.Takes (names.map Hop.segment)) (value : Value) :
    (data.put (names.map Hop.segment) value).jsonForm = data.jsonForm.put (names.map Hop.segment) value.jsonForm := by
  induction names generalizing data with
  | nil => rfl
  | cons name rest ih =>
    obtain ⟨place, slot, -, below⟩ := taken
    obtain ⟨has, also⟩ := slot?_jsonForm slot
    rw [List.map_cons, put_cons_of_slot slot, put_cons_of_slot also, has.setChild_jsonForm, ih below,
      has.childOrEmpty_jsonForm]

end Segments

end Value

/-- A load through a dotted text finds in the JSON form of the data the JSON form of what it finds in the data, and
nothing where it finds nothing. A store through the text that succeeds also succeeds in the JSON form of the data with
the JSON form of the value, and leaves the JSON form of what it leaves in the data. -/
theorem dotted_sees_jsonForm (data : Value) (text : String) :
    let form := fun value : Value => Value.ofJson value.toJson
    (match (load data (.ofPath .source text)).result with
      | .ok .notPresent => (load (form data) (.ofPath .source text)).result = .ok .notPresent
      | .ok (.present found) => (load (form data) (.ofPath .source text)).result = .ok (.present (form found))
      | .error _ => False) ∧
    ∀ value context, (store data (.ofPath .target text) (.present value) context).result = .ok () →
      (store (form data) (.ofPath .target text) (.present (form value)) context).result = .ok () ∧
        (store (form data) (.ofPath .target text) (.present (form value)) context).data =
          form (store data (.ofPath .target text) (.present value) context).data := by
  intro form
  have isForm (value : Value) : form value = value.jsonForm := value.ofJson_toJson
  have source : Locator.ofPath .source text = .ofHops .source (Locator.hops text) := Locator.ofPath_eq ..
  have target : Locator.ofPath .target text = .ofHops .target (Locator.hops text) := Locator.ofPath_eq ..
  simp only [isForm, source, target]
  constructor
  · have walked := walk_jsonForm (Text.segments text) data
    rw [load_ofHops, load_ofHops, Locator.hops, walked]
    cases (data.walk ((Text.segments text).map Hop.segment)).toOption <;> rfl
  · intro value context stored
    obtain ⟨nonempty, taken⟩ := store_ofHops_eq_ok_iff.1 stored
    have succeeds :
        (store data.jsonForm (.ofHops .target (Locator.hops text)) (.present value.jsonForm) context).result = .ok () :=
      store_ofHops_eq_ok_iff.2 ⟨nonempty, takes_jsonForm taken⟩
    refine ⟨succeeds, ?_⟩
    rw [store_ofHops_data succeeds, store_ofHops_data stored]
    exact (put_jsonForm taken value).symm

/-- A float that is not finite is stored in a record inside a record, and null in the mapping inside a mapping. -/
theorem dotted_sees_jsonForm_record :
    let server (fields : List (String × Value)) : Value :=
      .record "App" .closed [("server", .record "Server" .extensible fields)]
    let data := server [("port", .unsigned 80)]
    let form : Value := .mapping [("server", .mapping [("port", .integer 80)])]
    let left := store form (.ofPath .target "server.weight") (.present .null) none
    (store data (.ofPath .target "server.weight") (.present (.float Binary64.nan)) none).result = .ok () ∧
      Value.ofJson data.toJson = form ∧ left.result = .ok () ∧
      left.data = Value.ofJson (server [("port", .unsigned 80), ("weight", .float Binary64.nan)]).toJson := by
  intro server data form left
  have stored : (store data (.ofPath .target "server.weight") (.present (.float Binary64.nan)) none).result = .ok () :=
    rfl
  obtain ⟨succeeds, same⟩ := (dotted_sees_jsonForm data "server.weight").2 _ _ stored
  exact ⟨stored, rfl, succeeds, same⟩

end DataLocator
