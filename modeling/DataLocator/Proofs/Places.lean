import DataLocator.Access

/-! # Hops and places

Seen by places the accesses of the containers are one. `select` finds the selector that a hop means in a container,
`visit` the child that is there, and `assign` puts another in its place. A hop gets the child that it visits (`get_eq`),
and it sets what it assigns, where a refusal leaves the container alone (`set_eq`). The three agree on the selector, so
what was assigned is what is found (`get_of_assign`).
-/

namespace DataLocator

namespace Value

/-- Are the children of the value items, found by key or index? -/
def hasItems : Value → Bool
  | sequence _ | mapping _ => true
  | _ => false

/-- Are the children of the value attributes, found by name? -/
def hasAttributes : Value → Bool
  | record .. => true
  | _ => false

/-- The selector of an item. The request is what a value without items is said not to support. -/
def selectItem (request : Request) (container : Value) (key : Key) : Except LookupFailure Selector :=
  match container with
  | mapping _ => .ok (.key key.text)
  | sequence _ =>
    match key.index? with
    | some position => .ok (.index position.toNat)
    | none => .error (.unsupported container.typeName .nonNumericKey)
  | _ => .error (.unsupported container.typeName request)

def selectAttribute (container : Value) (name : String) : Except LookupFailure Selector :=
  if container.hasAttributes then .ok (.field name) else .error (.attributeNotFound container.typeName name)

/-- The selector that a hop means in the container, if it means one there. -/
def select (request : Request) (container : Value) : Hop → Except LookupFailure Selector
  | .item key => container.selectItem request key
  | .attr name => container.selectAttribute name
  | .segment name =>
    if container.hasItems then container.selectItem request (.name name) else container.selectAttribute name

/-- Why the container has no child at a selector of its own kind. -/
def absence (container : Value) : Selector → LookupFailure
  | .key name => .missingKey name
  | .index position =>
    match container with
    | sequence items => .indexOutOfRange position items.length
    | _ => .indexOutOfRange position 0
  | .field name => .attributeNotFound container.typeName name

/-- The child that a hop names, with its place. -/
def visit (container : Value) (hop : Hop) : Except LookupFailure Focus :=
  match container.select .itemAccess hop with
  | .error failure => .error failure
  | .ok place =>
    match container.child? place with
    | some child => .ok ⟨container, place, child⟩
    | none => .error (container.absence place)

/-- The container with the child that a hop names assigned. Mappings and extensible records take new children,
sequences and closed records do not. -/
def assign (container : Value) (hop : Hop) (child : Value) : Except LookupFailure Value :=
  match container.select .itemAssignment hop with
  | .error failure => .error failure
  | .ok place =>
    if container.accepts place then .ok (container.setChild place child) else .error (container.absence place)

end Value

/-- What an assignment leaves when it leaves the container alone where it fails. -/
def Assigned.ofExcept (container : Value) : Except LookupFailure Value → Assigned
  | .ok updated => { container := updated, result := .ok () }
  | .error failure => { container, result := .error failure }

section Containers

variable {entries : List (String × Value)} {items : List Value} {r : Record} {key : Key} {name : String}

theorem Mapping.get_eq_visit : Mapping.get entries key = (Mapping.visit entries key).map Focus.child := by
  unfold Mapping.get Mapping.visit
  cases entries.lookup key.text <;> rfl

theorem Sequence.get_eq_visit : Sequence.get items key = (Sequence.visit items key).map Focus.child := by
  unfold Sequence.get Sequence.visit
  cases Sequence.index key with
  | error failure => rfl
  | ok position => cases held : items[position]? <;> simp [held, Except.map]

theorem Record.get_eq_visit : r.get name = (r.visit name).map Focus.child := by
  unfold Record.get Record.visit Record.field?
  cases r.fields.lookup name <;> rfl

theorem Mapping.visit_eq : Mapping.visit entries key = (Value.mapping entries).visit (.item key) := by
  cases held : entries.lookup key.text <;>
    simp [Mapping.visit, Value.visit, Value.select, Value.selectItem, Value.child?, Value.absence, held]

theorem Sequence.visit_eq : Sequence.visit items key = (Value.sequence items).visit (.item key) := by
  simp only [Sequence.visit, Sequence.index, Value.visit, Value.select, Value.selectItem]
  cases key.index? with
  | none => rfl
  | some position => cases held : items[position.toNat]? <;> simp [Value.child?, Value.absence, held]

theorem Record.visit_eq : r.visit name = r.toValue.visit (.attr name) := by
  cases held : r.fields.lookup name <;>
    simp [Record.visit, Record.toValue, Value.visit, Value.select, Value.selectAttribute, Value.hasAttributes,
      Value.child?, Value.absence, Value.typeName, held]

theorem Mapping.set_eq (child : Value) :
    Mapping.set entries key child = .ofExcept (.mapping entries) ((Value.mapping entries).assign (.item key) child) :=
  rfl

/-- A sequence takes a child at the indices that it has. -/
theorem Sequence.set_eq (child : Value) :
    Sequence.set items key child =
      .ofExcept (.sequence items) ((Value.sequence items).assign (.item key) child) := by
  simp only [Sequence.set, Sequence.visit, Sequence.index, Value.assign, Value.select, Value.selectItem]
  cases key.index? with
  | none => rfl
  | some position =>
    by_cases bound : position.toNat < items.length
    · simp [bound, Value.accepts, Assigned.ofExcept, Focus.refill, Value.replaceChild, Value.setChild]
    · simp [bound, Value.accepts, Assigned.ofExcept, Value.absence]

/-- A record takes a child as a field that it has, and if it is extensible as any other. -/
theorem Record.set_eq (child : Value) :
    r.set name child = .ofExcept r.toValue (r.toValue.assign (.attr name) child) := by
  have decides : r.toValue.assign (.attr name) child =
      if r.shape == .extensible || r.hasField name then .ok (r.withField name child).toValue
      else .error (r.missing name) := rfl
  rw [decides, Record.set]
  cases r.shape <;> cases r.hasField name <;> rfl

end Containers

/-- An access to a container goes to the places that the hops of its names mean there: it visits the children at those
places, gets what it visits, and sets what an assignment sets, which leaves the container alone where it fails. -/
structure Access.Serves {Name : Type} (access : Access Name) (container : Value) (hop : Name → Hop) : Prop where
  visit_eq : ∀ name, access.visit name = container.visit (hop name)
  get_eq : ∀ name, access.get name = (access.visit name).map Focus.child
  set_eq : ∀ name child, access.set name child = .ofExcept container (container.assign (hop name) child)

theorem Mapping.serves (entries : List (String × Value)) : (access entries).Serves (.mapping entries) .item where
  visit_eq _ := visit_eq
  get_eq _ := get_eq_visit
  set_eq _ := set_eq

theorem Sequence.serves (items : List Value) : (access items).Serves (.sequence items) .item where
  visit_eq _ := visit_eq
  get_eq _ := get_eq_visit
  set_eq _ := set_eq

theorem Record.serves (r : Record) : r.access.Serves r.toValue .attr where
  visit_eq _ := visit_eq
  get_eq _ := get_eq_visit
  set_eq _ := set_eq

namespace Value

variable {container : Value}

theorem serves_of_items? {items : Access Key} (given : container.items? = some items) :
    items.Serves container .item := by
  cases container with
  | mapping entries =>
    obtain rfl := Option.some.inj given
    exact Mapping.serves entries
  | sequence elements =>
    obtain rfl := Option.some.inj given
    exact Sequence.serves elements
  | _ => contradiction

theorem serves_of_attributes? {attributes : Access String} (given : container.attributes? = some attributes) :
    attributes.Serves container .attr := by
  cases container with
  | record typeName shape fields =>
    obtain rfl := Option.some.inj given
    exact Record.serves ⟨typeName, shape, fields⟩
  | _ => contradiction

theorem visit_of_no_items {key : Key} (lacks : container.items? = none) :
    container.visit (.item key) = .error (.unsupported container.typeName .itemAccess) := by
  cases container with
  | mapping entries => contradiction
  | sequence items => contradiction
  | _ => rfl

theorem visit_of_no_attributes {name : String} (lacks : container.attributes? = none) :
    container.visit (.attr name) = .error (.attributeNotFound container.typeName name) := by
  cases container with
  | record typeName shape fields => contradiction
  | _ => rfl

theorem assign_of_no_items {key : Key} (lacks : container.items? = none) (child : Value) :
    container.assign (.item key) child = .error (.unsupported container.typeName .itemAssignment) := by
  cases container with
  | mapping entries => contradiction
  | sequence items => contradiction
  | _ => rfl

theorem assign_of_no_attributes {name : String} (lacks : container.attributes? = none) (child : Value) :
    container.assign (.attr name) child = .error (.attributeNotFound container.typeName name) := by
  cases container with
  | record typeName shape fields => contradiction
  | _ => rfl

/-- A segment is an item of what has items, and an attribute of all else. -/
theorem visit_segment (container : Value) (name : String) :
    container.visit (.segment name) =
      if container.items?.isSome then container.visit (.item (.name name)) else container.visit (.attr name) := by
  cases container <;> rfl

theorem assign_segment (container : Value) (name : String) (child : Value) :
    container.assign (.segment name) child =
      if container.items?.isSome then container.assign (.item (.name name)) child
      else container.assign (.attr name) child := by
  cases container <;> rfl

theorem getItem_eq (container : Value) (key : Key) :
    container.getItem key = (container.visit (.item key)).map Focus.child := by
  unfold getItem
  cases given : container.items? with
  | some items =>
    have serves := serves_of_items? given
    simp only [serves.get_eq, serves.visit_eq]
  | none =>
    rw [visit_of_no_items given]
    rfl

theorem getAttribute_eq (container : Value) (name : String) :
    container.getAttribute name = (container.visit (.attr name)).map Focus.child := by
  unfold getAttribute
  cases given : container.attributes? with
  | some attributes =>
    have serves := serves_of_attributes? given
    simp only [serves.get_eq, serves.visit_eq]
  | none =>
    rw [visit_of_no_attributes given]
    rfl

/-- A hop gets the child that it visits. -/
theorem get_eq (container : Value) (hop : Hop) : container.get hop = (container.visit hop).map Focus.child := by
  cases hop with
  | item key => exact container.getItem_eq key
  | attr name => exact container.getAttribute_eq name
  | segment name =>
    rw [visit_segment]
    cases given : container.items? with
    | some items =>
      have serves := serves_of_items? given
      simp only [get, given, Option.isSome_some, ↓reduceIte, serves.get_eq, serves.visit_eq]
    | none => simp only [get, given, Option.isSome_none, Bool.false_eq_true, ↓reduceIte, getAttribute_eq]

theorem setItem_eq (container : Value) (key : Key) (child : Value) :
    container.setItem key child = .ofExcept container (container.assign (.item key) child) := by
  unfold setItem
  cases given : container.items? with
  | some items => exact (serves_of_items? given).set_eq key child
  | none =>
    rw [assign_of_no_items given]
    rfl

theorem setAttribute_eq (container : Value) (name : String) (child : Value) :
    container.setAttribute name child = .ofExcept container (container.assign (.attr name) child) := by
  unfold setAttribute
  cases given : container.attributes? with
  | some attributes => exact (serves_of_attributes? given).set_eq name child
  | none =>
    rw [assign_of_no_attributes given]
    rfl

/-- A hop sets what it assigns, and leaves the container alone where that fails. -/
theorem set_eq (container : Value) (hop : Hop) (child : Value) :
    container.set hop child = .ofExcept container (container.assign hop child) := by
  cases hop with
  | item key => exact container.setItem_eq key child
  | attr name => exact container.setAttribute_eq name child
  | segment name =>
    rw [assign_segment, set]
    split
    · exact container.setItem_eq (.name name) child
    · exact container.setAttribute_eq name child

/-- The request words a failure and does not bear on success. -/
theorem select_eq_ok_iff {request other : Request} {container : Value} {hop : Hop} {place : Selector} :
    container.select request hop = .ok place ↔ container.select other hop = .ok place := by
  cases container <;> cases hop <;> simp [select, selectItem, hasItems]

theorem select_setChild (request : Request) (container : Value) (place : Selector) (child : Value) (hop : Hop) :
    (container.setChild place child).select request hop = container.select request hop := by
  cases container <;> cases place <;> cases hop <;>
    simp [select, selectItem, selectAttribute, setChild, hasItems, hasAttributes, typeName]

/-- What was assigned is found. -/
theorem get_of_assign {container child updated : Value} {hop : Hop}
    (assigned : container.assign hop child = .ok updated) : updated.get hop = .ok child := by
  unfold assign at assigned
  split at assigned
  · contradiction
  · next place selected =>
    split at assigned
    · next accepted =>
      obtain rfl := Except.ok.inj assigned
      have chosen : (container.setChild place child).select .itemAccess hop = .ok place :=
        (select_setChild ..).trans (select_eq_ok_iff.1 selected)
      simp [get_eq, visit, chosen, child?_setChild_self child accepted, Except.map]
    · contradiction

end Value

end DataLocator
