import DataLocator.Value.Basic

/-! # Addresses

A selector is the place of a child in its parent: a key of a mapping, an index of a sequence or a field of a
record. An address is a list of selectors, and names at most one node of a tree. `child?` finds the child at a
selector, `setChild` sets one, and `replaceChild` writes over one that is there. A child that was set is found at its
place, and all other places stay as they were (`child?_setChild_self`, `child?_setChild_of_ne`), so that children in two
places can be set in either order (`setChild_comm`).
-/

namespace DataLocator

/-- The place of a child in its parent. -/
inductive Selector where
  | key (name : String)
  | index (position : Nat)
  | field (name : String)
deriving DecidableEq, Repr

/-- The place of a node in a tree, from the root. -/
abbrev Address := List Selector

namespace Value

/-- The child at a selector of the container's own kind. -/
def child? : Value → Selector → Option Value
  | mapping entries, .key name => entries.lookup name
  | sequence items, .index position => items[position]?
  | record _ _ fields, .field name => fields.lookup name
  | _, _ => none

/-- The container with a child set at a selector of its own kind. A key or field that is not there yet is
added; an index that is out of range changes nothing. -/
def setChild (container : Value) (place : Selector) (child : Value) : Value :=
  match container, place with
  | mapping entries, .key name => mapping (Entries.insert name child entries)
  | sequence items, .index position => sequence (items.set position child)
  | record typeName shape fields, .field name => record typeName shape (Entries.insert name child fields)
  | other, _ => other

/-- The container with another child where one stands. Where none stands nothing changes. -/
def replaceChild (container : Value) (place : Selector) (child : Value) : Value :=
  match container, place with
  | mapping entries, .key name => mapping (Entries.replace name child entries)
  | sequence items, .index position => sequence (items.set position child)
  | record typeName shape fields, .field name => record typeName shape (Entries.replace name child fields)
  | other, _ => other

/-- The node at an address. -/
def at? (root : Value) (address : Address) : Option Value := address.foldlM child? root

/-- Can an assignment at the selector succeed? A mapping takes every key, a sequence only the indices that it
has, and a closed record only the fields that it has. -/
def accepts : Value → Selector → Bool
  | mapping _, .key _ => true
  | sequence items, .index position => position < items.length
  | record _ shape fields, .field name => shape == .extensible || (fields.lookup name).isSome
  | _, _ => false

/-- A child that was set at an acceptable place is found there. -/
theorem child?_setChild_self {container : Value} {place : Selector} (child : Value)
    (accepted : container.accepts place = true) : (container.setChild place child).child? place = some child := by
  cases container <;> cases place <;> simp_all [accepts, setChild, child?]

/-- A child that was set leaves all other places alone. -/
theorem child?_setChild_of_ne {place other : Selector} (ne : other ≠ place) (container child : Value) :
    (container.setChild place child).child? other = container.child? other := by
  cases container <;> cases place <;> cases other <;>
    grind [setChild, child?, Entries.lookup_insert_of_ne]

/-- Setting the child that is there already changes nothing. -/
theorem setChild_of_child? {container child : Value} {place : Selector}
    (found : container.child? place = some child) : container.setChild place child = container := by
  cases container <;> cases place <;> simp_all [setChild, child?, Entries.insert_of_lookup]
  next items position =>
    obtain ⟨bound, same⟩ := List.getElem?_eq_some_iff.1 found
    rw [← same, List.set_getElem_self]

/-- Where a child stands, to replace it is to set another. -/
theorem replaceChild_of_child? {container old : Value} {place : Selector} (held : container.child? place = some old)
    (child : Value) : container.replaceChild place child = container.setChild place child := by
  cases container <;> cases place <;> simp_all [replaceChild, setChild, child?, Entries.insert]

/-- Of two children set at one place the second counts. -/
theorem setChild_setChild (container : Value) (place : Selector) (child old : Value) :
    (container.setChild place old).setChild place child = container.setChild place child := by
  cases container <;> cases place <;> simp [setChild, Entries.insert_insert]

/-- Children can be set at two places in either order. -/
theorem setChild_comm {place other : Selector} (ne : place ≠ other) (container child extra : Value) :
    (container.setChild other extra).setChild place child = (container.setChild place child).setChild other extra := by
  cases container <;> cases place <;> cases other <;> try rfl
  · exact congrArg sequence (List.set_comm _ _ fun same => ne (congrArg Selector.index same.symm))
  · exact congrArg mapping (Entries.insert_comm (fun same => ne (congrArg Selector.key same)) ..)
  · next typeName shape fields _ _ =>
    exact congrArg (record typeName shape) (Entries.insert_comm (fun same => ne (congrArg Selector.field same)) ..)

/-- A place that holds a child takes another. -/
theorem accepts_of_child? {container child : Value} {place : Selector}
    (found : container.child? place = some child) : container.accepts place = true := by
  cases container <;> cases place <;> simp_all [accepts, child?]
  next items position => exact (List.getElem?_eq_some_iff.1 found).1

@[simp] theorem at?_nil (root : Value) : root.at? [] = some root := rfl

theorem at?_cons (root : Value) (place : Selector) (rest : Address) :
    root.at? (place :: rest) = (root.child? place).bind (·.at? rest) := rfl

theorem at?_append (root : Value) (front back : Address) :
    root.at? (front ++ back) = (root.at? front).bind (·.at? back) := by
  simp [at?, List.foldlM_append]

end Value

end DataLocator
