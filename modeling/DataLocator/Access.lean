import DataLocator.Failure
import DataLocator.Text.Basic
import DataLocator.Value.Address

/-! # Keys

A key names an item of a mapping or of a sequence. A mapping is asked for the key's text, which for an index
is its decimal form, and a sequence for the key's index, which for a name exists when the name is such a
decimal form. Names come before indices, in the order of their code points; indices are ordered as numbers.
-/

namespace DataLocator

/-- The name of an item: a key of a mapping or an index of a sequence. -/
inductive Key where
  | name (text : String)
  | index (position : UInt64)
deriving DecidableEq, Repr

namespace Key

/-- The key as a mapping holds it. -/
def text : Key → String
  | name text => text
  | index position => position.toNat.repr

/-- The key as an index of a sequence, if it denotes one. -/
def index? : Key → Option UInt64
  | index position => some position
  | name text =>
    match Text.canonicalNatural? text.toList with
    | some n => if n < UInt64.size then some (UInt64.ofNat n) else none
    | none => none

/-- Names before indices, names by code points, indices by size. -/
def precedes : Key → Key → Bool
  | name s, name t => s < t
  | name _, index _ => true
  | index _, name _ => false
  | index i, index j => i < j

/-- The keys in increasing order, each once. -/
def sortUnique (keys : List Key) : List Key :=
  keys.eraseDups.mergeSort fun a b => !b.precedes a

end Key

/-! ## Access to containers

Mappings and sequences give access to items by key, records to attributes by name. Each of the three gets a child,
visits one to replace it where it stands, and sets one, and they differ in what is refused: a mapping takes every key,
a sequence only the indices that it has, and a closed record only the fields that it has. `Value.items?` and
`Value.attributes?` say which access a value gives, if any.
-/

/-- A child of a container with its place. -/
structure Focus where
  container : Value
  place : Selector
  child : Value

/-- The container with another child written where the one in focus stands. -/
def Focus.refill (focus : Focus) (child : Value) : Value := focus.container.replaceChild focus.place child

/-- What the setting of a child leaves of the container, and whether it succeeded. -/
structure Assigned where
  container : Value
  result : Except LookupFailure Unit

/-- Access to the children of a container by their names. -/
structure Access (Name : Type) where
  get : Name → Except LookupFailure Value
  visit : Name → Except LookupFailure Focus
  set : Name → Value → Assigned

namespace Mapping

variable (entries : List (String × Value)) (key : Key)

def get : Except LookupFailure Value :=
  match entries.lookup key.text with
  | some child => .ok child
  | none => .error (.missingKey key.text)

def visit : Except LookupFailure Focus :=
  match entries.lookup key.text with
  | some child => .ok ⟨.mapping entries, .key key.text, child⟩
  | none => .error (.missingKey key.text)

/-- A mapping takes a child under every key. -/
def set (child : Value) : Assigned :=
  { container := .mapping (Entries.insert key.text child entries), result := .ok () }

def access : Access Key := ⟨get entries, visit entries, set entries⟩

end Mapping

namespace Sequence

variable (items : List Value) (key : Key)

/-- The index that a key denotes in a sequence, whether the sequence has it or not. -/
def index (key : Key) : Except LookupFailure Nat :=
  match key.index? with
  | some position => .ok position.toNat
  | none => .error (.unsupported "sequence" .nonNumericKey)

def get : Except LookupFailure Value :=
  match index key with
  | .error failure => .error failure
  | .ok position =>
    match items[position]? with
    | some child => .ok child
    | none => .error (.indexOutOfRange position items.length)

def visit : Except LookupFailure Focus :=
  match index key with
  | .error failure => .error failure
  | .ok position =>
    match items[position]? with
    | some child => .ok ⟨.sequence items, .index position, child⟩
    | none => .error (.indexOutOfRange position items.length)

/-- A sequence takes a child where it has one already. -/
def set (child : Value) : Assigned :=
  match visit items key with
  | .error failure => { container := .sequence items, result := .error failure }
  | .ok focus => { container := focus.refill child, result := .ok () }

def access : Access Key := ⟨get items, visit items, set items⟩

end Sequence

namespace Record

variable (r : Record) (name : String)

def missing : LookupFailure := .attributeNotFound r.typeName name

def hasField : Bool := (r.field? name).isSome

def get : Except LookupFailure Value :=
  match r.field? name with
  | some child => .ok child
  | none => .error (r.missing name)

def visit : Except LookupFailure Focus :=
  match r.fields.lookup name with
  | some child => .ok ⟨r.toValue, .field name, child⟩
  | none => .error (.attributeNotFound r.typeName name)

/-- A record takes a child as a field, unless it is closed and lacks the field. -/
def set (child : Value) : Assigned :=
  if r.shape = .closed ∧ r.hasField name = false then { container := r.toValue, result := .error (r.missing name) }
  else { container := (r.withField name child).toValue, result := .ok () }

def access : Access String := ⟨r.get, r.visit, r.set⟩

end Record

namespace Value

/-- Access to the items of a mapping or a sequence. -/
def items? : Value → Option (Access Key)
  | mapping entries => some (Mapping.access entries)
  | sequence items => some (Sequence.access items)
  | _ => none

/-- Access to the attributes of a record. -/
def attributes? : Value → Option (Access String)
  | record typeName shape fields => some (Record.access ⟨typeName, shape, fields⟩)
  | _ => none

end Value

/-! ## Look-up and assignment

A hop names a child of a value: an item by its key, an attribute by its name, or a segment of a dotted path,
which is an item of a mapping or sequence and an attribute of all else. What a value gives no access to it is
said not to support, or not to have.
-/

/-- The name of a child of a value. -/
inductive Hop where
  | item (key : Key)
  | attr (name : String)
  | segment (name : String)
deriving DecidableEq, Repr

namespace Value

def getItem (container : Value) (key : Key) : Except LookupFailure Value :=
  match container.items? with
  | some items => items.get key
  | none => .error (.unsupported container.typeName .itemAccess)

def getAttribute (container : Value) (name : String) : Except LookupFailure Value :=
  match container.attributes? with
  | some attributes => attributes.get name
  | none => .error (.attributeNotFound container.typeName name)

/-- The child that a hop names. -/
def get (container : Value) : Hop → Except LookupFailure Value
  | .item key => container.getItem key
  | .attr name => container.getAttribute name
  | .segment name =>
    match container.items? with
    | some items => items.get (.name name)
    | none => container.getAttribute name

def setItem (container : Value) (key : Key) (child : Value) : Assigned :=
  match container.items? with
  | some items => items.set key child
  | none => { container, result := .error (.unsupported container.typeName .itemAssignment) }

def setAttribute (container : Value) (name : String) (child : Value) : Assigned :=
  match container.attributes? with
  | some attributes => attributes.set name child
  | none => { container, result := .error (.attributeNotFound container.typeName name) }

/-- Sets the child that a hop names. Mappings and extensible records take new children, sequences and closed
records do not. -/
def set (container : Value) (hop : Hop) (child : Value) : Assigned :=
  match hop with
  | .item key => container.setItem key child
  | .attr name => container.setAttribute name child
  | .segment name =>
    if container.items?.isSome then container.setItem (.name name) child else container.setAttribute name child

end Value

end DataLocator
