import DataLocator.Interchange.Datum
import DataLocator.Number.Binary64

/-! # Schemas

A schema says what a JSON tree has to be, and reading a tree by it gives a value or the first thing that does
not fit. A record is read from an object, whose members are visited in key order and may be more than its
fields, or from an array that holds the fields in their order and nothing else. A field with a fallback may be
missing; the missing fields without one are looked for after all members have been read.
-/

namespace DataLocator

/-- What a JSON tree has to be. -/
inductive Schema where
  | unsigned (bits : Nat)
  | signed (bits : Nat)
  | float
  | bool
  | string
  | unit
  | any
  | optional (inner : Schema)
  | list (item : Schema)
  | map (item : Schema)
  /-- Fields in order, each with the value that stands for it when it is missing. -/
  | record (name : String) (fields : List (String × Option Value × Schema))

/-- A field of a record and the way to read it. -/
structure FieldReader where
  name : String
  fallback? : Option Value
  read : Json → Except InterchangeFailure Value

namespace FieldReader

/-- The fields that the members of an object give. Members that are no fields are passed over. -/
def readMembers (fields : List FieldReader) :
    List (String × Json) → Except InterchangeFailure (List (String × Value))
  | [] => .ok []
  | (key, tree) :: rest =>
    match fields.find? (·.name == key) with
    | none => readMembers fields rest
    | some field => do
      let value ← field.read tree
      return (key, value) :: (← readMembers fields rest)

/-- The value of each field, from those that were read or from its fallback. -/
def complete (given : List (String × Value)) (field : FieldReader) : Except InterchangeFailure (String × Value) :=
  match given.lookup field.name, field.fallback? with
  | some value, _ => .ok (field.name, value)
  | none, some value => .ok (field.name, value)
  | none, none => .error (.missingField field.name)

/-- The fields that the items of an array give, in order; `index` of them have been read. -/
def readItems (expected : String) (index : Nat) :
    List FieldReader → List Json → Except InterchangeFailure (List (String × Value))
  | [], [] => .ok []
  | [], extra => .error (.invalidLength (index + extra.length) "fewer elements in array")
  | field :: fields, tree :: trees => do
    let value ← field.read tree
    return (field.name, value) :: (← readItems expected (index + 1) fields trees)
  | field :: fields, [] =>
    match field.fallback? with
    | none => .error (.invalidLength index expected)
    | some value => return (field.name, value) :: (← readItems expected (index + 1) fields [])

/-- A record read from an object or from an array. -/
def readRecord (name : String) (fields : List FieldReader) (tree : Json) :
    Except InterchangeFailure Value := do
  let elements := s!"struct {name} with {fields.length} element" ++ if fields.length = 1 then "" else "s"
  let values ←
    match tree with
    | .object members => do
      let given ← readMembers fields members
      fields.mapM (complete given)
    | .array items => readItems elements 0 fields items
    | other => .error (.invalidType other s!"struct {name}")
  return .record name .closed (Entries.ofList values)

end FieldReader

namespace Schema

/-- An integer between two bounds. -/
def readInteger (expected : String) (low high : Int) (tree : Json) : Except InterchangeFailure Value :=
  let within (z : Int) : Except InterchangeFailure Value :=
    match Value.ofInt? z with
    | some value => if low ≤ z ∧ z < high then .ok value else .error (.invalidValue tree expected)
    | none => .error (.invalidValue tree expected)
  match tree with
  | .number (.natural n) => within n.toNat
  | .number (.negative n _) => within n.toInt
  | other => .error (.invalidType other expected)

def readFloat : Json → Except InterchangeFailure Value
  | .number (.natural n) => .ok (.float (Binary64.ofInt n.toNat))
  | .number (.negative n _) => .ok (.float (Binary64.ofInt n.toInt))
  | .number (.float x _) => .ok (.float x)
  | other => .error (.invalidType other "f64")

mutual

/-- Reads a tree by the schema. What it reads as a record is closed. -/
def read : Schema → Json → Except InterchangeFailure Value
  | unsigned bits, tree => readInteger s!"u{bits}" 0 (2 ^ bits) tree
  | signed bits, tree => readInteger s!"i{bits}" (-2 ^ (bits - 1)) (2 ^ (bits - 1)) tree
  | float, tree => readFloat tree
  | bool, .bool flag => .ok (.bool flag)
  | bool, other => .error (.invalidType other "a boolean")
  | string, .string text => .ok (.string text)
  | string, other => .error (.invalidType other "a string")
  | unit, .null => .ok .null
  | unit, other => .error (.invalidType other "unit")
  | any, tree => JsonLibrary.standard.readAny tree
  | optional _, .null => .ok .null
  | optional inner, tree => inner.read tree
  | list item, .array items => (items.mapM item.read).map .sequence
  | list _, other => .error (.invalidType other "a sequence")
  | map item, .object members =>
    (members.mapM fun (member : String × Json) => (item.read member.2).map (member.1, ·)).map .mapping
  | map _, other => .error (.invalidType other "a map")
  | record name fields, tree => FieldReader.readRecord name (fieldReaders fields) tree

def fieldReaders : List (String × Option Value × Schema) → List FieldReader
  | [] => []
  | (name, fallback?, schema) :: rest => ⟨name, fallback?, schema.read⟩ :: fieldReaders rest

end

theorem read_any (tree : Json) : any.read tree = JsonLibrary.standard.readAny tree := rfl

end Schema

/-- The value as a schema wants it. -/
def Value.conform (value : Value) (schema : Schema) : Except InterchangeFailure Value := schema.read value.toJson

end DataLocator
