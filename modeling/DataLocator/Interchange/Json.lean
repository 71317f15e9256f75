import DataLocator.Json.Basic
import DataLocator.Value.Basic

/-! # Values as JSON

`toJson` makes objects of records and nulls of floats that are not finite; `ofJson` gives every integer the
constructor that its size asks for. What is left of a value after the way there and back is its `jsonForm`.
-/

namespace DataLocator.Value

mutual

/-- The JSON tree of a value. -/
def toJson : Value → Json
  | null => .null
  | bool flag => .bool flag
  | integer n => .number (JsonNumber.ofInt64 n)
  | unsigned n => .number (.natural n)
  | float x =>
    match JsonNumber.ofFloat? x with
    | some n => .number n
    | none => .null
  | string text => .string text
  | sequence items => .array (itemsToJson items)
  | mapping entries => .object (entriesToJson entries)
  | record _ _ fields => .object (entriesToJson fields)

def itemsToJson : List Value → List Json
  | [] => []
  | item :: rest => item.toJson :: itemsToJson rest

def entriesToJson : List (String × Value) → List (String × Json)
  | [] => []
  | (key, value) :: rest => (key, value.toJson) :: entriesToJson rest

end

/-- The value of a JSON number. -/
def ofJsonNumber : JsonNumber → Value
  | .natural n => ofUInt64 n
  | .negative n _ => integer n
  | .float x _ => float x

mutual

/-- The value of a JSON tree. -/
def ofJson : Json → Value
  | .null => null
  | .bool flag => bool flag
  | .number n => ofJsonNumber n
  | .string text => string text
  | .array items => sequence (itemsOfJson items)
  | .object members => mapping (entriesOfJson members)

def itemsOfJson : List Json → List Value
  | [] => []
  | item :: rest => ofJson item :: itemsOfJson rest

def entriesOfJson : List (String × Json) → List (String × Value)
  | [] => []
  | (key, value) :: rest => (key, ofJson value) :: entriesOfJson rest

end

mutual

/-- What JSON can hold of a value: records are the mappings of their fields, floats that are not finite are
null, and an integer in the signed range is an `integer`. -/
def jsonForm : Value → Value
  | unsigned n => ofUInt64 n
  | float x => if x.isFinite then float x else null
  | sequence items => sequence (jsonFormItems items)
  | mapping entries => mapping (jsonFormEntries entries)
  | record _ _ fields => mapping (jsonFormEntries fields)
  | other => other

def jsonFormItems : List Value → List Value
  | [] => []
  | item :: rest => item.jsonForm :: jsonFormItems rest

def jsonFormEntries : List (String × Value) → List (String × Value)
  | [] => []
  | (key, value) :: rest => (key, value.jsonForm) :: jsonFormEntries rest

end

end DataLocator.Value
