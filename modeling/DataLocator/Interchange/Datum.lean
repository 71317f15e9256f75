import DataLocator.Interchange.Json
import DataLocator.Text.Basic
import DataLocator.Value.Rendering

/-! # Data of any shape

A datum is what a program can hand over: wide integers, bytes, optional and wrapped data, variants of a choice,
and mappings whose keys are data themselves. As a JSON tree, wrappers vanish, a variant is its name or an object
of one member, and a key is the text of a scalar. The parts are converted in order and the first failure ends
the conversion; a key comes before its value.
-/

namespace DataLocator

/-! ## Failures of interchange

Why data could not be made into a JSON tree, and why a JSON tree did not fit a schema. A tree that does not fit
is described by what it is: numbers by their text, texts in quotes, and all else by its kind.
-/

/-- A tree as it is named where it does not fit. -/
def Json.describe : Json → String
  | null => "null"
  | bool flag => s!"boolean `{flag}`"
  | number (.float x isFinite) => "floating point `" ++ (JsonNumber.float x isFinite).text ++ "`"
  | number n => "integer `" ++ n.text ++ "`"
  | string text => "string " ++ inspectText text
  | array _ => "sequence"
  | object _ => "map"

/-- Why an interchange through JSON failed. -/
inductive InterchangeFailure where
  | keyNotString
  | keyNotFinite
  | numberOutOfRange
  /-- The data refused with words of its own, which may end in a position. -/
  | refused (reason : String)
  | invalidType (found : Json) (expected : String)
  | invalidValue (found : Json) (expected : String)
  | missingField (name : String)
  | invalidLength (length : Nat) (expected : String)

namespace InterchangeFailure

def cause : InterchangeFailure → String
  | keyNotString => "key must be a string"
  | keyNotFinite => "float key must be finite (got NaN or +/-inf)"
  | numberOutOfRange => "number out of range"
  | refused reason => Text.settlePosition reason
  | invalidType found expected => s!"invalid type: {found.describe}, expected {expected}"
  | invalidValue found expected => s!"invalid value: {found.describe}, expected {expected}"
  | missingField name => s!"missing field `{name}`"
  | invalidLength length expected => s!"invalid length {length}, expected {expected}"

def message (failure : InterchangeFailure) : String := "JSON conversion failed: " ++ failure.cause

end InterchangeFailure

/-! ## Data -/

/-- Data of any shape. -/
inductive Datum where
  | unit
  | bool (flag : Bool)
  | signed (n : Int64)
  | unsigned (n : UInt64)
  /-- An integer of 128 bits. -/
  | wide (z : Int)
  | float (x : Binary64)
  | text (text : String)
  | bytes (octets : List UInt8)
  | optional (inner : Datum)
  | wrapped (inner : Datum)
  /-- A variant without contents. -/
  | choice (name : String)
  | variant (name : String) (contents : Datum)
  | sequence (items : List Datum)
  | mapping (pairs : List (Datum × Datum))
  /-- Data that cannot be handed over. -/
  | refusal (reason : String)

namespace Datum

/-- The text of a datum as a key. -/
def keyText : Datum → Except InterchangeFailure String
  | text s => .ok s
  | choice name => .ok name
  | bool flag => .ok (if flag then "true" else "false")
  | signed n => .ok (toString n.toInt)
  | unsigned n => .ok n.toNat.repr
  | wide z => .ok (toString z)
  | float x => if x.isFinite then .ok (jsonStyle.render x) else .error .keyNotFinite
  | wrapped inner => inner.keyText
  | refusal reason => .error (.refused reason)
  | _ => .error .keyNotString

mutual

/-- The JSON tree of a datum. -/
def toJson : Datum → Except InterchangeFailure Json
  | unit => .ok .null
  | bool flag => .ok (.bool flag)
  | signed n => .ok (.number (JsonNumber.ofInt64 n))
  | unsigned n => .ok (.number (.natural n))
  | wide z =>
    match JsonNumber.ofInt? z with
    | some n => .ok (.number n)
    | none => .error .numberOutOfRange
  | float x =>
    match JsonNumber.ofFloat? x with
    | some n => .ok (.number n)
    | none => .ok .null
  | text s => .ok (.string s)
  | bytes octets => .ok (.array (octets.map fun octet => .number (.natural octet.toUInt64)))
  | optional inner => inner.toJson
  | wrapped inner => inner.toJson
  | choice name => .ok (.string name)
  | variant name contents =>
    match contents.toJson with
    | .ok tree => .ok (.object [(name, tree)])
    | .error failure => .error failure
  | sequence items =>
    match itemsToJson items with
    | .ok trees => .ok (.array trees)
    | .error failure => .error failure
  | mapping pairs =>
    match pairsToJson pairs with
    | .ok members => .ok (.object (Entries.ofList members))
    | .error failure => .error failure
  | refusal reason => .error (.refused reason)

def itemsToJson : List Datum → Except InterchangeFailure (List Json)
  | [] => .ok []
  | item :: rest =>
    match item.toJson with
    | .error failure => .error failure
    | .ok tree =>
      match itemsToJson rest with
      | .error failure => .error failure
      | .ok trees => .ok (tree :: trees)

def pairsToJson : List (Datum × Datum) → Except InterchangeFailure (List (String × Json))
  | [] => .ok []
  | (key, value) :: rest =>
    match key.keyText with
    | .error failure => .error failure
    | .ok name =>
      match value.toJson with
      | .error failure => .error failure
      | .ok tree =>
        match pairsToJson rest with
        | .error failure => .error failure
        | .ok members => .ok ((name, tree) :: members)

end

end Datum

/-- A library of JSON trees, as far as values use it: it makes the tree of data that is handed over to it, and it hands
a tree over to a reader that takes any. -/
structure JsonLibrary where
  tree : Datum → Except InterchangeFailure Json
  reread : Json → Except InterchangeFailure Json

/-- The library that values are exchanged through. -/
def JsonLibrary.standard : JsonLibrary where
  tree := Datum.toJson
  reread := .ok

namespace Value

mutual

/-- A value as data: records are handed over as mappings. -/
def toDatum : Value → Datum
  | null => .unit
  | bool flag => .bool flag
  | integer n => .signed n
  | unsigned n => .unsigned n
  | float x => .float x
  | string text => .text text
  | sequence items => .sequence (itemsToData items)
  | mapping entries => .mapping (entriesToData entries)
  | record _ _ fields => .mapping (entriesToData fields)

def itemsToData : List Value → List Datum
  | [] => []
  | item :: rest => item.toDatum :: itemsToData rest

def entriesToData : List (String × Value) → List (Datum × Datum)
  | [] => []
  | (key, value) :: rest => (.text key, value.toDatum) :: entriesToData rest

end

end Value

namespace JsonLibrary

/-- The value of data of any shape. -/
def valueOf (library : JsonLibrary) (datum : Datum) : Except InterchangeFailure Value :=
  (library.tree datum).map Value.ofJson

/-- The value of a tree that may be any. -/
def readAny (library : JsonLibrary) (tree : Json) : Except InterchangeFailure Value :=
  (library.reread tree).map Value.ofJson

end JsonLibrary

def Value.ofDatum (datum : Datum) : Except InterchangeFailure Value := JsonLibrary.standard.valueOf datum

end DataLocator
