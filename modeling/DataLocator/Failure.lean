/-! # Failures

A failure is a value that names its cause, and each type of failure has one `message` that words it.
`LookupFailure` is what a look-up or an assignment in a value can meet; `InvalidOperation` is what is wrong with
a locator or its use whatever the data is; `Failure` holds both and the failures of merging and conversion.
-/

namespace DataLocator

/-- What a value was asked to do, where values of its kind cannot. -/
inductive Request where
  | itemAccess
  | itemAssignment
  | nonNumericKey
  | append
  | insert
deriving DecidableEq, Repr

def Request.message : Request → String
  | itemAccess => "item access"
  | itemAssignment => "item assignment"
  | nonNumericKey => "non-numeric keys"
  | append => "append()"
  | insert => "insert()"

/-- Why a value has no such child. -/
inductive LookupFailure where
  | missingKey (key : String)
  | indexOutOfRange (index length : Nat)
  | attributeNotFound (typeName name : String)
  | unsupported (typeName : String) (request : Request)
deriving DecidableEq, Repr

def LookupFailure.message : LookupFailure → String
  | missingKey key => s!"missing key '{key}'"
  | indexOutOfRange index length => s!"index {index} out of range for sequence of length {length}"
  | attributeNotFound typeName name => s!"'{typeName}' object has no attribute '{name}'"
  | unsupported typeName request => s!"'{typeName}' object does not support {request.message}"

/-- The operations that a locator is made of. -/
inductive Operation where
  | item
  | attr
  | path
  | convert
  | required
  | append
  | insert
  | merge
deriving DecidableEq, Repr

def Operation.name : Operation → String
  | item => "item"
  | attr => "attr"
  | path => "path"
  | convert => "convert"
  | required => "required"
  | append => "append"
  | insert => "insert"
  | merge => "merge"

/-- What is wrong with a locator or its use, found without looking at the data; that a value is no mapping is found by
the merge itself. -/
inductive InvalidOperation where
  | sourceOnly (operation : Operation)
  | targetOnly (operation : Operation)
  | mergeNotFinal
  | storeAtRoot
  | mergeUnauthorised
  | loadFromTarget
  | storeThroughSource
  | mergeValue (typeName : String)
deriving DecidableEq, Repr

def InvalidOperation.message : InvalidOperation → String
  | sourceOnly operation => s!"Cannot use {operation.name}() as target"
  | targetOnly operation => s!"Cannot use {operation.name}() in source"
  | mergeNotFinal => "merge() must be final operation"
  | storeAtRoot => "Cannot store at root"
  | mergeUnauthorised => "merge() requires a MergeContext"
  | loadFromTarget => "Cannot load() from a target locator"
  | storeThroughSource => "Cannot store() through a source locator"
  | mergeValue typeName => s!"merge() requires a mapping value, found '{typeName}'"

/-- Why a value was not converted: what it should have been and what it was. -/
structure ConversionFailure where
  expected : String
  found : String
deriving DecidableEq, Repr

def ConversionFailure.message (failure : ConversionFailure) : String :=
  s!"cannot convert {failure.found} to {failure.expected}"

/-- Why a load, a store or a merge failed. -/
inductive Failure where
  | lookup (cause : LookupFailure)
  | invalid (cause : InvalidOperation)
  /-- The place that is merged into holds a value that is not a mapping. -/
  | mergeConflict (typeName : String)
  | conversion (converter : String) (cause : ConversionFailure)
deriving DecidableEq, Repr

def Failure.message : Failure → String
  | lookup cause => cause.message
  | invalid cause => cause.message
  | mergeConflict typeName => s!"Cannot merge into existing '{typeName}' value"
  | conversion converter cause => s!"Conversion '{converter}' failed: {cause.message}"

end DataLocator
