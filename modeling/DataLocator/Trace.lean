import DataLocator.Locator.Step

/-! # Traces

Every operation gives, beside its result, the events that it met on its way, in order. An event names what
happened; its level, its message and its facts are how it is written down. An `Outcome` is what an operation that
writes leaves behind.
-/

namespace DataLocator

/-- How much an event matters. -/
inductive Level where
  | trace
  | debug
deriving DecidableEq, Repr

def Level.name : Level → String
  | trace => "TRACE"
  | debug => "DEBUG"

/-- Something that happened on the way to a result. -/
inductive Event where
  /-- A load found nothing. -/
  | absent (locator : String) (failure : LookupFailure)
  /-- There was nothing to store. -/
  | skipped (locator : String)
  /-- A mapping was made for a key on the way. -/
  | vivified (key : String)
  /-- An element was put into a sequence of this length. -/
  | placed (index length : Nat) (placement : Placement)
  /-- A mapping with this many keys was merged. -/
  | merged (keys : Nat)
  /-- A rule had nothing to store. -/
  | sourceAbsent (source : String)
  | ruleApplied (source target : String)
deriving DecidableEq, Repr

namespace Event

def level : Event → Level
  | absent .. | skipped _ | vivified _ | placed .. => .trace
  | merged _ | sourceAbsent _ | ruleApplied .. => .debug

def message : Event → String
  | absent .. => "locator resolved to NOT_PRESENT"
  | skipped _ => "skipping store of NOT_PRESENT"
  | vivified _ => "auto-vivifying mapping"
  | placed .. => "placing sequence element"
  | merged _ => "deep-merging mapping"
  | sourceAbsent _ => "mapping source not present"
  | ruleApplied .. => "mapping rule applied"

/-- The named facts of an event. -/
def facts : Event → List (String × String)
  | absent locator failure => [("locator", locator), ("failure", failure.message)]
  | skipped locator => [("locator", locator)]
  | vivified key => [("key", key)]
  | placed index length placement =>
    [("index", index.repr), ("len", length.repr), ("operation", placement.request.message)]
  | merged keys => [("keys", keys.repr)]
  | sourceAbsent source => [("source", source)]
  | ruleApplied source target => [("source", source), ("target", target)]

end Event

/-- What an operation leaves: the data, whether it failed or not, its result, and the events on the way. -/
structure Outcome (α : Type) where
  data : Value
  result : Except Failure α
  events : List Event := []

end DataLocator
