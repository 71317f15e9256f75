import DataLocator.Locator.Basic
import DataLocator.Value.Basic
import DataLocator.Trace

/-! # Loading

A load follows the steps of a source through a tree. A look-up that fails does not fail the load: the failure
is carried past all further steps, until a required step raises it or the end turns it into absence. Conversions
that fail do fail the load, and are not tried on what is absent.
-/

namespace DataLocator

/-- What has been found so far, or the first look-up that failed. -/
abbrev Finding := Except LookupFailure Value

/-- What one step makes of a value. Steps that write say nothing about what is read. -/
def Step.proceed (step : Step) (value : Value) : Except Failure Finding :=
  match step with
  | .go hop => .ok (value.get hop)
  | .convert converter =>
    match converter.convert value with
    | .ok converted => .ok (.ok converted)
    | .error cause => .error (.conversion converter.name cause)
  | .required | .place _ | .merge => .ok (.ok value)

/-- What one step makes of a look-up that has failed. -/
def Step.carry (step : Step) (failure : LookupFailure) : Except Failure Finding :=
  match step with
  | .required => .error (.lookup failure)
  | .go _ | .convert _ | .place _ | .merge => .ok (.error failure)

/-- The finding after one more step. -/
def Step.advance (step : Step) : Finding → Except Failure Finding
  | .ok value => step.proceed value
  | .error failure => step.carry failure

/-- The finding after a chain of steps. -/
def follow : List Step → Finding → Except Failure Finding
  | [], finding => .ok finding
  | step :: rest, finding =>
    match step.advance finding with
    | .ok next => follow rest next
    | .error failure => .error failure

/-- The result of a load and the events on the way. -/
structure Loaded where
  result : Except Failure Presence
  events : List Event := []

/-- Reads what the locator leads to. -/
def load (data : Value) (locator : Locator) : Loaded :=
  match locator.expect .source with
  | .error cause => { result := .error (.invalid cause) }
  | .ok source =>
    match follow source.steps (.ok data) with
    | .error failure => { result := .error failure }
    | .ok (.ok value) => { result := .ok (.present value) }
    | .ok (.error failure) => { result := .ok .notPresent, events := [.absent source.text failure] }

end DataLocator
