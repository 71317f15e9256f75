import DataLocator.Locator.Basic
import DataLocator.Overlay
import DataLocator.Value.Basic

/-! # Storing

A store goes down the steps of a target to the place that its last step names, and writes there. On the way a
key that a mapping lacks is given an empty mapping, and a placement makes a new element that is one; nothing
else is made. What was made stays when a later step fails. A store of nothing leaves the data alone, unless the
target places an element: then an empty mapping is stored for it.
-/

namespace DataLocator

/-- A place that was gone into, and what was made for it. -/
structure Descent where
  focus : Focus
  events : List Event := []

namespace Value

/-- Goes to an item, making a mapping at a key that is not there. -/
def enterItem (container : Value) (key : Key) : Except LookupFailure Descent :=
  match container with
  | mapping entries =>
    match entries.lookup key.text with
    | some child => .ok { focus := ⟨mapping entries, .key key.text, child⟩ }
    | none =>
      .ok
        { focus := ⟨mapping (Entries.insert key.text emptyMapping entries), .key key.text, emptyMapping⟩
          events := [.vivified key.text] }
  | sequence items => (Sequence.visit items key).map fun focus => { focus }
  | other => .error (.unsupported other.typeName .itemAccess)

/-- Goes to an attribute, which is never made on the way. -/
def enterAttribute (container : Value) (name : String) : Except LookupFailure Descent :=
  match container with
  | record typeName shape fields => (Record.visit ⟨typeName, shape, fields⟩ name).map fun focus => { focus }
  | other => .error (.attributeNotFound other.typeName name)

/-- Goes to the child that a hop names. -/
def enter (container : Value) : Hop → Except LookupFailure Descent
  | .item key => container.enterItem key
  | .attr name => container.enterAttribute name
  | .segment name =>
    if container.items?.isSome then container.enterItem (.name name) else container.enterAttribute name

/-- Puts a new element into a sequence and goes to it. -/
def placeElement (container : Value) (placement : Placement) (element : Value) :
    Except LookupFailure Descent :=
  match container with
  | sequence items =>
    let position := placement.position items.length
    let longer := items.insertIdx position element
    match longer[position]? with
    | some child =>
      .ok
        { focus := ⟨sequence longer, .index position, child⟩
          events := [.placed position items.length placement] }
    -- What was put in is there, so this does not happen (`placeElement_sequence`).
    | none => .error (.indexOutOfRange position items.length)
  | other => .error (.unsupported other.typeName placement.request)

end Value

/-- Goes into the place that a step names on the way. -/
def Step.enter (step : Step) (container : Value) : Except Failure Descent :=
  match step with
  | .go hop => (container.enter hop).mapError .lookup
  | .place placement => (container.placeElement placement .emptyMapping).mapError .lookup
  | .convert _ | .required => .error (.invalid (.sourceOnly step.operation))
  | .merge => .error (.invalid .mergeNotFinal)

/-- Writes at the place that the last step names. -/
def Step.write (step : Step) (context : Option MergeContext) (value : Presence) (container : Value) :
    Outcome Unit :=
  match step with
  | .go hop =>
    match value with
    | .notPresent => { data := container, result := .ok () }
    | .present value =>
      let assigned := container.set hop value
      { data := assigned.container, result := assigned.result.mapError .lookup }
  | .place placement =>
    match container.placeElement placement (value.getD .emptyMapping) with
    | .ok descent => { data := descent.focus.container, result := .ok (), events := descent.events }
    | .error failure => { data := container, result := .error (.lookup failure) }
  | .convert _ | .required => { data := container, result := .error (.invalid (.sourceOnly step.operation)) }
  | .merge =>
    match value, context with
    | .notPresent, _ => { data := container, result := .ok () }
    | .present value, some context => mergeInto context container value
    | .present _, none => { data := container, result := .error (.invalid .mergeUnauthorised) }

/-- Writes through a chain of steps. What is left below a place is put back into it, failure or not. -/
def writeThrough (context : Option MergeContext) (value : Presence) : List Step → Value → Outcome Unit
  | [], data => { data, result := .error (.invalid .storeAtRoot) }
  | [last], data => last.write context value data
  | step :: next :: rest, data =>
    match step.enter data with
    | .error failure => { data, result := .error failure }
    | .ok descent =>
      let below := writeThrough context value (next :: rest) descent.focus.child
      { data := descent.focus.refill below.data
        result := below.result
        events := descent.events ++ below.events }

/-- What forbids a store through the locator whatever the data is. -/
def Locator.storeObjection? (locator : Locator) (context : Option MergeContext) : Option InvalidOperation :=
  match locator.expect .target with
  | .error cause => some cause
  | .ok target =>
    if target.steps.isEmpty then some .storeAtRoot
    else if target.isMerge && context.isNone then some .mergeUnauthorised
    else none

/-- Writes a value, or nothing, to the place that the locator leads to. A merge needs a context. -/
def store (data : Value) (locator : Locator) (value : Presence) (context : Option MergeContext) :
    Outcome Unit :=
  match locator.storeObjection? context with
  | some cause => { data, result := .error (.invalid cause) }
  | none =>
    if !value.isPresent && !locator.steps.any Step.isPlacement then
      { data, result := .ok (), events := [.skipped locator.text] }
    else writeThrough context value locator.steps data

end DataLocator
