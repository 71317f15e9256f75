import DataLocator.Locator.Typed
import DataLocator.Reading

/-! # Loading in parts

A load through two chains, one behind the other, is the second load from where the first one leads. A failed look-up
is carried to the end of a chain or to its first requirement, whatever stands in between (`follow_error`), so that the
first failure is the one that is reported (`load_extend`).
-/

namespace DataLocator

def Step.isRequired : Step → Bool
  | required => true
  | _ => false

theorem follow_append (front back : List Step) (finding : Finding) :
    follow (front ++ back) finding =
      match follow front finding with
      | .ok next => follow back next
      | .error failure => .error failure := by
  induction front generalizing finding with
  | nil => rfl
  | cons step rest ih =>
    simp only [List.cons_append, follow]
    cases step.advance finding with
    | ok next => exact ih next
    | error failure => rfl

/-- A failed look-up is raised by the first requirement, and carried to the end where there is none. -/
theorem follow_error (steps : List Step) (failure : LookupFailure) :
    follow steps (.error failure) =
      if steps.any Step.isRequired then .error (.lookup failure) else .ok (.error failure) := by
  induction steps with
  | nil => rfl
  | cons step rest ih =>
    cases step with
    | required => rfl
    | _ => exact ih

section Load

variable {locator : Locator} {data : Value} {failure : Failure}

theorem load_of_raised (reads : locator.kind = .source) (raised : follow locator.steps (.ok data) = .error failure) :
    load data locator = { result := .error failure } := by
  simp only [load, Locator.expect, reads, raised]

theorem load_of_found (reads : locator.kind = .source) {value : Value}
    (found : follow locator.steps (.ok data) = .ok (.ok value)) :
    load data locator = { result := .ok (.present value) } := by
  simp only [load, Locator.expect, reads, found]

theorem load_of_missed (reads : locator.kind = .source) {cause : LookupFailure}
    (missed : follow locator.steps (.ok data) = .ok (.error cause)) :
    load data locator = { result := .ok .notPresent, events := [.absent locator.text cause] } := by
  simp only [load, Locator.expect, reads, missed]

/-- A load through steps behind a locator goes on from what is found through the locator. -/
theorem load_extend_of_found (reads : locator.kind = .source) {value : Value}
    (found : follow locator.steps (.ok data) = .ok (.ok value)) (steps : List Step) :
    (load data (locator.extend steps)).result = (load value (.ofSteps .source steps)).result := by
  have longer : (locator.extend steps).kind = .source := (locator.kind_extend steps).trans reads
  have goesOn : follow (locator.extend steps).steps (.ok data) = follow steps (.ok value) := by
    rw [Locator.steps_extend, follow_append, found]
  cases followed : follow steps (.ok value) with
  | error failure => rw [load_of_raised longer (goesOn.trans followed), load_of_raised rfl followed]
  | ok finding =>
    cases finding with
    | ok last => rw [load_of_found longer (goesOn.trans followed), load_of_found rfl followed]
    | error cause => rw [load_of_missed longer (goesOn.trans followed), load_of_missed rfl followed]

/-- Steps behind a locator that finds nothing find nothing, or raise its failure where one of them requires a value. -/
theorem load_extend_of_missed (reads : locator.kind = .source) {cause : LookupFailure}
    (missed : follow locator.steps (.ok data) = .ok (.error cause)) (steps : List Step) :
    (load data (locator.extend steps)).result =
      if steps.any Step.isRequired then .error (.lookup cause) else .ok .notPresent := by
  have longer : (locator.extend steps).kind = .source := (locator.kind_extend steps).trans reads
  have carried : follow (locator.extend steps).steps (.ok data) = follow steps (.error cause) := by
    rw [Locator.steps_extend, follow_append, missed]
  rw [follow_error] at carried
  cases demands : steps.any Step.isRequired with
  | true =>
    rw [demands] at carried
    rw [load_of_raised longer carried]
    rfl
  | false =>
    rw [demands] at carried
    rw [load_of_missed longer carried]
    rfl

theorem load_extend_of_raised (reads : locator.kind = .source)
    (raised : follow locator.steps (.ok data) = .error failure) (steps : List Step) :
    (load data (locator.extend steps)).result = .error failure := by
  have longer : (locator.extend steps).kind = .source := (locator.kind_extend steps).trans reads
  have stops : follow (locator.extend steps).steps (.ok data) = .error failure := by
    rw [Locator.steps_extend, follow_append, raised]
  rw [load_of_raised longer stops]

end Load

/-- A load through a source in front of another fails as the first does, or goes on from what the first finds. Where
the first finds nothing there is nothing, or else the failure that a requirement behind the first raises, if the second
holds a requirement. That a load finds nothing is told in one event, with the message of that failure. -/
theorem load_extend (data : Value) (front back : Source) :
    let found := load data front.locator
    let demanded := (load data (front.locator.extend [.required])).result
    (load data (front.locator.extend back.locator.steps)).result =
        (match found.result with
        | .error failure => .error failure
        | .ok (.present value) => (load value back.locator).result
        | .ok .notPresent => if back.locator.steps.any Step.isRequired then demanded else .ok .notPresent) ∧
      match found.result with
      | .ok .notPresent =>
        ∃ failure event, demanded = .error (.lookup failure) ∧ found.events = [event] ∧
          event.message = "locator resolved to NOT_PRESENT" ∧
          event.facts.lookup "failure" = some (Failure.lookup failure).message
      | _ => found.events = [] := by
  intro found demanded
  have reads : front.locator.kind = .source := rfl
  cases followed : follow front.locator.steps (.ok data) with
  | error failure =>
    have fails : found = { result := .error failure } := load_of_raised reads followed
    rw [fails]
    exact ⟨load_extend_of_raised reads followed _, rfl⟩
  | ok finding =>
    cases finding with
    | ok value =>
      have finds : found = { result := .ok (.present value) } := load_of_found reads followed
      rw [finds]
      exact ⟨load_extend_of_found reads followed _, rfl⟩
    | error cause =>
      have misses : found = { result := .ok .notPresent, events := [.absent front.locator.text cause] } :=
        load_of_missed reads followed
      have raises : demanded = .error (.lookup cause) := load_extend_of_missed reads followed [.required]
      rw [misses, raises]
      exact ⟨load_extend_of_missed reads followed _, cause, _, rfl, rfl, rfl, rfl⟩

/-- No conversion is tried on what is absent, and a requirement behind it raises the look-up that failed. -/
example :
    let refuses : Converter := ⟨"refuses", fun _ => .error ⟨"nothing", "a value"⟩⟩
    let source : Source := ⟨[.go (.segment "a"), .convert refuses, .required]⟩
    (load .emptyMapping source.locator).result = .error (.lookup (.missingKey "a")) := rfl

end DataLocator
