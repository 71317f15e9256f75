import DataLocator.Locator.Step
import DataLocator.Text.Basic

/-! # Locators

A locator is a kind and a chain of steps. `push` adds a step to a locator and refuses one that may not stand
there, so that the locators that are built are the legal ones: every step fits the kind, and a merge is last.
A dotted text is a locator of whichever kind is wanted.
-/

namespace DataLocator

/-- A place in a tree of data, to read from or to write to. A locator keeps count of its steps. -/
structure Locator where
  kind : Kind
  steps : List Step
  length : Nat
  counted : length = steps.length

namespace Locator

def root (kind : Kind) : Locator := ⟨kind, [], 0, rfl⟩

def ofSteps (kind : Kind) (steps : List Step) : Locator := ⟨kind, steps, steps.length, rfl⟩

def isRoot (locator : Locator) : Bool := locator.length == 0

/-- The locator with one more step, which needs no check. -/
def add (locator : Locator) (step : Step) : Locator :=
  ⟨locator.kind, locator.steps ++ [step], locator.length + 1, by simp [locator.counted]⟩

/-- The locator with steps added one after the other that need no check. -/
def extend (locator : Locator) (steps : List Step) : Locator := steps.foldl add locator

/-- The hops of a dotted text, one for each segment. -/
def hops (dotted : String) : List Hop := (Text.segments dotted).map Hop.segment

/-- The locator of a dotted text. -/
def ofPath (kind : Kind) (dotted : String) : Locator := (root kind).extend ((hops dotted).map Step.go)

def isMerge (locator : Locator) : Bool := locator.steps.getLast?.any Step.isMerge

/-- Every step fits the kind, and nothing follows a merge. -/
def Legal (locator : Locator) : Prop :=
  (∀ step ∈ locator.steps, step.fits locator.kind) ∧ ∀ step ∈ locator.steps.dropLast, !step.isMerge

/-- What is wrong with a step at the end of the locator, if anything. That a merge is last is looked at before
the kind of the step. -/
def objection? (locator : Locator) (step : Step) : Option InvalidOperation :=
  if locator.isMerge then some .mergeNotFinal
  else if step.fits locator.kind then none
  else
    match locator.kind with
    | .source => some (.targetOnly step.operation)
    | .target => some (.sourceOnly step.operation)

def push (locator : Locator) (step : Step) : Except InvalidOperation Locator :=
  match locator.objection? step with
  | some objection => .error objection
  | none => .ok (locator.add step)

def item (locator : Locator) (key : Key) : Except InvalidOperation Locator := locator.push (.go (.item key))

def attr (locator : Locator) (name : String) : Except InvalidOperation Locator := locator.push (.go (.attr name))

/-- The locator with a hop for each segment of a dotted text; one check does for all of them. -/
def path (locator : Locator) (dotted : String) : Except InvalidOperation Locator :=
  match locator.objection? (.go (.segment dotted)) with
  | some objection => .error objection
  | none => .ok (locator.extend ((hops dotted).map Step.go))

def convert (locator : Locator) (converter : Converter) : Except InvalidOperation Locator :=
  locator.push (.convert converter)

def required (locator : Locator) : Except InvalidOperation Locator := locator.push .required

def append (locator : Locator) : Except InvalidOperation Locator := locator.push (.place .append)

def insert (locator : Locator) (index : UInt64) : Except InvalidOperation Locator :=
  locator.push (.place (.insert index))

def merge (locator : Locator) : Except InvalidOperation Locator := locator.push .merge

/-- Fails when the locator is of the other kind. -/
def expect (kind : Kind) (locator : Locator) : Except InvalidOperation Locator :=
  match locator.kind, kind with
  | .target, .source => .error .loadFromTarget
  | .source, .target => .error .storeThroughSource
  | _, _ => .ok locator

/-- The kind of the locator followed by its steps. -/
def text (locator : Locator) : String := locator.kind.name ++ String.join (locator.steps.map Step.text)

/-- A locator shows its own text. -/
def inspect (locator : Locator) : String := "Locator(" ++ locator.text ++ ")"

/-- Locators of one kind with the same steps are the same, for the count follows. -/
theorem ext {locator other : Locator} (kind : locator.kind = other.kind) (steps : locator.steps = other.steps) :
    locator = other := by
  obtain ⟨_, _, _, rfl⟩ := locator
  obtain ⟨_, _, _, rfl⟩ := other
  obtain rfl : _ = _ := kind
  obtain rfl : _ = _ := steps
  rfl

@[simp] theorem kind_ofSteps (kind : Kind) (steps : List Step) : (ofSteps kind steps).kind = kind := rfl

@[simp] theorem steps_ofSteps (kind : Kind) (steps : List Step) : (ofSteps kind steps).steps = steps := rfl

@[simp] theorem kind_add (locator : Locator) (step : Step) : (locator.add step).kind = locator.kind := rfl

@[simp] theorem steps_add (locator : Locator) (step : Step) : (locator.add step).steps = locator.steps ++ [step] := rfl

@[simp] theorem kind_extend (locator : Locator) (steps : List Step) : (locator.extend steps).kind = locator.kind := by
  induction steps generalizing locator with
  | nil => rfl
  | cons step rest ih => exact ih (locator.add step)

@[simp] theorem steps_extend (locator : Locator) (steps : List Step) :
    (locator.extend steps).steps = locator.steps ++ steps := by
  induction steps generalizing locator with
  | nil => exact (List.append_nil _).symm
  | cons step rest ih => exact (ih (locator.add step)).trans (List.append_assoc ..)

theorem isRoot_eq (locator : Locator) : locator.isRoot = locator.steps.isEmpty := by
  rw [isRoot, locator.counted]
  cases locator.steps <;> rfl

@[simp] theorem extend_ofSteps (kind : Kind) (front back : List Step) :
    (ofSteps kind front).extend back = ofSteps kind (front ++ back) :=
  ext (kind_extend ..) (steps_extend ..)

theorem extend_root (kind : Kind) (steps : List Step) : (root kind).extend steps = ofSteps kind steps :=
  extend_ofSteps kind [] steps

theorem ofPath_eq (kind : Kind) (dotted : String) : ofPath kind dotted = ofSteps kind ((hops dotted).map Step.go) :=
  extend_root ..

end Locator

end DataLocator
