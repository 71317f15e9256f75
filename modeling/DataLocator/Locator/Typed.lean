import DataLocator.Locator.Basic

/-! # Locators by kind

A `Source` or a `Target` is a chain of those steps alone that may stand in a locator of its kind, and a
`MergeTarget` is a target with a merge behind it. Their builders cannot fail, for there is no way to write a
step where it may not stand.
-/

namespace DataLocator

/-- The steps of a source. -/
inductive SourceStep where
  | go (hop : Hop)
  | convert (converter : Converter)
  | required

def SourceStep.toStep : SourceStep → Step
  | go hop => .go hop
  | convert converter => .convert converter
  | required => .required

/-- The steps of a target in front of a merge. -/
inductive TargetStep where
  | go (hop : Hop)
  | place (placement : Placement)
deriving DecidableEq, Repr

def TargetStep.toStep : TargetStep → Step
  | go hop => .go hop
  | place placement => .place placement

/-- A place to read from. -/
structure Source where
  steps : List SourceStep := []

namespace Source

def locator (source : Source) : Locator := .ofSteps .source (source.steps.map SourceStep.toStep)

def push (source : Source) (step : SourceStep) : Source := ⟨source.steps ++ [step]⟩

def item (source : Source) (key : Key) : Source := source.push (.go (.item key))

def attr (source : Source) (name : String) : Source := source.push (.go (.attr name))

def path (source : Source) (dotted : String) : Source :=
  ⟨source.steps ++ (Locator.hops dotted).map SourceStep.go⟩

def convert (source : Source) (converter : Converter) : Source := source.push (.convert converter)

def required (source : Source) : Source := source.push .required

end Source

/-- A place to write to. -/
structure Target where
  steps : List TargetStep := []

/-- A place whose mapping is merged into. -/
structure MergeTarget where
  target : Target

namespace Target

def locator (target : Target) : Locator := .ofSteps .target (target.steps.map TargetStep.toStep)

def push (target : Target) (step : TargetStep) : Target := ⟨target.steps ++ [step]⟩

def item (target : Target) (key : Key) : Target := target.push (.go (.item key))

def attr (target : Target) (name : String) : Target := target.push (.go (.attr name))

def path (target : Target) (dotted : String) : Target :=
  ⟨target.steps ++ (Locator.hops dotted).map TargetStep.go⟩

def append (target : Target) : Target := target.push (.place .append)

def insert (target : Target) (index : UInt64) : Target := target.push (.place (.insert index))

def merge (target : Target) : MergeTarget := ⟨target⟩

end Target

def MergeTarget.locator (merged : MergeTarget) : Locator := merged.target.locator.add .merge

end DataLocator
