import DataLocator.Reading
import DataLocator.Writing

/-! # Mapping plans

A rule takes what its source finds in one tree and stores it through its target in another. A plan is a list of
rules and runs them in order. A rule whose source is absent is skipped, and the first failure ends the run.
-/

namespace DataLocator

/-- Where a value comes from and where it goes. -/
structure MappingRule where
  source : Locator
  target : Locator

/-- The rule, if the locators are of the right kinds and the target is not the root. -/
def MappingRule.ofLocators (source target : Locator) : Except InvalidOperation MappingRule :=
  match source.expect .source, target.expect .target with
  | .error cause, _ => .error cause
  | _, .error cause => .error cause
  | .ok source, .ok target => if target.isRoot then .error .storeAtRoot else .ok ⟨source, target⟩

/-- How many rules of a run stored a value and how many had none. -/
structure MappingReport where
  applied : Nat := 0
  skipped : Nat := 0
deriving DecidableEq, Repr

namespace MappingReport

/-- The report with one more rule that stored a value. -/
def countApplied (report : MappingReport) : MappingReport := { report with applied := report.applied + 1 }

/-- The report with one more rule that had none. -/
def countSkipped (report : MappingReport) : MappingReport := { report with skipped := report.skipped + 1 }

end MappingReport

/-- Rules that run in order. -/
structure MappingPlan where
  rules : List MappingRule := []

/-- What the adding of a rule leaves of a plan, and whether the rule was added. -/
structure Pushed where
  plan : MappingPlan
  result : Except InvalidOperation Unit

namespace MappingPlan

/-- Adds the rule of a source and a target, if they make one. -/
def push (plan : MappingPlan) (source target : Locator) : Pushed :=
  match MappingRule.ofLocators source target with
  | .ok rule => { plan := ⟨plan.rules ++ [rule]⟩, result := .ok () }
  | .error cause => { plan, result := .error cause }

/-- Runs the rules on what the rules before them left. -/
def run (raw : Value) (context : Option MergeContext) : List MappingRule → Value → Outcome MappingReport
  | [], data => { data, result := .ok {} }
  | rule :: rest, data =>
    let loaded := load raw rule.source
    match loaded.result with
    | .error failure => { data, result := .error failure, events := loaded.events }
    | .ok .notPresent =>
      let after := run raw context rest data
      { data := after.data
        result := after.result.map .countSkipped
        events := loaded.events ++ .sourceAbsent rule.source.text :: after.events }
    | .ok (.present value) =>
      let stored := store data rule.target (.present value) context
      match stored.result with
      | .error failure =>
        { data := stored.data, result := .error failure, events := loaded.events ++ stored.events }
      | .ok () =>
        let after := run raw context rest stored.data
        { data := after.data
          result := after.result.map .countApplied
          events := loaded.events ++ stored.events ++
            .ruleApplied rule.source.text rule.target.text :: after.events }

/-- Stores what the rules find in `raw` into the data. -/
def apply (plan : MappingPlan) (raw data : Value) (context : Option MergeContext) :
    Outcome MappingReport :=
  run raw context plan.rules data

end MappingPlan

end DataLocator
