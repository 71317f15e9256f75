import DataLocator.Proofs.Meeting
import DataLocator.Proofs.PlanRuns

/-! # Early validation

What the builders and the pushes of rules let through is not refused later for what they look at. A store through a
locator that was built meets no step that may not stand in it (`Locator.Obtainable.legal`), a load through one never
raises an invalid operation but for its kind (`cause_of_failed_load`), and a plan of such locators fails at a rule whose
load or whose store fails (`exists_failing_of_run`).
-/

namespace DataLocator

open Value

/-- There is a way to come by the locator. -/
def Locator.Obtainable (locator : Locator) : Prop := ∃ construction : Construction, construction.make = .ok locator

theorem Locator.Obtainable.legal {locator : Locator} (obtainable : locator.Obtainable) : locator.Legal := by
  obtain ⟨construction, made⟩ := obtainable
  obtain ⟨admits, rfl⟩ := Construction.make_eq_ok_iff.1 made
  exact Locator.legal_iff_admits.2 admits

/-- The step that a store meets once it is past the checks in front of its first step. -/
def Locator.ComesTo (locator : Locator) (context : Option MergeContext) (value : Presence) (data : Value) (met : Step)
    (back : List Step) (node : Value) : Prop :=
  locator.storeObjection? context = none ∧
    (value.isPresent = true ∨ locator.steps.any Step.isPlacement = true) ∧ Meets locator.steps data met back node

/-- What a builder objects to in a step. -/
def InvalidOperation.isMisplacement : InvalidOperation → Bool
  | sourceOnly _ | targetOnly _ | mergeNotFinal => true
  | _ => false

section Load

variable {finding : Finding} {step : Step} {steps : List Step} {failure : Failure}

theorem cause_of_failed_advance (failed : step.advance finding = .error failure) :
    (∃ cause, failure = .lookup cause) ∨ ∃ name cause, failure = .conversion name cause := by
  cases finding with
  | error miss =>
    cases step with
    | required => exact .inl ⟨miss, (Except.error.inj failed).symm⟩
    | _ => contradiction
  | ok value =>
    cases step with
    | convert converter =>
      cases converted : converter.convert value with
      | ok result => simp [Step.advance, Step.proceed, converted] at failed
      | error cause =>
        simp only [Step.advance, Step.proceed, converted, Except.error.injEq] at failed
        exact .inr ⟨converter.name, cause, failed.symm⟩
    | _ => contradiction

theorem cause_of_failed_follow (failed : follow steps finding = .error failure) :
    (∃ cause, failure = .lookup cause) ∨ ∃ name cause, failure = .conversion name cause := by
  induction steps generalizing finding with
  | nil => contradiction
  | cons step rest ih =>
    unfold follow at failed
    split at failed
    · exact ih failed
    · next raised =>
      obtain rfl := Except.error.inj failed
      exact cause_of_failed_advance raised

/-- A load through a source fails by a look-up or by a conversion. -/
theorem cause_of_failed_load {data : Value} {locator : Locator} (reads : locator.kind = .source)
    (failed : (load data locator).result = .error failure) :
    (∃ cause, failure = .lookup cause) ∨ ∃ name cause, failure = .conversion name cause := by
  cases followed : follow locator.steps (.ok data) with
  | error raised =>
    rw [load_of_raised reads followed] at failed
    obtain rfl := Except.error.inj failed
    exact cause_of_failed_follow followed
  | ok finding =>
    cases finding with
    | ok value =>
      rw [load_of_found reads followed] at failed
      contradiction
    | error miss =>
      rw [load_of_missed reads followed] at failed
      contradiction

/-- A load through a locator that was built is refused for its kind, or there is no step that writes in its chain. -/
theorem load_refused_or_reads {locator : Locator} (legal : locator.Legal) (data : Value) :
    load data locator = { result := .error (.invalid .loadFromTarget) } ∨
      ∀ step ∈ locator.steps, step ≠ .merge ∧ ∀ placement, step ≠ .place placement := by
  cases kind : locator.kind with
  | target =>
    left
    simp only [load, Locator.expect, kind]
  | source => exact .inr ((admits_of_legal legal).reads kind)

end Load

section Rule

variable {rule : MappingRule} {source target : Locator} {raw data : Value} {context : Option MergeContext}
variable {failure : Failure}

namespace MappingRule

/-- The rule fails on the data: its source cannot be loaded, or what it leads to cannot be stored. -/
def FailsWith (rule : MappingRule) (raw data : Value) (context : Option MergeContext) (failure : Failure) : Prop :=
  (load raw rule.source).result = .error failure ∨
    ∃ value, (load raw rule.source).result = .ok (.present value) ∧
      (store data rule.target (.present value) context).result = .error failure

/-- The rule of a source and a target, if there is one. -/
def ofPair? (pair : Locator × Locator) : Option MappingRule := (ofLocators pair.1 pair.2).toOption

theorem ofPair?_eq_some_iff {pair : Locator × Locator} :
    ofPair? pair = some rule ↔ ofLocators pair.1 pair.2 = .ok rule := by
  unfold ofPair?
  cases ofLocators pair.1 pair.2 <;> simp [Except.toOption]

/-- What a rule whose locators were built may fail for. -/
inductive Fault (rule : MappingRule) (raw : Value) (context : Option MergeContext) : Failure → Prop
  | lookup (cause : LookupFailure) : Fault rule raw context (.lookup cause)
  | conversion (converter : String) (cause : ConversionFailure) : Fault rule raw context (.conversion converter cause)
  | unauthorised (merges : rule.target.isMerge = true) (missing : context = none) (finds : rule.isFound raw = true) :
      Fault rule raw context (.invalid .mergeUnauthorised)
  | conflict (merges : rule.target.isMerge = true) (typeName : String) :
      Fault rule raw context (.mergeConflict typeName)
  | noMapping (merges : rule.target.isMerge = true) (typeName : String) :
      Fault rule raw context (.invalid (.mergeValue typeName))

theorem fault_of_fails (made : ofLocators source target = .ok rule) (legal : target.Legal)
    (fails : rule.FailsWith raw data context failure) : rule.Fault raw context failure := by
  obtain ⟨reads, writes, nonempty, rfl⟩ := ofLocators_eq_ok_iff.1 made
  rcases fails with failed | ⟨value, found, failed⟩
  · rcases cause_of_failed_load reads failed with ⟨cause, rfl⟩ | ⟨name, cause, rfl⟩
    · exact .lookup cause
    · exact .conversion name cause
  · rcases cause_of_failed_store legal failed with ⟨cause, objection, rfl⟩ | ⟨cause, rfl⟩ |
      ⟨merges, granted, incoming, existing, -, -, refused⟩
    · rcases cause_of_storeObjection objection with ⟨other, -⟩ | ⟨empty, -⟩ | ⟨merges, missing, rfl⟩
      · rw [writes] at other
        contradiction
      · exact absurd empty nonempty
      · exact .unauthorised merges missing (isFound_iff.2 ⟨value, found⟩)
    · exact .lookup cause
    · rcases cause_of_failed_merge refused with ⟨-, rfl⟩ | ⟨-, rfl⟩
      · exact .conflict merges _
      · exact .noMapping merges _

end MappingRule

end Rule

namespace MappingPlan

/-- The plan after pushes that may have failed, one for each pair of a source and a target. -/
def ofPushes (pairs : List (Locator × Locator)) : MappingPlan :=
  pairs.foldl (fun plan pair => (plan.push pair.1 pair.2).plan) {}

/-- The rule of the plan that fails on the data that the rules in front of it left. -/
def FailsAt (plan : MappingPlan) (raw data : Value) (context : Option MergeContext) (rule : MappingRule)
    (failure : Failure) : Prop :=
  ∃ front back report, plan.rules = front ++ rule :: back ∧ (run raw context front data).result = .ok report ∧
    rule.FailsWith raw (run raw context front data).data context failure

section Run

variable {raw data left : Value} {context : Option MergeContext} {rule other : MappingRule}
variable {rules rest : List MappingRule} {failure : Failure}

/-- Behind a rule that ran the others fail on the data that it left. -/
theorem FailsAt.behind {count : MappingReport → MappingReport} {earlier : List Event}
    (ran : ∀ rest, run raw context (rule :: rest) data = (run raw context rest left).counted count earlier)
    (fails : FailsAt ⟨rest⟩ raw left context other failure) :
    FailsAt ⟨rule :: rest⟩ raw data context other failure := by
  obtain ⟨front, back, report, rfl, before, fails⟩ := fails
  refine ⟨rule :: front, back, count report, rfl, ?_, ?_⟩
  · rw [ran, Outcome.counted_result_eq_ok_iff]
    exact ⟨report, before, rfl⟩
  · rw [ran]
    exact fails

/-- A run that fails does so at one of its rules, and those in front of it have run. -/
theorem exists_failing_of_run (failed : (run raw context rules data).result = .error failure) :
    ∃ rule, FailsAt ⟨rules⟩ raw data context rule failure := by
  induction rules generalizing data with
  | nil => contradiction
  | cons rule rest ih =>
    have first (fails : rule.FailsWith raw data context failure) :
        FailsAt ⟨rule :: rest⟩ raw data context rule failure :=
      ⟨[], rest, {}, rfl, rfl, fails⟩
    cases loaded : (load raw rule.source).result with
    | error raised =>
      rw [run_cons_of_failed loaded] at failed
      obtain rfl := Except.error.inj failed
      exact ⟨rule, first (.inl loaded)⟩
    | ok presence =>
      cases presence with
      | notPresent =>
        have ran (rest : List MappingRule) : run raw context (rule :: rest) data = _ :=
          run_cons_of_absent loaded rest data
        rw [ran, Outcome.counted_result_eq_error_iff] at failed
        obtain ⟨other, fails⟩ := ih failed
        exact ⟨other, fails.behind ran⟩
      | present value =>
        cases stored : (store data rule.target (.present value) context).result with
        | error refused =>
          rw [run_cons_of_refused loaded stored] at failed
          obtain rfl := Except.error.inj failed
          exact ⟨rule, first (.inr ⟨value, loaded, stored⟩)⟩
        | ok done =>
          have ran (rest : List MappingRule) : run raw context (rule :: rest) data = _ :=
            run_cons_of_stored loaded stored rest
          rw [ran, Outcome.counted_result_eq_error_iff] at failed
          obtain ⟨other, fails⟩ := ih failed
          exact ⟨other, fails.behind ran⟩

end Run

/-- A push adds its rule, if there is one. -/
theorem rules_push (plan : MappingPlan) (pair : Locator × Locator) :
    (plan.push pair.1 pair.2).plan.rules = plan.rules ++ (MappingRule.ofPair? pair).toList := by
  unfold push MappingRule.ofPair?
  cases MappingRule.ofLocators pair.1 pair.2 <;> simp [Except.toOption]

/-- A push that fails leaves the plan as it was. -/
theorem plan_of_failed_push {plan : MappingPlan} {source target : Locator} {cause : InvalidOperation}
    (failed : (plan.push source target).result = .error cause) : (plan.push source target).plan = plan := by
  unfold push at failed ⊢
  cases made : MappingRule.ofLocators source target with
  | ok rule => simp [made] at failed
  | error other => rfl

/-- A plan holds the rules of the pushes that did not fail. -/
theorem rules_ofPushes (pairs : List (Locator × Locator)) :
    (ofPushes pairs).rules = pairs.filterMap MappingRule.ofPair? := by
  have goesOn (plan : MappingPlan) :
      (pairs.foldl (fun plan pair => (plan.push pair.1 pair.2).plan) plan).rules =
        plan.rules ++ pairs.filterMap MappingRule.ofPair? := by
    induction pairs generalizing plan with
    | nil => simp
    | cons pair rest ih =>
      rw [List.foldl_cons, ih, rules_push, List.append_assoc]
      cases accepted : MappingRule.ofPair? pair <;> simp [accepted]
  exact (goesOn {}).trans (List.nil_append _)

end MappingPlan

/-- What the checks of the builders promise for the use of a locator. -/
structure Locator.Validated (locator : Locator) : Prop where
  /-- No store finds a step that may not stand where it is. -/
  placed : ∀ data value context cause, (store data locator value context).result = .error (.invalid cause) →
    cause.isMisplacement = false
  /-- A store goes on from hops and placements, and from a merge as the last step alone and with a context. -/
  met : ∀ context value data met back node, locator.ComesTo context value data met back node →
    (store data locator value context).result = (writeThrough context value (met :: back) node).result ∧
      ((∃ hop, met = .go hop) ∨ (∃ placement, met = .place placement) ∨
        met = .merge ∧ back = [] ∧ context.isSome = true)
  /-- A load does not set out, or there is no step on its way that writes. -/
  read : ∀ data, load data locator = { result := .error (.invalid .loadFromTarget) } ∨
    ∀ step ∈ locator.steps, step ≠ .merge ∧ ∀ placement, step ≠ .place placement

/-- What the checks of the pushes promise for the use of a plan. -/
structure MappingPlan.Validated (plan : MappingPlan) : Prop where
  /-- No run finds an invalid operation but for a merge. -/
  placed : ∀ raw data context cause, (plan.apply raw data context).result = .error (.invalid cause) →
    cause = .mergeUnauthorised ∨ ∃ typeName, cause = .mergeValue typeName
  authorised : ∀ raw data context, (plan.apply raw data context).result = .error (.invalid .mergeUnauthorised) →
    context = none ∧ ∃ rule ∈ plan.rules, rule.isFound raw = true ∧ rule.target.isMerge = true
  merged : ∀ raw data context failure, (plan.apply raw data context).result = .error failure →
    (∃ typeName, failure = .mergeConflict typeName ∨ failure = .invalid (.mergeValue typeName)) →
      ∃ rule, plan.FailsAt raw data context rule failure ∧ rule.target.isMerge = true

theorem Locator.Legal.validated {locator : Locator} (legal : locator.Legal) : locator.Validated where
  placed data value context cause failed := by
    rcases cause_of_failed_store legal failed with ⟨objection, objects, same⟩ | ⟨other, same⟩ |
      ⟨-, granted, incoming, existing, -, -, refused⟩
    · obtain rfl := Failure.invalid.inj same
      rcases cause_of_storeObjection objects with ⟨-, rfl⟩ | ⟨-, rfl⟩ | ⟨-, -, rfl⟩ <;> rfl
    · contradiction
    · rcases cause_of_failed_merge refused with ⟨-, same⟩ | ⟨-, same⟩
      · contradiction
      · obtain rfl := Failure.invalid.inj same
        rfl
  met context value data met back node comes := by
    obtain ⟨unobjected, busy, meets⟩ := comes
    obtain ⟨writes, -, authorised⟩ := storeObjection?_eq_none_iff.1 unobjected
    have admits : Kind.target.Admits locator.steps := writes ▸ admits_of_legal legal
    refine ⟨?_, (meets.admitted admits).imp_right (Or.imp_right ?_)⟩
    · rw [store_of_busy unobjected busy]
      exact meets.result
    · rintro ⟨rfl, rfl⟩
      exact ⟨rfl, rfl, authorised (Locator.isMerge_eq_true_iff.2 meets.split)⟩
  read data := load_refused_or_reads legal data

theorem MappingPlan.exists_fault_of_apply {plan : MappingPlan}
    (made : ∀ rule ∈ plan.rules, ∃ source target, MappingRule.ofLocators source target = .ok rule ∧ target.Legal)
    {raw data : Value} {context : Option MergeContext} {failure : Failure}
    (failed : (plan.apply raw data context).result = .error failure) :
    ∃ rule ∈ plan.rules, plan.FailsAt raw data context rule failure ∧ rule.Fault raw context failure := by
  obtain ⟨rule, fails⟩ := exists_failing_of_run failed
  obtain ⟨front, back, report, same, ran, atRule⟩ := fails
  have member : rule ∈ plan.rules := same ▸ List.mem_append_right front List.mem_cons_self
  obtain ⟨source, target, accepted, legal⟩ := made rule member
  exact ⟨rule, member, ⟨front, back, report, same, ran, atRule⟩, MappingRule.fault_of_fails accepted legal atRule⟩

theorem MappingPlan.validated {plan : MappingPlan}
    (made : ∀ rule ∈ plan.rules, ∃ source target, MappingRule.ofLocators source target = .ok rule ∧ target.Legal) :
    plan.Validated where
  placed raw data context cause failed := by
    obtain ⟨rule, -, -, fault⟩ := exists_fault_of_apply made failed
    cases fault with
    | unauthorised merges missing finds => exact .inl rfl
    | noMapping merges typeName => exact .inr ⟨typeName, rfl⟩
  authorised raw data context failed := by
    obtain ⟨rule, member, -, fault⟩ := exists_fault_of_apply made failed
    cases fault with
    | unauthorised merges missing finds => exact ⟨missing, rule, member, finds, merges⟩
  merged raw data context failure failed concerns := by
    obtain ⟨rule, -, fails, fault⟩ := exists_fault_of_apply made failed
    refine ⟨rule, fails, ?_⟩
    obtain ⟨typeName, rfl | rfl⟩ := concerns
    · cases fault with
      | conflict merges _ => exact merges
    · cases fault with
      | noMapping merges _ => exact merges

/-- An element is found where it was placed, and only a sequence takes one. -/
theorem Value.child?_of_placeElement (container : Value) (placement : Placement) (element : Value) :
    match container.placeElement placement element with
    | .ok descent => descent.focus.container.child? descent.focus.place = some element
    | .error failure => failure = .unsupported container.typeName placement.request := by
  cases container with
  | sequence items =>
    rw [placeElement_sequence]
    exact List.getElem?_insertIdx_self.trans (by simp [placement.position_le])
  | _ => rfl

/-- What the builders and the pushes let through is not refused later for what they look at. An element is always found
where it was placed. -/
theorem validation_complete {locator : Locator} (obtainable : locator.Obtainable) {pairs : List (Locator × Locator)}
    (obtained : ∀ pair ∈ pairs, pair.1.Obtainable ∧ pair.2.Obtainable) :
    locator.Validated ∧
      (∀ (container : Value) (placement : Placement) (element : Value),
        match container.placeElement placement element with
        | .ok descent => descent.focus.container.child? descent.focus.place = some element
        | .error failure => failure = .unsupported container.typeName placement.request) ∧
      (MappingPlan.ofPushes pairs).Validated ∧
      (MappingPlan.ofPushes pairs).rules = pairs.filterMap MappingRule.ofPair? ∧
      ∀ (plan : MappingPlan) (source target : Locator) (cause : InvalidOperation),
        (plan.push source target).result = .error cause → (plan.push source target).plan = plan := by
  refine ⟨obtainable.legal.validated, fun container placement element => ?_, ?_, MappingPlan.rules_ofPushes pairs,
    fun _ _ _ _ => MappingPlan.plan_of_failed_push⟩
  · exact container.child?_of_placeElement placement element
  · refine MappingPlan.validated fun rule member => ?_
    rw [MappingPlan.rules_ofPushes] at member
    obtain ⟨pair, isPair, accepted⟩ := List.mem_filterMap.1 member
    exact ⟨pair.1, pair.2, MappingRule.ofPair?_eq_some_iff.1 accepted, (obtained pair isPair).2.legal⟩

/-- A target at the root is not taken, and of the rule that is taken the merge is found to lack its context. -/
theorem validation_complete_unauthorised :
    let source : Locator := .ofHops .source [.item (.name "a")]
    let target : Locator := .ofSteps .target [.go (.item (.name "items")), .place .append, .merge]
    let pairs := [(source, Locator.root .target), (source, target)]
    let plan := MappingPlan.ofPushes pairs
    let raw : Value := .mapping [("a", .null)]
    target.Obtainable ∧ plan.rules = [⟨source, target⟩] ∧
      (plan.apply raw .emptyMapping none).result = .error (.invalid .mergeUnauthorised) ∧
      ∃ rule ∈ plan.rules, rule.isFound raw = true ∧ rule.target.isMerge = true := by
  intro source target pairs plan raw
  have reads : source.Obtainable := ⟨.source [.item (.name "a")], rfl⟩
  have merges : target.Obtainable := ⟨.mergeTarget [.item (.name "items"), .append], rfl⟩
  have root : (Locator.root .target).Obtainable := ⟨.root .target, rfl⟩
  have obtained : ∀ pair ∈ pairs, pair.1.Obtainable ∧ pair.2.Obtainable :=
    List.forall_mem_cons.2 ⟨⟨reads, root⟩, List.forall_mem_singleton.2 ⟨reads, merges⟩⟩
  have failed : (plan.apply raw .emptyMapping none).result = .error (.invalid .mergeUnauthorised) := rfl
  obtain ⟨-, -, validated, rules, -⟩ := validation_complete merges obtained
  obtain ⟨-, found⟩ := validated.authorised raw .emptyMapping none failed
  exact ⟨merges, rules.trans rfl, failed, found⟩

end DataLocator
