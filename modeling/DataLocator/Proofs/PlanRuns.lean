import DataLocator.Plan
import DataLocator.Proofs.Steps

/-! # Runs of plans

A run over rules is a run over the first ones and then one over the others, from the data that the first ones left
(`run_append`). How many rules are applied depends on the raw tree alone (`report_of_run`), and rules without a value
may as well be left out (`run_filter`). To skip such a rule is the same as to store nothing through its target, unless
the target places an element or lacks the context for its merge (`copyAll_of_run`).
-/

namespace DataLocator

/-- The counts of two runs together. -/
instance : Add MappingReport where
  add first second := ⟨first.applied + second.applied, first.skipped + second.skipped⟩

namespace MappingReport

variable (first second report : MappingReport)

theorem empty_add : ({} : MappingReport) + report = report := by
  change MappingReport.mk (0 + report.applied) (0 + report.skipped) = report
  simp

theorem countApplied_add : first.countApplied + second = (first + second).countApplied :=
  congrArg (MappingReport.mk · _) (Nat.add_right_comm ..)

theorem countSkipped_add : first.countSkipped + second = (first + second).countSkipped :=
  congrArg (MappingReport.mk _) (Nat.add_right_comm ..)

/-- The report without the rules that had nothing to store. -/
def withoutSkipped : MappingReport := { report with skipped := 0 }

end MappingReport

namespace MappingRule

/-- Does the source of the rule lead to a value? -/
def isFound (raw : Value) (rule : MappingRule) : Bool :=
  match (load raw rule.source).result with
  | .ok (.present _) => true
  | _ => false

/-- Does the source of the rule lead to nothing? -/
def isAbsent (raw : Value) (rule : MappingRule) : Bool :=
  match (load raw rule.source).result with
  | .ok .notPresent => true
  | _ => false

/-- Stores what the source leads to, be it a value or nothing. -/
def copy (rule : MappingRule) (raw data : Value) (context : Option MergeContext) : Outcome Unit :=
  let loaded := load raw rule.source
  match loaded.result with
  | .error failure => { data, result := .error failure, events := loaded.events }
  | .ok found =>
    let stored := store data rule.target found context
    { stored with events := loaded.events ++ stored.events }

variable {raw value : Value} {rule : MappingRule}

theorem isFound_iff : rule.isFound raw = true ↔ ∃ value, (load raw rule.source).result = .ok (.present value) := by
  unfold isFound
  split <;> simp_all

theorem isAbsent_iff : rule.isAbsent raw = true ↔ (load raw rule.source).result = .ok .notPresent := by
  unfold isAbsent
  split <;> simp_all

theorem not_isFound_of_absent (absent : (load raw rule.source).result = .ok .notPresent) :
    ¬ rule.isFound raw = true := by
  simp [isFound, absent]

theorem not_isAbsent_of_found (found : (load raw rule.source).result = .ok (.present value)) :
    ¬ rule.isAbsent raw = true := by
  simp [isAbsent, found]

/-- A rule is made of a source and of a target that is not the root, and holds them as they are. -/
theorem ofLocators_eq_ok_iff {source target : Locator} :
    ofLocators source target = .ok rule ↔
      source.kind = .source ∧ target.kind = .target ∧ target.steps ≠ [] ∧ rule = ⟨source, target⟩ := by
  unfold ofLocators Locator.expect
  cases reads : source.kind with
  | target => simp
  | source =>
    cases writes : target.kind with
    | source => simp
    | target =>
      by_cases root : target.steps = []
      · simp [Locator.isRoot_eq, root]
      · simp only [Locator.isRoot_eq, List.isEmpty_iff, root, ↓reduceIte, Except.ok.injEq, ne_eq, not_false_eq_true,
          true_and]
        exact eq_comm

end MappingRule

namespace Outcome

/-- The outcome of rules that ran behind others, with the count of those in front. -/
def counted (count : MappingReport → MappingReport) (earlier : List Event) (after : Outcome MappingReport) :
    Outcome MappingReport :=
  { data := after.data, result := after.result.map count, events := earlier ++ after.events }

/-- An outcome, and what goes on from the data that it left unless it failed. -/
def andThen (before : Outcome MappingReport) (next : Value → Outcome MappingReport) : Outcome MappingReport :=
  match before.result with
  | .error _ => before
  | .ok report => (next before.data).counted (report + ·) before.events

variable {before after : Outcome MappingReport} {next : Value → Outcome MappingReport}
  {count : MappingReport → MappingReport} {earlier : List Event} {report : MappingReport}

theorem counted_result_eq_ok_iff :
    (after.counted count earlier).result = .ok report ↔ ∃ later, after.result = .ok later ∧ report = count later := by
  cases ran : after.result <;> simp [counted, ran, Except.map, eq_comm]

theorem counted_result_eq_error_iff {failure : Failure} :
    (after.counted count earlier).result = .error failure ↔ after.result = .error failure := by
  cases ran : after.result <;> simp [counted, ran, Except.map]

theorem counted_result_map {α : Type} (view : MappingReport → α) :
    (after.counted count earlier).result.map view = after.result.map fun report => view (count report) := by
  cases ran : after.result <;> simp [counted, ran, Except.map]

theorem counted_empty (after : Outcome MappingReport) : after.counted (({} : MappingReport) + ·) [] = after := by
  obtain ⟨data, result, events⟩ := after
  cases result <;> simp [counted, Except.map, MappingReport.empty_add]

theorem andThen_of_error {failure : Failure} (failed : before.result = .error failure) :
    before.andThen next = before := by
  simp only [andThen, failed]

theorem andThen_of_ok (ran : before.result = .ok report) :
    before.andThen next = (next before.data).counted (report + ·) before.events := by
  simp only [andThen, ran]

theorem andThen_counted (counts : ∀ first second, count first + second = count (first + second))
    (earlier : List Event) :
    (before.counted count earlier).andThen next = (before.andThen next).counted count earlier := by
  cases ran : before.result with
  | error failure =>
    have failed : (before.counted count earlier).result = .error failure := by rw [counted, ran]; rfl
    rw [andThen_of_error failed, andThen_of_error ran]
  | ok report =>
    have counting : (before.counted count earlier).result = .ok (count report) := by rw [counted, ran]; rfl
    rw [andThen_of_ok counting, andThen_of_ok ran]
    cases after : (next before.data).result <;> simp [counted, after, Except.map, counts]

end Outcome

namespace MappingPlan

/-- The plans that are made rule by rule. -/
inductive Built : MappingPlan → Prop
  | empty : Built {}
  | push {plan : MappingPlan} (built : Built plan) (source target : Locator) : Built (plan.push source target).plan

/-- Copies by each rule in turn until one fails. -/
def copyAll (raw : Value) (context : Option MergeContext) : List MappingRule → Value → Outcome Unit
  | [], data => { data, result := .ok () }
  | rule :: rest, data =>
    let copied := rule.copy raw data context
    match copied.result with
    | .error _ => copied
    | .ok () =>
      let after := copyAll raw context rest copied.data
      { after with events := copied.events ++ after.events }

section Run

variable {raw data value : Value} {context : Option MergeContext} {rule : MappingRule} {rules : List MappingRule}
  {failure : Failure} {report : MappingReport}

theorem run_cons_of_failed (fails : (load raw rule.source).result = .error failure) (rest : List MappingRule)
    (data : Value) :
    run raw context (rule :: rest) data =
      { data, result := .error failure, events := (load raw rule.source).events } := by
  simp only [run, fails]

theorem run_cons_of_absent (absent : (load raw rule.source).result = .ok .notPresent) (rest : List MappingRule)
    (data : Value) :
    run raw context (rule :: rest) data =
      (run raw context rest data).counted .countSkipped
        ((load raw rule.source).events ++ [.sourceAbsent rule.source.text]) := by
  simp only [run, absent, Outcome.counted, List.append_assoc, List.cons_append, List.nil_append]

theorem run_cons_of_refused (found : (load raw rule.source).result = .ok (.present value))
    (refused : (store data rule.target (.present value) context).result = .error failure) (rest : List MappingRule) :
    let stored := store data rule.target (.present value) context
    run raw context (rule :: rest) data =
      { data := stored.data, result := .error failure
        events := (load raw rule.source).events ++ stored.events } := by
  simp only [run, found, refused]

theorem run_cons_of_stored (found : (load raw rule.source).result = .ok (.present value))
    (taken : (store data rule.target (.present value) context).result = .ok ()) (rest : List MappingRule) :
    let stored := store data rule.target (.present value) context
    run raw context (rule :: rest) data =
      (run raw context rest stored.data).counted .countApplied
        ((load raw rule.source).events ++ stored.events ++ [.ruleApplied rule.source.text rule.target.text]) := by
  simp only [run, found, taken, Outcome.counted, List.append_assoc, List.cons_append, List.nil_append]

/-- A run that succeeds skips its first rule or stores what its source leads to, and goes on. -/
theorem run_cons_eq_ok_iff {rest : List MappingRule} :
    (run raw context (rule :: rest) data).result = .ok report ↔
      (load raw rule.source).result = .ok .notPresent ∧
          (∃ later, (run raw context rest data).result = .ok later ∧ report = later.countSkipped) ∨
        ∃ value, (load raw rule.source).result = .ok (.present value) ∧
          let stored := store data rule.target (.present value) context
          stored.result = .ok () ∧
            ∃ later, (run raw context rest stored.data).result = .ok later ∧ report = later.countApplied := by
  cases loaded : (load raw rule.source).result with
  | error failure => simp [run_cons_of_failed loaded]
  | ok presence =>
    cases presence with
    | notPresent =>
      rw [run_cons_of_absent loaded, Outcome.counted_result_eq_ok_iff]
      simp
    | present value =>
      cases stored : (store data rule.target (.present value) context).result with
      | error failure => simp [run_cons_of_refused loaded stored, stored]
      | ok done =>
        rw [run_cons_of_stored loaded stored, Outcome.counted_result_eq_ok_iff]
        simp [stored]

/-- A run over two lists of rules is the run over the second from what the one over the first left. -/
theorem run_append (raw : Value) (context : Option MergeContext) (front back : List MappingRule) (data : Value) :
    run raw context (front ++ back) data = (run raw context front data).andThen (run raw context back) := by
  induction front generalizing data with
  | nil =>
    rw [List.nil_append, Outcome.andThen_of_ok (rfl : (run raw context [] data).result = .ok {})]
    exact (Outcome.counted_empty _).symm
  | cons rule rest ih =>
    rw [List.cons_append]
    cases loaded : (load raw rule.source).result with
    | error failure =>
      rw [run_cons_of_failed loaded, run_cons_of_failed loaded]
      rfl
    | ok presence =>
      cases presence with
      | notPresent =>
        rw [run_cons_of_absent loaded, run_cons_of_absent loaded, ih,
          Outcome.andThen_counted MappingReport.countSkipped_add]
      | present value =>
        cases stored : (store data rule.target (.present value) context).result with
        | error failure =>
          rw [run_cons_of_refused loaded stored, run_cons_of_refused loaded stored]
          rfl
        | ok done =>
          rw [run_cons_of_stored loaded stored, run_cons_of_stored loaded stored, ih,
            Outcome.andThen_counted MappingReport.countApplied_add]

/-- A run that succeeds has applied the rules that find a value and skipped those that find nothing, and there are no
others. -/
theorem report_of_run (ran : (run raw context rules data).result = .ok report) :
    report = ⟨rules.countP (MappingRule.isFound raw), rules.countP (MappingRule.isAbsent raw)⟩ ∧
      ∀ rule ∈ rules, rule.isFound raw ∨ rule.isAbsent raw := by
  induction rules generalizing data report with
  | nil =>
    obtain rfl := Except.ok.inj ran
    exact ⟨rfl, by simp⟩
  | cons rule rest ih =>
    rw [List.forall_mem_cons]
    obtain ⟨absent, later, goesOn, rfl⟩ | ⟨value, found, -, later, goesOn, rfl⟩ := run_cons_eq_ok_iff.1 ran
    · obtain ⟨rfl, loads⟩ := ih goesOn
      have skips := MappingRule.isAbsent_iff.2 absent
      rw [List.countP_cons_of_pos skips, List.countP_cons_of_neg (MappingRule.not_isFound_of_absent absent)]
      exact ⟨rfl, .inr skips, loads⟩
    · obtain ⟨rfl, loads⟩ := ih goesOn
      have finds := MappingRule.isFound_iff.2 ⟨value, found⟩
      rw [List.countP_cons_of_pos finds, List.countP_cons_of_neg (MappingRule.not_isAbsent_of_found found)]
      exact ⟨rfl, .inl finds, loads⟩

/-- Every rule of a run that succeeds is counted. -/
theorem applied_add_skipped (ran : (run raw context rules data).result = .ok report) :
    report.applied + report.skipped = rules.length := by
  obtain ⟨rfl, loads⟩ := report_of_run ran
  have others : rules.countP (MappingRule.isAbsent raw) = rules.countP fun rule => !rule.isFound raw := by
    apply List.countP_congr
    intro rule member
    rcases loads rule member with finds | skips
    · obtain ⟨value, found⟩ := MappingRule.isFound_iff.1 finds
      simp [finds, MappingRule.not_isAbsent_of_found found]
    · simp [skips, MappingRule.not_isFound_of_absent (MappingRule.isAbsent_iff.1 skips)]
  rw [others]
  simpa using (List.length_eq_countP_add_countP (MappingRule.isFound raw) (l := rules)).symm

/-- The rules that find nothing may as well be left out. -/
theorem run_filter (raw : Value) (context : Option MergeContext) (rules : List MappingRule) (data : Value) :
    (run raw context (rules.filter fun rule => !rule.isAbsent raw) data).data = (run raw context rules data).data ∧
      (run raw context (rules.filter fun rule => !rule.isAbsent raw) data).result =
        (run raw context rules data).result.map .withoutSkipped := by
  induction rules generalizing data with
  | nil => exact ⟨rfl, rfl⟩
  | cons rule rest ih =>
    cases loaded : (load raw rule.source).result with
    | error failure =>
      have keeps : (!rule.isAbsent raw) = true := by simp [MappingRule.isAbsent, loaded]
      rw [List.filter_cons, if_pos keeps, run_cons_of_failed loaded, run_cons_of_failed loaded]
      exact ⟨rfl, rfl⟩
    | ok presence =>
      cases presence with
      | notPresent =>
        have drops : ¬ (!rule.isAbsent raw) = true := by simp [MappingRule.isAbsent, loaded]
        obtain ⟨sameData, sameResult⟩ := ih data
        rw [List.filter_cons, if_neg drops, run_cons_of_absent loaded, sameData, sameResult]
        rw [Outcome.counted_result_map]
        exact ⟨rfl, rfl⟩
      | present value =>
        have keeps : (!rule.isAbsent raw) = true := by simp [MappingRule.isAbsent, loaded]
        rw [List.filter_cons, if_pos keeps]
        cases stored : (store data rule.target (.present value) context).result with
        | error failure =>
          rw [run_cons_of_refused loaded stored, run_cons_of_refused loaded stored]
          exact ⟨rfl, rfl⟩
        | ok done =>
          obtain ⟨sameData, sameResult⟩ := ih (store data rule.target (.present value) context).data
          rw [run_cons_of_stored loaded stored, run_cons_of_stored loaded stored]
          refine ⟨sameData, ?_⟩
          rw [Outcome.counted_result_map, Outcome.counted, sameResult]
          cases (run raw context rest (store data rule.target (.present value) context).data).result <;> rfl

end Run

section Copy

variable {context : Option MergeContext} {rules : List MappingRule}

/-- A run does what copying by each rule does, where absent values are stored by leaving the data alone. -/
theorem copyAll_of_run
    (idle : ∀ rule ∈ rules, rule.target.storeObjection? context = none ∧ rule.target.steps.any Step.isPlacement = false)
    (raw data : Value) :
    (copyAll raw context rules data).data = (run raw context rules data).data ∧
      (copyAll raw context rules data).result = (run raw context rules data).result.map fun _ => () := by
  induction rules generalizing data with
  | nil => exact ⟨rfl, rfl⟩
  | cons rule rest ih =>
    rw [List.forall_mem_cons] at idle
    obtain ⟨⟨permitted, placeless⟩, later⟩ := idle
    cases loaded : (load raw rule.source).result with
    | error failure => simp [copyAll, MappingRule.copy, loaded, run_cons_of_failed loaded, Except.map]
    | ok found =>
      cases found with
      | notPresent =>
        obtain ⟨sameData, sameResult⟩ := ih later data
        have skips := store_notPresent permitted placeless data
        rw [run_cons_of_absent loaded]
        simp only [copyAll, MappingRule.copy, loaded, skips, sameData, sameResult]
        rw [Outcome.counted_result_map]
        exact ⟨rfl, rfl⟩
      | present value =>
        cases stored : (store data rule.target (.present value) context).result with
        | error failure =>
          rw [run_cons_of_refused loaded stored]
          simp [copyAll, MappingRule.copy, loaded, stored, Except.map]
        | ok done =>
          obtain ⟨sameData, sameResult⟩ := ih later (store data rule.target (.present value) context).data
          rw [run_cons_of_stored loaded stored]
          simp only [copyAll, MappingRule.copy, loaded, stored, sameData, sameResult]
          rw [Outcome.counted_result_map]
          exact ⟨rfl, rfl⟩

end Copy

/-- The rules of a plan that was made rule by rule store through targets, and not at the root. -/
theorem Built.permits {plan : MappingPlan} (built : plan.Built) :
    ∀ rule ∈ plan.rules, rule.target.kind = .target ∧ rule.target.steps ≠ [] := by
  induction built with
  | empty => simp
  | @push plan _ source target ih =>
    unfold MappingPlan.push
    cases made : MappingRule.ofLocators source target with
    | error cause => exact ih
    | ok rule =>
      intro other member
      rcases List.mem_append.1 member with old | new
      · exact ih other old
      · obtain rfl := List.mem_singleton.1 new
        obtain ⟨-, writes, nonempty, rfl⟩ := MappingRule.ofLocators_eq_ok_iff.1 made
        exact ⟨writes, nonempty⟩

/-- A run over two lists of rules fails as the first part does, or goes on with the second and adds the counts. A run
that succeeds counts each rule, as applied if its source leads to a value; the rules without one may be left out. They
may also be stored as nothing, where no target places an element and none lacks the context for its merge. -/
theorem apply_decomposes {plan : MappingPlan} (built : plan.Built) (raw data : Value) (context : Option MergeContext) :
    let whole := plan.apply raw data context
    let kept := MappingPlan.apply ⟨plan.rules.filter fun rule => !rule.isAbsent raw⟩ raw data context
    (∀ front back, plan.rules = front ++ back →
      let before := MappingPlan.apply ⟨front⟩ raw data context
      let after := MappingPlan.apply ⟨back⟩ raw before.data context
      (∀ failure, before.result = .error failure → whole = before) ∧
        ∀ report, before.result = .ok report →
          whole.data = after.data ∧ whole.result = after.result.map (report + ·) ∧
            whole.events = before.events ++ after.events) ∧
    (∀ report, whole.result = .ok report →
      report.applied + report.skipped = plan.rules.length ∧
        report.applied = plan.rules.countP (MappingRule.isFound raw)) ∧
    (kept.data = whole.data ∧ kept.result = whole.result.map .withoutSkipped) ∧
    ((∀ rule ∈ plan.rules, rule.target.steps.any Step.isPlacement = false) →
      (context.isSome = true ∨ ∀ rule ∈ plan.rules, rule.target.isMerge = false) →
        let copied := copyAll raw context plan.rules data
        copied.data = whole.data ∧ copied.result = whole.result.map fun _ => ()) := by
  intro whole kept
  refine ⟨fun front back parts => ?_, fun report ran => ?_, run_filter raw context plan.rules data,
    fun placeless merges => ?_⟩
  · have split : whole = (MappingPlan.apply ⟨front⟩ raw data context).andThen (run raw context back) :=
      (congrArg (run raw context · data) parts).trans (run_append ..)
    refine ⟨fun failure failed => split.trans (Outcome.andThen_of_error failed), fun report ran => ?_⟩
    rw [split, Outcome.andThen_of_ok ran]
    exact ⟨rfl, rfl, rfl⟩
  · refine ⟨applied_add_skipped ran, ?_⟩
    rw [(report_of_run ran).1]
  · refine copyAll_of_run (fun rule member => ⟨?_, placeless rule member⟩) raw data
    obtain ⟨writes, nonempty⟩ := built.permits rule member
    refine storeObjection?_eq_none_iff.2 ⟨writes, nonempty, fun merging => ?_⟩
    rcases merges with given | none
    · exact given
    · rw [none rule member] at merging
      contradiction

/-- A merge of nothing with a context is skipped, and the rule behind it is applied. -/
theorem apply_decomposes_at_absent_merge :
    let source (name : String) : Locator := .ofHops .source [.item (.name name)]
    let target (name : String) : Locator := .ofHops .target [.item (.name name)]
    let first : MappingRule := ⟨source "a", (target "x").extend [.merge]⟩
    let second : MappingRule := ⟨source "b", target "y"⟩
    let raw : Value := .mapping [("b", .bool true)]
    let whole := MappingPlan.apply ⟨[first, second]⟩ raw .emptyMapping (some {})
    let copied := copyAll raw (some {}) [first, second] .emptyMapping
    MappingPlan.Built ⟨[first, second]⟩ ∧ whole.result = .ok ⟨1, 1⟩ ∧ whole.data = .mapping [("y", .bool true)] ∧
      copied.data = whole.data ∧ copied.result = .ok () := by
  intro source target first second raw whole copied
  have built : MappingPlan.Built ⟨[first, second]⟩ :=
    (Built.empty.push first.source first.target).push second.source second.target
  have ran : whole.result = .ok ⟨1, 1⟩ := rfl
  have placeless : ∀ rule ∈ [first, second], rule.target.steps.any Step.isPlacement = false := by
    simp [first, second, target, Locator.ofHops, Step.isPlacement]
  obtain ⟨-, -, -, copies⟩ := apply_decomposes built raw .emptyMapping (some {})
  obtain ⟨sameData, sameResult⟩ := copies placeless (.inl rfl)
  exact ⟨built, ran, rfl, sameData, sameResult.trans (congrArg _ ran)⟩

end MappingPlan

end DataLocator
