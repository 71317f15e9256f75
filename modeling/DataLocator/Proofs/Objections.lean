import DataLocator.Proofs.Meeting
import DataLocator.Proofs.MergeStore

/-! # What is wrong with a store

What is wrong with a store is found before its first step, so it is found whatever the data is, and the data is left
alone. One thing is not found there: that the value for a merge is no mapping is found by the merge, when the steps in
front of it have been gone through. On its way such a store does what a store of an empty mapping does
(`goes_with_probe`), and that one merges nothing. So it gets to its merge exactly if that one merges or conflicts, and
leaves the data as that one does.
-/

namespace DataLocator

open Value

theorem mergeInto_of_noMapping {incoming : Value} (noMapping : ∀ layer, incoming ≠ .mapping layer)
    (granted : MergeContext) (existing : Value) :
    mergeInto granted existing incoming =
      { data := existing, result := .error (.invalid (.mergeValue incoming.typeName)) } := by
  cases incoming with
  | mapping layer => exact absurd rfl (noMapping layer)
  | _ => rfl

/-- A merge of an empty mapping changes nothing, and conflicts with all but mappings. -/
theorem mergeInto_emptyMapping (granted : MergeContext) (existing : Value) :
    (mergeInto granted existing emptyMapping).data = existing ∧
      ((mergeInto granted existing emptyMapping).result = .ok () ∨
        ∃ typeName, (mergeInto granted existing emptyMapping).result = .error (.mergeConflict typeName)) := by
  cases existing with
  | mapping entries => exact ⟨rfl, .inl rfl⟩
  | _ => exact ⟨rfl, .inr ⟨_, rfl⟩⟩

/-- How a store of a value that no merge takes goes beside one of an empty mapping: both leave the same data, and both
are stopped by the same look-up or both get to the merge. -/
structure GoesWith (typeName : String) (refused probe : Outcome Unit) : Prop where
  data : refused.data = probe.data
  result :
    (∃ cause, refused.result = .error (.lookup cause) ∧ probe.result = .error (.lookup cause)) ∨
      refused.result = .error (.invalid (.mergeValue typeName)) ∧
        (probe.result = .ok () ∨ ∃ found, probe.result = .error (.mergeConflict found))

theorem goes_with_probe {incoming : Value} (noMapping : ∀ layer, incoming ≠ .mapping layer) (granted : MergeContext)
    (steps : List TargetStep) (data : Value) :
    GoesWith incoming.typeName
      (writeThrough (some granted) (.present incoming) (steps.map TargetStep.toStep ++ [.merge]) data)
      (writeThrough (some granted) (.present emptyMapping) (steps.map TargetStep.toStep ++ [.merge]) data) := by
  induction steps generalizing data with
  | nil =>
    obtain ⟨unchanged, merges⟩ := mergeInto_emptyMapping granted data
    have refuses := mergeInto_of_noMapping noMapping granted data
    refine ⟨?_, .inr ⟨?_, merges⟩⟩
    · exact (congrArg Outcome.data refuses).trans unchanged.symm
    · exact congrArg Outcome.result refuses
  | cons step rest ih =>
    have more : rest.map TargetStep.toStep ++ [.merge] ≠ [] := by simp
    rw [List.map_cons, List.cons_append]
    cases entered : step.toStep.enter data with
    | error failure =>
      obtain ⟨cause, rfl⟩ := enter_toStep_eq_error entered
      rw [writeThrough_of_refused more entered, writeThrough_of_refused more entered]
      exact ⟨rfl, .inl ⟨cause, rfl, rfl⟩⟩
    | ok descent =>
      rw [writeThrough_of_entered more entered, writeThrough_of_entered more entered]
      obtain ⟨same, results⟩ := ih descent.focus.child
      exact ⟨congrArg descent.focus.refill same, results⟩

theorem GoesWith.reaches_iff {typeName : String} {refused probe : Outcome Unit}
    (goes : GoesWith typeName refused probe) :
    refused.result = .error (.invalid (.mergeValue typeName)) ↔
      probe.result = .ok () ∨ ∃ found, probe.result = .error (.mergeConflict found) := by
  rcases goes.result with ⟨cause, refuses, probes⟩ | ⟨refuses, probes⟩
  · simp [refuses, probes]
  · exact iff_of_true refuses probes

theorem exists_targetSteps {front : List Step} (fits : ∀ step ∈ front, step.fits .target = true)
    (noMerge : ∀ step ∈ front, step.isMerge = false) :
    ∃ inner : List TargetStep, front = inner.map TargetStep.toStep := by
  induction front with
  | nil => exact ⟨[], rfl⟩
  | cons step rest ih =>
    obtain ⟨inner, rfl⟩ := ih (fun other member => fits other (List.mem_cons_of_mem _ member))
      (fun other member => noMerge other (List.mem_cons_of_mem _ member))
    have fitting := fits step List.mem_cons_self
    have other := noMerge step List.mem_cons_self
    cases step with
    | go hop => exact ⟨.go hop :: inner, rfl⟩
    | place placement => exact ⟨.place placement :: inner, rfl⟩
    | merge => contradiction
    | _ => contradiction

section Store

variable {locator : Locator} {context : Option MergeContext} {data : Value}

/-- A legal target that ends in a merge is one that the builders of targets make. -/
theorem exists_target_of_legal (legal : locator.Legal) (writes : locator.kind = .target)
    (merges : locator.isMerge = true) : ∃ target : Target, locator = target.merge.locator := by
  obtain ⟨kind, steps, _, rfl⟩ := locator
  obtain rfl : kind = .target := writes
  obtain ⟨front, rfl⟩ : ∃ front, steps = front ++ [.merge] := Locator.isMerge_eq_true_iff.1 merges
  obtain ⟨inner, rfl⟩ : ∃ inner : List TargetStep, front = inner.map TargetStep.toStep := by
    apply exists_targetSteps
    · intro step member
      exact legal.1 step (List.mem_append_left _ member)
    · intro step member
      simpa using legal.2 step (by simpa using member)
  exact ⟨⟨inner⟩, Locator.ext rfl rfl⟩

theorem store_goes_with_probe {incoming : Value} (noMapping : ∀ layer, incoming ≠ .mapping layer)
    (granted : MergeContext) (target : Target) (data : Value) :
    GoesWith incoming.typeName (store data target.merge.locator (.present incoming) (some granted))
      (store data target.merge.locator (.present emptyMapping) (some granted)) := by
  rw [target.store_merge_locator, target.store_merge_locator]
  exact goes_with_probe noMapping granted target.steps data

/-- What is wrong before the first step is not the value. -/
theorem unobjected_of_mergeValue {value : Presence} {typeName : String}
    (failed : (store data locator value context).result = .error (.invalid (.mergeValue typeName))) :
    locator.storeObjection? context = none := by
  cases objection : locator.storeObjection? context with
  | none => rfl
  | some cause =>
    rw [store_of_objection objection] at failed
    obtain rfl := Failure.invalid.inj (Except.error.inj failed)
    rcases cause_of_storeObjection objection with ⟨-, other⟩ | ⟨-, other⟩ | ⟨-, -, other⟩ <;> contradiction

/-- A store that fails for its value is one of a value that is no mapping, through a target with a merge behind it. -/
theorem target_of_mergeValue {value : Presence} {typeName : String} (legal : locator.Legal)
    (failed : (store data locator value context).result = .error (.invalid (.mergeValue typeName))) :
    ∃ (target : Target) (granted : MergeContext) (incoming : Value), locator = target.merge.locator ∧
      context = some granted ∧ value = .present incoming ∧ (∀ layer, incoming ≠ .mapping layer) ∧
        typeName = incoming.typeName := by
  have unobjected := unobjected_of_mergeValue failed
  obtain ⟨writes, -, -⟩ := storeObjection?_eq_none_iff.1 unobjected
  rcases cause_of_failed_store legal failed with ⟨cause, objection, -⟩ | ⟨cause, other⟩ |
      ⟨merges, granted, incoming, existing, rfl, rfl, refused⟩
  · rw [unobjected] at objection
    contradiction
  · contradiction
  · rcases cause_of_failed_merge refused with ⟨-, other⟩ | ⟨noMapping, same⟩
    · contradiction
    · obtain ⟨target, made⟩ := exists_target_of_legal legal writes merges
      obtain rfl := InvalidOperation.mergeValue.inj (Failure.invalid.inj same)
      exact ⟨target, granted, incoming, made, rfl, rfl, noMapping, rfl⟩

/-- All that is wrong with a store but its value is wrong before its first step. -/
theorem objection_of_failed {value : Presence} {cause : InvalidOperation} (legal : locator.Legal)
    (other : ∀ typeName, cause ≠ .mergeValue typeName)
    (failed : (store data locator value context).result = .error (.invalid cause)) :
    locator.storeObjection? context = some cause := by
  rcases cause_of_failed_store legal failed with ⟨objected, objection, same⟩ | ⟨lookup, same⟩ |
      ⟨-, granted, incoming, existing, -, -, refused⟩
  · obtain rfl := Failure.invalid.inj same
    exact objection
  · contradiction
  · rcases cause_of_failed_merge refused with ⟨-, same⟩ | ⟨-, same⟩
    · contradiction
    · exact absurd (Failure.invalid.inj same) (other _)

end Store

/-- All that can be wrong with a store but its value is so for all data, and leaves the data alone. That a value is no
mapping is found where a store of an empty mapping through the same target would merge or conflict, and leaves the data
as that store leaves it. -/
theorem store_invalidOperation {locator : Locator} (legal : locator.Legal) (value : Presence)
    (context : Option MergeContext) :
    (∀ cause data, (∀ typeName, cause ≠ .mergeValue typeName) →
      (store data locator value context).result = .error (.invalid cause) →
        ∀ other, store other locator value context = { data := other, result := .error (.invalid cause) }) ∧
    ∀ typeName data,
      let stored := store data locator value context
      let probe := store data locator (.present emptyMapping) context
      (stored.result = .error (.invalid (.mergeValue typeName)) ↔
        locator.isMerge = true ∧
          (∃ incoming, value = .present incoming ∧ (∀ layer, incoming ≠ .mapping layer) ∧
            typeName = incoming.typeName) ∧
            (probe.result = .ok () ∨ ∃ found, probe.result = .error (.mergeConflict found))) ∧
      (stored.result = .error (.invalid (.mergeValue typeName)) → stored.data = probe.data) := by
  constructor
  · intro cause data other failed more
    exact store_of_objection (objection_of_failed legal other failed) more value
  intro typeName data stored probe
  refine ⟨⟨fun failed => ?_, ?_⟩, fun failed => ?_⟩
  · obtain ⟨target, granted, incoming, rfl, rfl, rfl, noMapping, rfl⟩ := target_of_mergeValue legal failed
    have goes := store_goes_with_probe noMapping granted target data
    exact ⟨Locator.isMerge_eq_true_iff.2 ⟨_, rfl⟩, ⟨incoming, rfl, noMapping, rfl⟩, goes.reaches_iff.1 failed⟩
  · rintro ⟨merges, ⟨incoming, rfl, noMapping, rfl⟩, reaches⟩
    have unobjected : locator.storeObjection? context = none := by
      cases objection : locator.storeObjection? context with
      | none => rfl
      | some cause =>
        have objected : probe.result = .error (.invalid cause) :=
          congrArg Outcome.result (store_of_objection objection data _)
        simp [objected] at reaches
    obtain ⟨writes, -, authorised⟩ := storeObjection?_eq_none_iff.1 unobjected
    obtain ⟨granted, rfl⟩ := Option.isSome_iff_exists.1 (authorised merges)
    obtain ⟨target, rfl⟩ := exists_target_of_legal legal writes merges
    exact (store_goes_with_probe noMapping granted target data).reaches_iff.2 reaches
  · obtain ⟨target, granted, incoming, rfl, rfl, rfl, noMapping, rfl⟩ := target_of_mergeValue legal failed
    exact (store_goes_with_probe noMapping granted target data).data

/-- Without a context a merge is refused for all data. -/
theorem store_invalidOperation_unauthorised :
    let locator : Locator := (Target.mk [.go (.item (.name "a"))]).merge.locator
    locator.Legal ∧ (store .null locator (.present .null) none).result = .error (.invalid .mergeUnauthorised) ∧
      ∀ other, store other locator (.present .null) none =
        { data := other, result := .error (.invalid .mergeUnauthorised) } := by
  intro locator
  have legal : locator.Legal :=
    ⟨by simp [locator, Target.merge, MergeTarget.locator, Target.locator, TargetStep.toStep, Step.fits],
      by simp [locator, Target.merge, MergeTarget.locator, Target.locator, TargetStep.toStep, Step.isMerge]⟩
  have failed : (store .null locator (.present .null) none).result = .error (.invalid .mergeUnauthorised) := rfl
  exact ⟨legal, failed, (store_invalidOperation legal (.present .null) none).1 _ .null (by simp) failed⟩

/-- That a value is no mapping is found in data that takes the steps in front of the merge, and a mapping that was made
for them stays. In data that does not take them it is not found. -/
theorem mergeValue_depends_on_data :
    let locator : Locator := (Target.mk [.go (.item (.name "a"))]).merge.locator
    let value : Presence := .present (.integer 5)
    let stored := store emptyMapping locator value (some {})
    stored.result = .error (.invalid (.mergeValue "integer")) ∧ stored.data = .mapping [("a", emptyMapping)] ∧
      stored.data ≠ emptyMapping ∧
        store (.integer 5) locator value (some {}) =
          { data := .integer 5, result := .error (.lookup (.unsupported "integer" .itemAccess)) } := by
  refine ⟨rfl, rfl, ?_, rfl⟩
  intro same
  cases same

end DataLocator
