import DataLocator.Proofs.Building
import DataLocator.Proofs.Leftovers

/-! # The steps that a store meets

A store meets the steps of its locator one after the other, each at a node of its own, up to the first that fails
(`exists_meets_of_failed`). In an admitted chain these are hops and placements, which fail as a look-up does, and at the
end perhaps a merge. So a store through a legal locator fails by a look-up, by an objection that is raised before the
first step, or by its merge (`cause_of_failed_store`).
-/

namespace DataLocator

open Value

/-- A store of the steps into the data meets a step at a node, with steps behind it: the first one at the root, and the
next one at the child that the step before it finds or makes. -/
inductive Meets : List Step → Value → Step → List Step → Value → Prop
  | first (step : Step) (back : List Step) (data : Value) : Meets (step :: back) data step back data
  | next {step met : Step} {rest back : List Step} {data node : Value} {descent : Descent}
      (entered : step.enter data = .ok descent) (below : Meets rest descent.focus.child met back node) :
      Meets (step :: rest) data met back node

section Meets

variable {context : Option MergeContext} {value : Presence} {data node : Value} {met : Step} {steps back : List Step}
variable {failure : Failure}

theorem Meets.split (meets : Meets steps data met back node) : ∃ front, steps = front ++ met :: back := by
  induction meets with
  | first step back data => exact ⟨[], rfl⟩
  | @next step _ _ _ _ _ _ _ _ ih =>
    obtain ⟨front, rfl⟩ := ih
    exact ⟨step :: front, rfl⟩

/-- What becomes of a store is what becomes of it from any step that it meets. -/
theorem Meets.result (meets : Meets steps data met back node) :
    (writeThrough context value steps data).result = (writeThrough context value (met :: back) node).result := by
  induction meets with
  | first step back data => rfl
  | next entered below ih =>
    obtain ⟨front, same⟩ := below.split
    rw [writeThrough_of_entered (by simp [same]) entered]
    exact ih

/-- A store that fails meets the step that fails. -/
theorem exists_meets_of_failed (nonempty : steps ≠ [])
    (failed : (writeThrough context value steps data).result = .error failure) :
    ∃ met back node, Meets steps data met back node ∧ met.resultAt context value back node = .error failure := by
  induction steps generalizing data with
  | nil => contradiction
  | cons step rest ih =>
    by_cases more : rest = []
    · subst more
      exact ⟨step, [], data, .first .., failed⟩
    · cases entered : step.enter data with
      | error cause =>
        rw [writeThrough_of_refused more entered] at failed
        obtain rfl := Except.error.inj failed
        obtain ⟨next, others, rfl⟩ := List.exists_cons_of_ne_nil more
        exact ⟨step, next :: others, data, .first .., by simp [Step.resultAt, entered, Except.map]⟩
      | ok descent =>
        rw [writeThrough_of_entered more entered] at failed
        obtain ⟨met, back, node, meets, fails⟩ := ih more failed
        exact ⟨met, back, node, .next entered meets, fails⟩

theorem lookup_of_hop {hop : Hop} (failed : (Step.go hop).resultAt context value back node = .error failure) :
    ∃ cause, failure = .lookup cause := by
  cases back with
  | nil =>
    cases value with
    | notPresent => contradiction
    | present value =>
      cases assigned : node.assign hop value with
      | ok updated => simp [Step.resultAt, write_go, assigned] at failed
      | error cause =>
        simp only [Step.resultAt, write_go, assigned, Except.error.injEq] at failed
        exact ⟨cause, failed.symm⟩
  | cons next rest =>
    cases entered : node.enter hop with
    | ok descent => simp [Step.resultAt, enter_go_of_ok entered, Except.map] at failed
    | error cause =>
      simp only [Step.resultAt, enter_go_of_error entered, Except.map, Except.error.injEq] at failed
      exact ⟨cause, failed.symm⟩

/-- A placement fails only at a value that is no sequence. -/
theorem unsupported_of_placement {placement : Placement}
    (failed : (Step.place placement).resultAt context value back node = .error failure) :
    failure = .lookup (.unsupported node.typeName placement.request) := by
  cases node with
  | sequence items =>
    cases back with
    | nil => simp [Step.resultAt, write_place] at failed
    | cons next rest => simp [Step.resultAt, enter_place, Except.map] at failed
  | _ => cases back <;> exact (Except.error.inj failed).symm

theorem merge_of_resultAt {granted : MergeContext}
    (failed : Step.merge.resultAt (some granted) value [] node = .error failure) :
    ∃ incoming, value = .present incoming ∧ (mergeInto granted node incoming).result = .error failure := by
  cases value with
  | notPresent => contradiction
  | present incoming => exact ⟨incoming, rfl, failed⟩

theorem cause_of_failed_merge {granted : MergeContext} {existing incoming : Value}
    (failed : (mergeInto granted existing incoming).result = .error failure) :
    (∃ layer, incoming = .mapping layer) ∧ failure = .mergeConflict existing.typeName ∨
      (∀ layer, incoming ≠ .mapping layer) ∧ failure = .invalid (.mergeValue incoming.typeName) := by
  cases incoming with
  | mapping layer =>
    cases existing with
    | mapping entries => contradiction
    | _ => exact .inl ⟨⟨layer, rfl⟩, (Except.error.inj failed).symm⟩
  | _ => exact .inr ⟨by simp, (Except.error.inj failed).symm⟩

/-- In an admitted chain a store meets hops and placements, and a merge at the end. -/
theorem Meets.admitted (admits : Kind.target.Admits steps) (meets : Meets steps data met back node) :
    (∃ hop, met = .go hop) ∨ (∃ placement, met = .place placement) ∨ met = .merge ∧ back = [] := by
  obtain ⟨front, rfl⟩ := meets.split
  have fits : met.fits .target = true := admits.fits (by simp)
  cases met with
  | go hop => exact .inl ⟨hop, rfl⟩
  | place placement => exact .inr (.inl ⟨placement, rfl⟩)
  | merge => exact .inr (.inr ⟨rfl, admits.mergeLast front back rfl⟩)
  | _ => contradiction

end Meets

section Store

variable {locator : Locator} {context : Option MergeContext} {value : Presence} {data : Value} {failure : Failure}

theorem admits_of_legal (legal : locator.Legal) : locator.kind.Admits locator.steps := Locator.legal_iff_admits.1 legal

/-- A store is objected to for its kind, for its lack of steps, or for a merge without a context. -/
theorem cause_of_storeObjection {cause : InvalidOperation} (objection : locator.storeObjection? context = some cause) :
    locator.kind = .source ∧ cause = .storeThroughSource ∨ locator.steps = [] ∧ cause = .storeAtRoot ∨
      locator.isMerge = true ∧ context = none ∧ cause = .mergeUnauthorised := by
  unfold Locator.storeObjection? Locator.expect at objection
  cases kind : locator.kind with
  | source =>
    simp only [kind, Option.some.injEq] at objection
    exact .inl ⟨rfl, objection.symm⟩
  | target =>
    simp only [kind] at objection
    split at objection
    · next empty => exact .inr (.inl ⟨List.isEmpty_iff.1 empty, (Option.some.inj objection).symm⟩)
    · split at objection
      · next merging =>
        obtain ⟨merges, missing⟩ := Bool.and_eq_true_iff.1 merging
        exact .inr (.inr ⟨merges, Option.isNone_iff_eq_none.1 missing, (Option.some.inj objection).symm⟩)
      · contradiction

/-- A store through a legal locator fails by an objection, by a look-up, or by its merge. -/
theorem cause_of_failed_store (legal : locator.Legal)
    (failed : (store data locator value context).result = .error failure) :
    (∃ cause, locator.storeObjection? context = some cause ∧ failure = .invalid cause) ∨
      (∃ cause, failure = .lookup cause) ∨
        locator.isMerge = true ∧ ∃ granted incoming existing, context = some granted ∧ value = .present incoming ∧
          (mergeInto granted existing incoming).result = .error failure := by
  cases objection : locator.storeObjection? context with
  | some cause =>
    rw [store_of_objection objection] at failed
    exact .inl ⟨cause, rfl, (Except.error.inj failed).symm⟩
  | none =>
    obtain ⟨writes, nonempty, authorised⟩ := storeObjection?_eq_none_iff.1 objection
    rcases store_cases objection data value with skipped | written
    · rw [skipped] at failed
      contradiction
    · rw [written] at failed
      obtain ⟨met, back, node, meets, fails⟩ := exists_meets_of_failed nonempty failed
      have admits : Kind.target.Admits locator.steps := writes ▸ admits_of_legal legal
      right
      rcases meets.admitted admits with ⟨hop, rfl⟩ | ⟨placement, rfl⟩ | ⟨rfl, rfl⟩
      · exact .inl (lookup_of_hop fails)
      · exact .inl ⟨_, unsupported_of_placement fails⟩
      · have merges : locator.isMerge = true := Locator.isMerge_eq_true_iff.2 meets.split
        obtain ⟨granted, rfl⟩ := Option.isSome_iff_exists.1 (authorised merges)
        obtain ⟨incoming, rfl, refused⟩ := merge_of_resultAt fails
        exact .inr ⟨merges, granted, incoming, node, rfl, rfl, refused⟩

end Store

end DataLocator
