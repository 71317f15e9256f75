import DataLocator.Proofs.ReadBack

/-! # Merging through a target

A store through a target with a merge behind it goes to the mapping that the target reaches, merges there, and puts the
result back (`merged_of_succeeded`): it leaves what a store of the result through the target leaves. Its merge can only
conflict with a value that a load finds, for all that is made on the way is an empty mapping (`conflict_of_failed`).
-/

namespace DataLocator

open Value

theorem mergeInto_eq_ok_iff {context : MergeContext} {existing incoming : Value} :
    (mergeInto context existing incoming).result = .ok () ↔
      ∃ entries layer, existing = .mapping entries ∧ incoming = .mapping layer := by
  cases incoming <;> cases existing <;> simp [mergeInto]

theorem mergeInto_eq_conflict_iff {context : MergeContext} {existing incoming : Value} {typeName : String} :
    (mergeInto context existing incoming).result = .error (.mergeConflict typeName) ↔
      (∃ layer, incoming = .mapping layer) ∧ (∀ entries, existing ≠ .mapping entries) ∧
        typeName = existing.typeName := by
  cases incoming <;> cases existing <;> simp [mergeInto, eq_comm]

/-- A step that can be gone into can be written at, with what is put back below it. -/
theorem Entry.write {data : Value} {step : Step} {descent : Descent} (entry : Entry data step descent)
    (context : Option MergeContext) (value : Value) :
    (step.write context (.present value) data).result = .ok () ∧
      (step.write context (.present value) data).data = descent.focus.refill value := by
  cases entry with
  | found selected held =>
    have assigned := assign_of_accepts selected (accepts_of_child? held) value
    rw [write_go, assigned]
    exact ⟨rfl, (refill_of_child? held value).symm⟩
  | @made entries hop name asked missing =>
    have selected : (mapping entries).select .itemAccess hop = .ok (.key name) :=
      select_mapping_eq_ok_iff.2 ⟨name, asked, rfl⟩
    have assigned := assign_of_accepts selected rfl value
    rw [write_go, assigned]
    exact ⟨rfl, (refill_made name entries value).symm⟩
  | placed items placement =>
    rw [write_place]
    exact ⟨rfl, (refill_placed _ items value).symm⟩

theorem enter_toStep_eq_error {data : Value} {step : TargetStep} {failure : Failure}
    (refused : step.toStep.enter data = .error failure) : ∃ cause, failure = .lookup cause := by
  cases step with
  | go hop =>
    cases entered : data.enter hop with
    | ok descent =>
      have enters : (Step.go hop).enter data = .ok descent := enter_go_of_ok entered
      rw [TargetStep.toStep, enters] at refused
      contradiction
    | error cause =>
      have stops : (Step.go hop).enter data = .error (.lookup cause) := enter_go_of_error entered
      rw [TargetStep.toStep, stops] at refused
      exact ⟨cause, (Except.error.inj refused).symm⟩
  | place placement =>
    cases data with
    | sequence items =>
      rw [TargetStep.toStep, enter_place] at refused
      contradiction
    | _ => exact ⟨_, (Except.error.inj refused).symm⟩

/-- A merge through a chain of steps that succeeds merges two mappings, and leaves what is left when the result is
written through the steps. -/
theorem merged_of_succeeded {data value : Value} {steps : List TargetStep} {context : MergeContext}
    (succeeded : (writeThrough (some context) (.present value) (steps.map TargetStep.toStep ++ [.merge]) data).result =
      .ok ()) :
    let combined := (mergeInto context (reached data steps) value).data
    let left := (writeThrough (some context) (.present value) (steps.map TargetStep.toStep ++ [.merge]) data).data
    (∃ entries layer, reached data steps = .mapping entries ∧ value = .mapping layer) ∧
      (steps = [] → left = combined) ∧
      (steps ≠ [] →
        (writeThrough none (.present combined) (steps.map TargetStep.toStep) data).result = .ok () ∧
          (writeThrough none (.present combined) (steps.map TargetStep.toStep) data).data = left) := by
  induction steps generalizing data with
  | nil => exact ⟨mergeInto_eq_ok_iff.1 succeeded, fun _ => rfl, fun nonempty => absurd rfl nonempty⟩
  | cons step rest ih =>
    intro combined left
    have more : rest.map TargetStep.toStep ++ [.merge] ≠ [] := by simp
    obtain ⟨descent, entry, below, refilled⟩ := exists_entry_of_succeeded more succeeded
    obtain ⟨mappings, here, deeper⟩ := ih below
    have arrives : reached data (step :: rest) = reached descent.focus.child rest := by
      rw [entry.child_eq_arrival]
      rfl
    have same : combined = (mergeInto context (reached descent.focus.child rest) value).data := by
      rw [← arrives]
    refine ⟨arrives ▸ mappings, fun empty => absurd empty (List.cons_ne_nil _ _), fun _ => ?_⟩
    rw [← same] at here deeper
    by_cases last : rest = []
    · subst last
      obtain ⟨succeeds, writes⟩ := entry.write none combined
      refine ⟨succeeds, writes.trans ?_⟩
      rw [← here rfl]
      exact refilled.symm
    · obtain ⟨succeeds, writes⟩ := deeper last
      have follows : rest.map TargetStep.toStep ≠ [] := by simpa using last
      rw [List.map_cons, writeThrough_of_entered follows entry.enter]
      refine ⟨succeeds, ?_⟩
      rw [writes]
      exact refilled.symm

/-- A merge that conflicts has met a value which was there: nothing that is made on the way can be in its way. -/
theorem conflict_of_failed {data value : Value} {steps : List TargetStep} {context : MergeContext} {typeName : String}
    (failed : (writeThrough (some context) (.present value) (steps.map TargetStep.toStep ++ [.merge]) data).result =
      .error (.mergeConflict typeName)) :
    (writeThrough (some context) (.present value) (steps.map TargetStep.toStep ++ [.merge]) data).data = data ∧
      (∃ layer, value = .mapping layer) ∧
      ∃ hops found, steps = hops.map TargetStep.go ∧ data.walk hops = .ok found ∧
        (∀ entries, found ≠ .mapping entries) ∧ typeName = found.typeName := by
  induction steps generalizing data with
  | nil =>
    obtain ⟨⟨layer, rfl⟩, other, named⟩ := mergeInto_eq_conflict_iff.1 failed
    refine ⟨?_, ⟨layer, rfl⟩, [], data, rfl, rfl, other, named⟩
    cases data with
    | mapping entries => exact absurd rfl (other entries)
    | _ => rfl
  | cons step rest ih =>
    have more : rest.map TargetStep.toStep ++ [.merge] ≠ [] := by simp
    cases entered : step.toStep.enter data with
    | error failure =>
      obtain ⟨cause, rfl⟩ := enter_toStep_eq_error entered
      rw [List.map_cons, List.cons_append, writeThrough_of_refused more entered] at failed
      simp at failed
    | ok descent =>
      rw [List.map_cons, List.cons_append, writeThrough_of_entered more entered] at failed ⊢
      obtain ⟨unchanged, incoming, hops, found, rfl, walked, other, named⟩ := ih failed
      have old : descent.focus.child ≠ emptyMapping := by
        intro made
        rw [made] at walked
        exact other [] (walk_emptyMapping walked)
      cases step with
      | go hop =>
        have entry : Entry data (.go hop) descent := entry_of_enter entered
        cases entry with
        | @found _ child _ place selected held =>
          have reads : data.get hop = .ok child := get_eq_ok_iff.2 ⟨place, selected, held⟩
          refine ⟨?_, incoming, hop :: hops, found, rfl, (walk_cons_of_ok reads hops).trans walked, other, named⟩
          rw [unchanged]
          exact (refill_of_child? held child).trans (setChild_of_child? held)
        | made asked missing => exact absurd rfl old
      | place placement =>
        have entry : Entry data (.place placement) descent := entry_of_enter entered
        cases entry with
        | placed items placement => exact absurd rfl old

theorem reached_emptyMapping (steps : List TargetStep) : reached emptyMapping steps = emptyMapping := by
  induction steps with
  | nil => rfl
  | cons step rest ih =>
    have stays : step.arrival emptyMapping = emptyMapping := by
      cases step with
      | go hop => cases hop <;> rfl
      | place placement => rfl
    change reached (step.arrival emptyMapping) rest = _
    rw [stays, ih]

/-- Through hops the steps of a target reach what a walk finds, and an empty mapping where it finds nothing. -/
theorem reached_hops (data : Value) (hops : List Hop) :
    reached data (hops.map TargetStep.go) = (data.walk hops).toOption.getD emptyMapping := by
  induction hops generalizing data with
  | nil => rfl
  | cons hop rest ih =>
    cases found : data.get hop with
    | ok child =>
      rw [walk_cons_of_ok found, ← ih, ← TargetStep.arrival_of_get found]
      rfl
    | error failure =>
      rw [walk_cons_of_error found]
      change reached ((TargetStep.go hop).arrival data) _ = _
      rw [TargetStep.arrival_of_missed found, reached_emptyMapping]
      rfl

theorem reached_of_placement (data : Value) (front back : List TargetStep) (placement : Placement) :
    reached data (front ++ .place placement :: back) = emptyMapping := by
  rw [reached, List.foldl_append]
  exact reached_emptyMapping back

theorem hops_or_placement (steps : List TargetStep) :
    (∃ hops : List Hop, steps = hops.map TargetStep.go) ∨
      ∃ front placement back, steps = front ++ .place placement :: back := by
  induction steps with
  | nil => exact .inl ⟨[], rfl⟩
  | cons step rest ih =>
    cases step with
    | place placement => exact .inr ⟨[], placement, rest, rfl⟩
    | go hop =>
      rcases ih with ⟨hops, rfl⟩ | ⟨front, placement, back, rfl⟩
      · exact .inl ⟨hop :: hops, rfl⟩
      · exact .inr ⟨.go hop :: front, placement, back, rfl⟩

theorem map_toStep_go (hops : List Hop) : (hops.map TargetStep.go).map TargetStep.toStep = hops.map Step.go := by
  simp [TargetStep.toStep]

namespace Target

variable (target : Target) (data value : Value)

theorem store_locator (nonempty : target.steps ≠ []) (context : Option MergeContext) :
    store data target.locator (.present value) context =
      writeThrough context (.present value) (target.steps.map TargetStep.toStep) data := by
  refine store_of_no_merge rfl ?_ ?_ data value
  · simpa [Target.locator] using nonempty
  · intro step member
    obtain ⟨inner, -, rfl⟩ := List.mem_map.1 member
    cases inner <;> rfl

theorem store_merge_locator (context : MergeContext) :
    store data target.merge.locator (.present value) (some context) =
      writeThrough (some context) (.present value) (target.steps.map TargetStep.toStep ++ [.merge]) data := by
  apply store_present
  rw [storeObjection?_eq_none_iff]
  refine ⟨rfl, ?_, fun _ => rfl⟩
  simp [MergeTarget.locator]

/-- The entries of the mapping that a target reaches: those that a load through its hops finds, and none where the load
finds nothing or where the target places an element. -/
def ReachesMapping (entries : List (String × Value)) : Prop :=
  (∃ hops : List Hop, target.steps = hops.map TargetStep.go ∧
      (load data (.ofHops .source hops)).result = .ok (.present (.mapping entries))) ∨
    (entries = [] ∧ ∀ hops : List Hop, target.steps = hops.map TargetStep.go →
      (load data (.ofHops .source hops)).result = .ok .notPresent)

variable {target data}

theorem reachesMapping_of_reached {entries : List (String × Value)}
    (reaches : reached data target.steps = .mapping entries) : target.ReachesMapping data entries := by
  rcases hops_or_placement target.steps with ⟨hops, same⟩ | ⟨front, placement, back, same⟩
  · rw [same, reached_hops] at reaches
    cases walked : data.walk hops with
    | ok found =>
      rw [walked] at reaches
      obtain rfl : found = .mapping entries := reaches
      exact .inl ⟨hops, same, load_ofHops_eq_present_iff.2 walked⟩
    | error failure =>
      rw [walked] at reaches
      refine .inr ⟨(Value.mapping.inj reaches).symm, fun others also => ?_⟩
      have equal : hops = others := (List.map_inj_right fun _ _ => TargetStep.go.inj).1 (same.symm.trans also)
      exact load_ofHops_eq_notPresent_iff.2 ⟨failure, equal ▸ walked⟩
  · rw [same, reached_of_placement] at reaches
    refine .inr ⟨(Value.mapping.inj reaches).symm, fun hops also => ?_⟩
    have member : TargetStep.place placement ∈ hops.map TargetStep.go := by
      rw [← also, same]
      simp
    simp at member

end Target

/-- A store of a value through a target and a merge reads the mapping that the target reaches, lays the value over it
and stores the result through the target. It conflicts exactly with a value that a load through the target finds and
that is not a mapping, and then leaves the data alone. -/
theorem store_merge_readModifyWrite (data value : Value) (target : Target) (context : MergeContext) :
    let merged := store data target.merge.locator (.present value) (some context)
    (merged.result = .ok () →
      ∃ entries layer, value = .mapping layer ∧ target.ReachesMapping data entries ∧
        let combined := (mergeInto context (.mapping entries) value).data
        let stored := store data target.locator (.present combined) none
        (target.steps = [] → merged.data = combined) ∧
          (target.steps ≠ [] → stored.result = .ok () ∧ stored.data = merged.data)) ∧
    ∀ typeName,
      (merged.result = .error (.mergeConflict typeName) ↔
        (∃ layer, value = .mapping layer) ∧
          ∃ hops found, target.steps = hops.map TargetStep.go ∧
            (load data (.ofHops .source hops)).result = .ok (.present found) ∧
            (∀ entries, found ≠ .mapping entries) ∧ typeName = found.typeName) ∧
      (merged.result = .error (.mergeConflict typeName) → merged.data = data) := by
  intro merged
  have writes : merged = _ := target.store_merge_locator data value context
  rw [writes]
  refine ⟨fun succeeded => ?_, fun typeName => ⟨⟨fun failed => ?_, ?_⟩, fun failed => (conflict_of_failed failed).1⟩⟩
  · obtain ⟨⟨entries, layer, reaches, incoming⟩, atRoot, below⟩ := merged_of_succeeded succeeded
    rw [reaches] at atRoot below
    refine ⟨entries, layer, incoming, Target.reachesMapping_of_reached reaches, atRoot, fun nonempty => ?_⟩
    rw [target.store_locator data _ nonempty]
    exact below nonempty
  · obtain ⟨-, incoming, hops, found, same, walked, other, named⟩ := conflict_of_failed failed
    exact ⟨incoming, hops, found, same, load_ofHops_eq_present_iff.2 walked, other, named⟩
  · rintro ⟨incoming, hops, found, same, finds, other, named⟩
    have walked := load_ofHops_eq_present_iff.1 finds
    rw [same, map_toStep_go, result_of_walked (List.cons_ne_nil _ _) walked]
    exact mergeInto_eq_conflict_iff.2 ⟨incoming, other, named⟩

/-- A merge below a new element of a sequence lays the value over an empty mapping. -/
theorem store_merge_below_append :
    let data : Value := .mapping [("items", .sequence [.null])]
    let target : Target := ⟨[.go (.item (.name "items")), .place .append, .go (.segment "a")]⟩
    let value : Value := .mapping [("b", .bool true)]
    let merged := store data target.merge.locator (.present value) (some {})
    merged.result = .ok () ∧
      merged.data = .mapping [("items", .sequence [.null, .mapping [("a", .mapping [("b", .bool true)])]])] ∧
      (store data target.locator (.present value) none).data = merged.data := by
  intro data target value merged
  have succeeded : merged.result = .ok () := rfl
  obtain ⟨entries, layer, -, reaches, -, below⟩ := (store_merge_readModifyWrite data value target {}).1 succeeded
  have empty : entries = [] := by
    rcases reaches with ⟨hops, same, -⟩ | ⟨empty, -⟩
    · have member : TargetStep.place .append ∈ hops.map TargetStep.go := by
        rw [← same]
        simp [target]
      simp at member
    · exact empty
  subst empty
  exact ⟨succeeded, rfl, (below (List.cons_ne_nil _ _)).2⟩

end DataLocator
