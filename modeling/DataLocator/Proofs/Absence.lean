import DataLocator.Proofs.Leftovers
import DataLocator.Proofs.MergeStore

/-! # Storing nothing

A store of nothing leaves the data alone, unless its target places an element. Then it is a store of an empty mapping
through the steps in front of its last one (`coincide_of_fresh`), although one of the two goes into the step at which
the other writes: from the placement on all is new, so that what the first makes on its way is what the second writes,
and what stops the first stops the second as well (`OnlyMakes`). A store that ends at the placement puts an empty
mapping there for want of a value.
-/

namespace DataLocator

open Value

/-- Two stores end in the same way and leave the same data. Their events may differ. -/
structure Coincide (outcome other : Outcome Unit) : Prop where
  result : outcome.result = other.result
  data : outcome.data = other.data

/-- There is nothing yet where the step leads to: gone into, it makes an empty mapping, and what refuses to be gone into
refuses a value in the same way. -/
structure OnlyMakes (step : TargetStep) (node : Value) : Prop where
  child : ∀ descent, step.toStep.enter node = .ok descent → descent.focus.child = emptyMapping
  refused : ∀ failure, step.toStep.enter node = .error failure → ∀ context value,
    (step.toStep.write context (.present value) node).result = .error failure

section

variable {context granted : Option MergeContext} {value other : Presence} {data node : Value} {step : TargetStep}
variable {steps : List TargetStep} {last : Step}

theorem onlyMakes_place (placement : Placement) (node : Value) : OnlyMakes (.place placement) node := by
  constructor
  · intro descent entered
    have entry : Entry node (.place placement) descent := entry_of_enter entered
    cases entry
    rfl
  · intro failure refused context value
    cases node with
    | sequence items =>
      rw [TargetStep.toStep, enter_place] at refused
      contradiction
    | _ =>
      obtain rfl := Except.error.inj refused
      rfl

theorem onlyMakes_emptyMapping (step : TargetStep) : OnlyMakes step emptyMapping := by
  constructor
  · intro descent entered
    obtain ⟨name, child, -⟩ := refill_of_emptyMapping (entry_of_enter entered)
    exact child
  · intro failure refused context value
    cases step with
    | place placement => exact (onlyMakes_place placement emptyMapping).refused failure refused context value
    | go hop =>
      have stops : StopsAtEmpty (.present value) (.go hop) failure := stopsAtEmpty_of_enter _ rfl rfl refused
      cases stops
      rfl

/-- Nothing is stored below a step that only makes by writing an empty mapping at it. -/
theorem OnlyMakes.coincide (makes : OnlyMakes step node)
    (idle : ∀ node, last.write context .notPresent node = { data := node, result := .ok () }) :
    Coincide (writeThrough context .notPresent [step.toStep, last] node)
      (writeThrough granted (.present emptyMapping) [step.toStep] node) := by
  rw [writeThrough_singleton]
  cases entered : step.toStep.enter node with
  | error failure =>
    have refused := makes.refused failure entered granted emptyMapping
    rw [writeThrough_of_refused (List.cons_ne_nil _ _) entered]
    exact ⟨refused.symm, (write_data_of_failed refused).symm⟩
  | ok descent =>
    obtain ⟨succeeds, leaves⟩ := (entry_of_enter entered).write granted emptyMapping
    rw [writeThrough_of_entered (List.cons_ne_nil _ _) entered, makes.child descent entered, writeThrough_singleton,
      idle]
    exact ⟨succeeds.symm, leaves.symm⟩

/-- Stores that go into one step coincide if they do below it. -/
theorem Coincide.behind {first : Step} {rest back : List Step} {descent : Descent} (more : rest ≠ [])
    (also : back ≠ []) (entered : first.enter data = .ok descent)
    (below : Coincide (writeThrough context value rest descent.focus.child)
      (writeThrough granted other back descent.focus.child)) :
    Coincide (writeThrough context value (first :: rest) data) (writeThrough granted other (first :: back) data) := by
  rw [writeThrough_of_entered more entered, writeThrough_of_entered also entered]
  exact ⟨below.result, congrArg descent.focus.refill below.data⟩

/-- A store of nothing leaves what a store of an empty mapping through all steps but the last leaves, if what they meet
is new or a placement is to come. -/
theorem coincide_of_fresh (nonempty : steps ≠ [])
    (fresh : data = emptyMapping ∨ ∃ placement, .place placement ∈ steps)
    (idle : ∀ node, last.write context .notPresent node = { data := node, result := .ok () }) :
    Coincide (writeThrough context .notPresent (steps.map TargetStep.toStep ++ [last]) data)
      (writeThrough granted (.present emptyMapping) (steps.map TargetStep.toStep) data) := by
  induction steps generalizing data with
  | nil => contradiction
  | cons step rest ih =>
    -- The first step only makes, or the placement is behind it.
    have ahead : OnlyMakes step data ∨ ∃ placement, .place placement ∈ rest := by
      rcases fresh with rfl | ⟨placement, member⟩
      · exact .inl (onlyMakes_emptyMapping step)
      · rcases List.mem_cons.1 member with rfl | later
        · exact .inl (onlyMakes_place placement data)
        · exact .inr ⟨placement, later⟩
    cases rest with
    | nil =>
      have makes : OnlyMakes step data := ahead.resolve_right (by simp)
      exact makes.coincide idle
    | cons next rest =>
      have more : (next :: rest).map TargetStep.toStep ++ [last] ≠ [] := by simp
      have also : (next :: rest).map TargetStep.toStep ≠ [] := by simp
      rw [List.map_cons, List.cons_append]
      cases entered : step.toStep.enter data with
      | error failure =>
        rw [writeThrough_of_refused more entered, writeThrough_of_refused also entered]
        exact ⟨rfl, rfl⟩
      | ok descent =>
        apply Coincide.behind more also entered
        apply ih (List.cons_ne_nil _ _)
        exact ahead.imp_left fun makes => makes.child descent entered

/-- Where the last step places an element, nothing is stored as an empty mapping. -/
theorem writeThrough_notPresent_place (context : Option MergeContext) (front : List Step) (placement : Placement)
    (data : Value) :
    writeThrough context .notPresent (front ++ [.place placement]) data =
      writeThrough context (.present emptyMapping) (front ++ [.place placement]) data := by
  induction front generalizing data with
  | nil => rfl
  | cons step rest ih =>
    have more : rest ++ [.place placement] ≠ [] := by simp
    rw [List.cons_append]
    cases entered : step.enter data with
    | error failure => rw [writeThrough_of_refused more entered, writeThrough_of_refused more entered]
    | ok descent => rw [writeThrough_of_entered more entered, writeThrough_of_entered more entered, ih]

end

/-- Nothing is stored by leaving the data alone, where the target places no element. Through one that does, and a hop or
a merge behind it, nothing is stored as an empty mapping is through the target itself: with the same result, and with
the same data left. At a placement nothing is stored as an empty mapping is. -/
theorem store_absence (data : Value) (context : Option MergeContext) :
    (∀ locator : Locator, locator.kind = .target → locator.steps ≠ [] →
      (locator.isMerge = true → context.isSome = true) → (∀ step ∈ locator.steps, step.isPlacement = false) →
        (store data locator .notPresent context).result = .ok () ∧
          (store data locator .notPresent context).data = data) ∧
    (∀ (target : Target) (last : Step) (granted : Option MergeContext),
      (∃ placement, .place placement ∈ target.steps) →
      ((∃ hop, last = .go hop) ∨ last = .merge ∧ context.isSome = true) →
        let absent := store data (target.locator.extend [last]) .notPresent context
        let empty := store data target.locator (.present emptyMapping) granted
        absent.result = empty.result ∧ absent.data = empty.data) ∧
    ∀ (locator : Locator) (front : List Step) (placement : Placement), locator.steps = front ++ [.place placement] →
      store data locator .notPresent context = store data locator (.present emptyMapping) context := by
  refine ⟨?_, ?_, ?_⟩
  · intro locator writes nonempty authorised hopsOnly
    have permitted := storeObjection?_eq_none_iff.2 ⟨writes, nonempty, authorised⟩
    rw [store_notPresent permitted (by simpa using hopsOnly)]
    exact ⟨rfl, rfl⟩
  · intro target last granted places ending absent empty
    obtain ⟨placement, member⟩ := places
    have nonempty : target.steps ≠ [] := List.ne_nil_of_mem member
    have busy : (target.locator.extend [last]).steps.any Step.isPlacement = true := by
      rw [List.any_eq_true]
      exact ⟨.place placement, List.mem_append_left _ (List.mem_map_of_mem member), rfl⟩
    have permitted : (target.locator.extend [last]).storeObjection? context = none := by
      rw [storeObjection?_eq_none_iff]
      refine ⟨rfl, by simp, fun merges => ?_⟩
      rcases ending with ⟨hop, rfl⟩ | ⟨rfl, authorised⟩
      · simp [Locator.isMerge, Step.isMerge] at merges
      · exact authorised
    have idle : ∀ node, last.write context .notPresent node = { data := node, result := .ok () } := by
      intro node
      rcases ending with ⟨hop, rfl⟩ | ⟨rfl, -⟩ <;> rfl
    have absentWrites : absent = _ := store_of_busy permitted (.inr busy) data
    have emptyWrites : empty = _ := target.store_locator data emptyMapping nonempty granted
    have same := @coincide_of_fresh context granted data _ last nonempty (.inr ⟨placement, member⟩) idle
    rw [absentWrites, emptyWrites]
    exact ⟨same.result, same.data⟩
  · intro locator front placement same
    cases objection : locator.storeObjection? context with
    | some cause => rw [store_of_objection objection, store_of_objection objection]
    | none =>
      have busy : locator.steps.any Step.isPlacement = true := by simp [same, Step.isPlacement]
      rw [store_of_busy objection (.inr busy), store_of_busy objection (.inl rfl), same]
      exact writeThrough_notPresent_place context front placement data

/-- The element that was appended stays when an attribute is asked of it, be it on the way to a merge of nothing or at
the end of a store of an empty mapping. -/
theorem store_absence_below_append :
    let data : Value := .mapping [("items", .sequence [.null])]
    let plain : Locator := .ofSteps .target [.go (.segment "items"), .go (.attr "x"), .merge]
    let target : Target := ⟨[.go (.segment "items"), .place .append, .go (.attr "x")]⟩
    let absent := store data (target.locator.extend [.merge]) .notPresent (some {})
    let ending : Locator := .ofSteps .target [.go (.segment "items"), .place (.insert 7)]
    (store data plain .notPresent (some {})).data = data ∧
      absent.result = .error (.lookup (.attributeNotFound "mapping" "x")) ∧
      absent.data = .mapping [("items", .sequence [.null, emptyMapping])] ∧
      absent.result = (store data target.locator (.present emptyMapping) none).result ∧
      (store data ending .notPresent (some {})).data = absent.data := by
  intro data plain target absent ending
  obtain ⟨skips, below, ends⟩ := store_absence data (some {})
  have idle := skips plain rfl (List.cons_ne_nil _ _) (fun _ => rfl) (by simp [plain, Step.isPlacement])
  have same := below target .merge none ⟨.append, by simp [target]⟩ (.inr ⟨rfl, rfl⟩)
  have stored := ends ending [.go (.segment "items")] (.insert 7) rfl
  exact ⟨idle.2, rfl, rfl, same.1, (congrArg Outcome.data stored).trans rfl⟩

end DataLocator
