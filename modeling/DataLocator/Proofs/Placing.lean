import DataLocator.Proofs.Putting
import DataLocator.Proofs.ReadBack

/-! # What a store places

A store places an element in a sequence that it finds, and what it goes into from there on is new: an empty mapping,
which every hop but an attribute goes through to another one (`enter_emptyMapping`), and in which nothing can be
placed (`placesNothing_emptyMapping`). So the steps in front of a placement are hops that find what they name, the
placement is the first thing that the store makes, and there is no second one (`placesNothing_or_placesOne`). The data
is then as it was but for one element of the sequence (`store_places_once`).
-/

namespace DataLocator

open Value

/-- Does the event tell of a new element of a sequence? -/
def Event.places : Event → Bool
  | placed .. => true
  | _ => false

/-- A run of the steps with no element placed: no event tells of one, and if it succeeded there was none to place. -/
structure PlacesNothing (steps : List TargetStep) (result : Except Failure Unit) (events : List Event) : Prop where
  silent : ∀ event ∈ events, event.places = false
  hopsOnly : result = .ok () → ∀ step ∈ steps, step.toStep.isPlacement = false

/-- A run of the steps with one element placed, before anything else was made, in a sequence that the data holds. The
element is all that is new in the data that is left. -/
structure PlacesOne (data : Value) (steps : List TargetStep) (outcome : Outcome Unit) (front : List Hop)
    (placement : Placement) (items : List Value) (element : Value) : Prop where
  met : data.walk front = .ok (sequence items)
  left : outcome.data = data.put front (sequence (items.insertIdx (placement.position items.length) element))
  goesOn : ∃ back later, steps = front.map TargetStep.go ++ .place placement :: back ∧
    outcome.events = .placed (placement.position items.length) items.length placement :: later ∧
    PlacesNothing back outcome.result later

section Run

variable {context : Option MergeContext} {value : Presence} {data : Value} {steps rest : List TargetStep}
variable {result : Except Failure Unit} {events : List Event}

theorem PlacesNothing.of_failed (failed : result ≠ .ok ()) : PlacesNothing steps result [] :=
  ⟨fun _ member => absurd member List.not_mem_nil, fun succeeded => absurd succeeded failed⟩

theorem PlacesNothing.behind_hop (below : PlacesNothing rest result events) (hop : Hop) {made : List Event}
    (vivifies : ∀ event ∈ made, event.places = false) : PlacesNothing (.go hop :: rest) result (made ++ events) := by
  refine ⟨fun event member => ?_, fun succeeded => List.forall_mem_cons.2 ⟨rfl, below.hopsOnly succeeded⟩⟩
  rcases List.mem_append.1 member with early | late
  · exact vivifies event early
  · exact below.silent event late

theorem placesNothing_of_last_hop (hop : Hop) (data : Value) :
    PlacesNothing [.go hop] ((Step.go hop).write context value data).result
      ((Step.go hop).write context value data).events := by
  have silent : ((Step.go hop).write context value data).events = [] := by
    cases value with
    | notPresent => rfl
    | present value => cases assigned : data.assign hop value <;> simp only [write_go, assigned]
  rw [silent]
  exact ⟨fun _ member => absurd member List.not_mem_nil, fun _ => List.forall_mem_singleton.2 rfl⟩

/-- Nothing is placed in an empty mapping or below it. -/
theorem placesNothing_emptyMapping (steps : List TargetStep) :
    let outcome := writeThrough context value (steps.map TargetStep.toStep) emptyMapping
    PlacesNothing steps outcome.result outcome.events := by
  induction steps with
  | nil => exact .of_failed (by simp [writeThrough])
  | cons step rest ih =>
    by_cases last : rest = []
    · subst last
      rw [List.map_cons, List.map_nil, writeThrough_singleton]
      cases step with
      | go hop => exact placesNothing_of_last_hop hop emptyMapping
      | place placement => exact .of_failed (by simp [TargetStep.toStep, Step.write, emptyMapping, placeElement])
    · have more : rest.map TargetStep.toStep ≠ [] := by simpa using last
      rcases enter_emptyMapping step.toStep with ⟨hop, name, isHop, -, entered⟩ | ⟨failure, refused⟩
      · obtain rfl : step = .go hop := by cases step <;> simp_all [TargetStep.toStep]
        rw [List.map_cons, writeThrough_of_entered more entered]
        exact ih.behind_hop hop (List.forall_mem_singleton.2 rfl)
      · rw [List.map_cons, writeThrough_of_refused more refused]
        exact .of_failed (by simp)

/-- A hop in front that finds its child is walked, and what is below is put back into it. -/
theorem PlacesOne.behind_hop {child : Value} {hop : Hop} {place : Selector} {outcome : Outcome Unit} {front : List Hop}
    {placement : Placement} {items : List Value} {element : Value}
    (below : PlacesOne child rest outcome front placement items element)
    (selected : data.select .itemAccess hop = .ok place) (held : data.child? place = some child) :
    PlacesOne data (.go hop :: rest) { outcome with data := data.setChild place outcome.data } (hop :: front) placement
      items element := by
  have slot := slot?_eq_some_iff.2 ⟨selected, accepts_of_child? held⟩
  obtain ⟨back, later, split, told, nothing⟩ := below.goesOn
  refine ⟨?_, ?_, back, later, ?_, told, nothing⟩
  · exact (walk_cons_of_ok (get_eq_ok_iff.2 ⟨place, selected, held⟩) front).trans below.met
  · rw [put_cons_of_slot slot, childOrEmpty_of_child? held, ← below.left]
  · rw [split, List.map_cons, List.cons_append]

/-- A run places nothing, or it places one element as the first thing that it makes. -/
theorem placesNothing_or_placesOne (steps : List TargetStep) (data : Value) :
    let outcome := writeThrough context value (steps.map TargetStep.toStep) data
    PlacesNothing steps outcome.result outcome.events ∨
      ∃ front placement items element, PlacesOne data steps outcome front placement items element := by
  induction steps generalizing data with
  | nil => exact .inl (.of_failed (by simp [writeThrough]))
  | cons step rest ih =>
    by_cases last : rest = []
    · subst last
      rw [List.map_cons, List.map_nil, writeThrough_singleton]
      cases step with
      | go hop => exact .inl (placesNothing_of_last_hop hop data)
      | place placement =>
        cases data with
        | sequence items =>
          have nothing : PlacesNothing [] (.ok ()) [] := ⟨by simp, by simp⟩
          rw [TargetStep.toStep, write_place]
          exact .inr ⟨[], placement, items, value.getD emptyMapping, rfl, rfl, [], [], rfl, rfl, nothing⟩
        | _ => exact .inl (.of_failed (by simp [TargetStep.toStep, Step.write, placeElement]))
    · have more : rest.map TargetStep.toStep ≠ [] := by simpa using last
      cases entered : step.toStep.enter data with
      | error failure =>
        rw [List.map_cons, writeThrough_of_refused more entered]
        exact .inl (.of_failed (by simp))
      | ok descent =>
        rw [List.map_cons, writeThrough_of_entered more entered]
        have entry := entry_of_enter entered
        cases step with
        | go hop =>
          cases entry with
          | @found _ child _ place selected held =>
            rw [refill_of_child? held]
            rcases ih child with nothing | ⟨front, placement, items, element, one⟩
            · exact .inl (nothing.behind_hop hop (by simp))
            · exact .inr ⟨hop :: front, placement, items, element, one.behind_hop selected held⟩
          | made asked missing =>
            exact .inl ((placesNothing_emptyMapping rest).behind_hop hop (List.forall_mem_singleton.2 rfl))
        | place placement =>
          cases entry with
          | placed items placement =>
            exact .inr ⟨[], placement, items, _, rfl, refill_placed .., rest, _, rfl, rfl,
              placesNothing_emptyMapping rest⟩

/-- A store through a target places nothing, or one element as the first thing that it makes. -/
theorem store_placesNothing_or_placesOne (data : Value) (target : Target) (value : Presence)
    (context : Option MergeContext) :
    let outcome := store data target.locator value context
    PlacesNothing target.steps outcome.result outcome.events ∨
      ∃ front placement items element, PlacesOne data target.steps outcome front placement items element := by
  cases objection : target.locator.storeObjection? context with
  | some cause =>
    rw [store_of_objection objection]
    exact .inl (.of_failed (by simp))
  | none =>
    by_cases busy : value.isPresent = true ∨ target.locator.steps.any Step.isPlacement = true
    · rw [store_of_busy objection busy]
      exact placesNothing_or_placesOne target.steps data
    · obtain ⟨absent, placeless⟩ := not_or.1 busy
      have hopsOnly : ∀ step ∈ target.steps, step.toStep.isPlacement = false := by
        simpa [Target.locator] using placeless
      cases value with
      | present value => exact absurd rfl absent
      | notPresent =>
        rw [store_notPresent objection (by simpa using placeless)]
        exact .inl ⟨List.forall_mem_singleton.2 rfl, fun _ => hopsOnly⟩

end Run

theorem PlacesNothing.countP_events {steps : List TargetStep} {result : Except Failure Unit} {events : List Event}
    (nothing : PlacesNothing steps result events) : events.countP Event.places = 0 := by
  simpa [List.countP_eq_zero] using nothing.silent

theorem PlacesNothing.countP_steps {steps : List TargetStep} {result : Except Failure Unit} {events : List Event}
    (nothing : PlacesNothing steps result events) (succeeded : result = .ok ()) :
    (steps.map TargetStep.toStep).countP Step.isPlacement = 0 := by
  simpa [List.countP_eq_zero] using nothing.hopsOnly succeeded

private theorem insertIdx_eq_take_append {α : Type} {items : List α} {position : Nat} (bound : position ≤ items.length)
    (element : α) : items.insertIdx position element = items.take position ++ element :: items.drop position := by
  induction items generalizing position with
  | nil =>
    obtain rfl : position = 0 := Nat.le_zero.1 bound
    rfl
  | cons item rest ih =>
    cases position with
    | zero => rfl
    | succ before =>
      have shorter : before ≤ rest.length := Nat.le_of_succ_le_succ bound
      rw [List.insertIdx_succ_cons, ih shorter]
      rfl

/-- A store through a target places one element at the most, be it a success or not, and succeeds only if the target has
no more placements than that. The element is placed in a sequence that a load finds before the store, at the end or at
the index that the placement asks for, if that is not beyond the end. Nothing is made before it, and nothing but it is
new: the data that is left has the longer sequence in place of the old one, and is the data as it was with the old one
put back. -/
theorem store_places_once (data : Value) (target : Target) (value : Presence) (context : Option MergeContext) :
    let outcome := store data target.locator value context
    outcome.events.countP Event.places ≤ 1 ∧
      (outcome.result = .ok () → target.locator.steps.countP Step.isPlacement ≤ 1 ∧
        outcome.events.countP Event.places = target.locator.steps.countP Step.isPlacement) ∧
      ∀ position length placement, .placed position length placement ∈ outcome.events →
        outcome.events.head? = some (.placed position length placement) ∧
        ∃ front back items element,
          target.steps = front.map TargetStep.go ++ .place placement :: back ∧
          (load data (.ofHops .source front)).result = .ok (.present (.sequence items)) ∧ length = items.length ∧
          position = (match placement with
            | .append => items.length
            | .insert index => min index.toNat items.length) ∧
          let longer := Value.sequence (items.take position ++ element :: items.drop position)
          (load outcome.data (.ofHops .source front)).result = .ok (.present longer) ∧
            outcome.data = data.put front longer ∧ outcome.data.put front (.sequence items) = data := by
  intro outcome
  rcases store_placesNothing_or_placesOne data target value context with nothing | ⟨front, asked, items, element, one⟩
  · have silent : outcome.events.countP Event.places = 0 := nothing.countP_events
    refine ⟨by omega, fun succeeded => ?_, fun position length placement member => ?_⟩
    · have none : target.locator.steps.countP Step.isPlacement = 0 := nothing.countP_steps succeeded
      omega
    · exact absurd (nothing.silent _ member) (by simp [Event.places])
  · obtain ⟨back, later, split, told, nothing⟩ := one.goesOn
    have once : outcome.events.countP Event.places = 1 := by
      rw [told, List.countP_cons_of_pos rfl, nothing.countP_events]
    refine ⟨by omega, fun succeeded => ?_, fun position length placement member => ?_⟩
    · have ahead : ((front.map TargetStep.go).map TargetStep.toStep).countP Step.isPlacement = 0 := by
        simp [List.countP_eq_zero, TargetStep.toStep, Step.isPlacement]
      have behind := nothing.countP_steps succeeded
      have asks : target.locator.steps.countP Step.isPlacement = 1 := by
        rw [Target.locator, Locator.steps_ofSteps, split, List.map_append, List.map_cons, List.countP_append,
          List.countP_cons_of_pos rfl, ahead, behind]
      omega
    · rw [told] at member
      rcases List.mem_cons.1 member with first | late
      · obtain ⟨rfl, rfl, rfl⟩ := Event.placed.inj first
        have longer := insertIdx_eq_take_append (placement.position_le items.length) element
        have left := one.left
        rw [longer] at left
        refine ⟨by rw [told]; rfl, front, back, items, element, split, load_ofHops_eq_present_iff.2 one.met, rfl,
          by cases placement <;> rfl, ?_, left, ?_⟩
        · refine load_ofHops_eq_present_iff.2 ?_
          rw [left]
          exact walk_put (takes_of_walk one.met) _
        · rw [left, put_put, put_of_walk one.met]
      · exact absurd (nothing.silent _ late) (by simp [Event.places])

/-- An index far beyond the end means the end, and the new element stays empty where nothing is stored below it. -/
theorem store_places_once_beyond_end :
    let data : Value := .mapping [("items", .sequence [.null, .bool true]), ("name", .string "a")]
    let placement : Placement := .insert 18446744073709551615
    let target : Target := ⟨[.go (.segment "items"), .place placement, .go (.item (.name "b"))]⟩
    let outcome := store data target.locator .notPresent none
    outcome.result = .ok () ∧ target.locator.steps.countP Step.isPlacement ≤ 1 ∧
      .placed 2 2 placement ∈ outcome.events ∧
      outcome.data = .mapping [("items", .sequence [.null, .bool true, emptyMapping]), ("name", .string "a")] ∧
      ∃ front items element,
        (load outcome.data (.ofHops .source front)).result =
          .ok (.present (.sequence (items.take 2 ++ element :: items.drop 2))) ∧
        outcome.data.put front (.sequence items) = data := by
  intro data placement target outcome
  have succeeded : outcome.result = .ok () := rfl
  have told : outcome.events = [.placed 2 2 placement] := rfl
  have placed : .placed 2 2 placement ∈ outcome.events := told ▸ List.mem_cons_self
  obtain ⟨-, counts, elements⟩ := store_places_once data target .notPresent none
  obtain ⟨-, front, -, items, element, -, -, -, -, found, -, back⟩ := elements 2 2 placement placed
  exact ⟨succeeded, (counts succeeded).1, placed, rfl, front, items, element, found, back⟩

end DataLocator
