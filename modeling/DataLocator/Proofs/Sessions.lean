import DataLocator.Conversion
import DataLocator.Proofs.Canonical
import DataLocator.Proofs.PlanRuns

/-! # Invariants in use

Data that has an invariant keeps it, whatever is done with it. Reading gives what the data holds or what a standard
converter makes of it (`Invariant.follow`). Writing puts together what the data holds, empty mappings and what is handed
over, also where it fails half way (`Invariant.writeThrough`), and so does a merge. A session is a chain of such actions
on the same data, and the invariant goes through it action by action (`Invariant.perform`).

For the integers this says that they stay canonical (`canonical_throughout`).
-/

namespace DataLocator

open Value

/-- What is present has the property. -/
def Presence.Has (holds : Value → Prop) (presence : Presence) : Prop := ∀ value, presence = .present value → holds value

/-- The converters that come with the library. -/
def Converter.standard : List Converter := [integer, float, boolean, string]

/-- Every conversion on the way is done by a standard converter. -/
def Locator.Standard (locator : Locator) : Prop :=
  ∀ converter, .convert converter ∈ locator.steps → converter ∈ Converter.standard

/-- What has been found has the property. -/
def Finding.Has (holds : Value → Prop) (finding : Finding) : Prop := ∀ value, finding = .ok value → holds value

section Findings

variable {holds : Value → Prop} {value converted : Value}

theorem Finding.has_ok (kept : holds value) : Finding.Has holds (.ok value) := by
  rintro _ ⟨⟩
  exact kept

theorem Finding.has_error (failure : LookupFailure) : Finding.Has holds (.error failure) := by
  rintro _ ⟨⟩

/-- The converters other than the one to integers make floats, truth values and texts. -/
theorem leaf_of_convert {converter : Converter} (other : converter ∈ [Converter.float, .boolean, .string])
    (converts : converter.convert value = .ok converted) :
    (∃ x, converted = .float x) ∨ (∃ flag, converted = .bool flag) ∨ ∃ text, converted = .string text := by
  simp only [List.mem_cons, List.not_mem_nil, or_false] at other
  rcases other with rfl | rfl | rfl
  · change Conversion.toFloat value = .ok converted at converts
    unfold Conversion.toFloat Conversion.refuse at converts
    split at converts <;> grind
  · change Conversion.toBoolean value = .ok converted at converts
    unfold Conversion.toBoolean Conversion.refuse at converts
    split at converts <;> grind
  · change Conversion.toText value = .ok converted at converts
    unfold Conversion.toText Conversion.refuse at converts
    split at converts <;> grind

end Findings

namespace Value.Invariant

variable {holds : Value → Prop} {keys : List String → Prop} (invariant : Invariant holds keys)
include invariant

section Writing

variable {context : Option MergeContext} {value : Presence} {data : Value}

theorem getD_emptyMapping (given : value.Has holds) : holds (value.getD Value.emptyMapping) := by
  cases value with
  | present value => exact given value rfl
  | notPresent => exact invariant.emptyMapping

theorem write (given : value.Has holds) (kept : holds data) (step : Step) :
    holds (step.write context value data).data := by
  cases step with
  | go hop =>
    cases value with
    | notPresent => exact kept
    | present value =>
      cases assigned : data.assign hop value with
      | error failure => simpa only [write_go, assigned] using kept
      | ok updated =>
        obtain ⟨place, -, -, rfl⟩ := assign_eq_ok_iff.1 assigned
        simpa only [write_go, assigned] using invariant.setChild kept (given value rfl) place
  | place placement =>
    cases data with
    | sequence items =>
      rw [write_place]
      exact invariant.insertIdx (placement.position_le items.length) kept (invariant.getD_emptyMapping given)
    | _ => exact kept
  | merge =>
    cases value with
    | notPresent => exact kept
    | present value =>
      cases context with
      | none => exact kept
      | some granted => exact invariant.mergeInto granted kept (given value rfl)
  | _ => exact kept

theorem entry {step : Step} {descent : Descent} (entry : Entry data step descent) (kept : holds data) :
    holds descent.focus.container ∧ holds descent.focus.child := by
  cases entry with
  | found selected held => exact ⟨kept, invariant.child? kept held⟩
  | made asked missing => exact ⟨invariant.setChild kept invariant.emptyMapping (.key _), invariant.emptyMapping⟩
  | placed items placement =>
    exact ⟨invariant.insertIdx (placement.position_le items.length) kept invariant.emptyMapping,
      invariant.emptyMapping⟩

/-- What a chain of writing steps leaves has the invariant, also where it fails. -/
theorem writeThrough (given : value.Has holds) (kept : holds data) (steps : List Step) :
    holds (writeThrough context value steps data).data := by
  induction steps generalizing data with
  | nil => exact kept
  | cons step rest ih =>
    cases rest with
    | nil => exact invariant.write given kept step
    | cons next rest =>
      have more : next :: rest ≠ [] := List.cons_ne_nil next rest
      cases entered : step.enter data with
      | error failure =>
        rw [writeThrough_of_refused more entered]
        exact kept
      | ok descent =>
        -- What is left below is put back, failure or not, into a container that has the invariant itself.
        have entry := entry_of_enter entered
        obtain ⟨around, below⟩ := invariant.entry entry kept
        rw [writeThrough_of_entered more entered, refill_of_child? entry.held]
        exact invariant.setChild around (ih below) descent.focus.place

theorem store (given : value.Has holds) (kept : holds data) (locator : Locator) :
    holds (store data locator value context).data := by
  cases objection : locator.storeObjection? context with
  | some cause =>
    rw [store_of_objection objection]
    exact kept
  | none =>
    rcases store_cases objection data value with idle | writes
    · rw [idle]
      exact kept
    · rw [writes]
      exact invariant.writeThrough given kept locator.steps

end Writing

section Reading

variable {value converted : Value} {step : Step} {steps : List Step} {finding next : Finding}

/-- What a standard converter makes of a value with the invariant has it too. -/
theorem convert {converter : Converter} (standard : converter ∈ Converter.standard) (kept : holds value)
    (converts : converter.convert value = .ok converted) : holds converted := by
  rcases List.mem_cons.1 standard with rfl | other
  · exact invariant.of_toInteger kept converts
  · rcases leaf_of_convert other converts with ⟨x, rfl⟩ | ⟨flag, rfl⟩ | ⟨text, rfl⟩
    · exact invariant.float x
    · exact invariant.bool flag
    · exact invariant.string text

/-- One reading step finds a child, converts, or leaves the finding alone. -/
theorem advance (standard : ∀ converter, step = .convert converter → converter ∈ Converter.standard)
    (kept : finding.Has holds) (advances : step.advance finding = .ok next) : next.Has holds := by
  cases finding with
  | error failure =>
    cases step with
    | required => contradiction
    | _ => exact Except.ok.inj advances ▸ Finding.has_error failure
  | ok value =>
    have whole : holds value := kept value rfl
    cases step with
    | go hop =>
      obtain rfl := Except.ok.inj advances
      intro child found
      obtain ⟨place, -, held⟩ := get_eq_ok_iff.1 found
      exact invariant.child? whole held
    | convert converter =>
      cases converts : converter.convert value with
      | error cause => simp [Step.advance, Step.proceed, converts] at advances
      | ok converted =>
        simp only [Step.advance, Step.proceed, converts, Except.ok.injEq] at advances
        exact advances ▸ Finding.has_ok (invariant.convert (standard converter rfl) whole converts)
    | _ => exact Except.ok.inj advances ▸ kept

/-- What a chain of reading steps finds has the invariant. -/
theorem follow (standard : ∀ converter, .convert converter ∈ steps → converter ∈ Converter.standard)
    (kept : finding.Has holds) (follows : follow steps finding = .ok next) : next.Has holds := by
  induction steps generalizing finding with
  | nil => exact Except.ok.inj follows ▸ kept
  | cons step rest ih =>
    unfold DataLocator.follow at follows
    split at follows
    · next middle advances =>
      have first : ∀ converter, step = .convert converter → converter ∈ Converter.standard := by
        rintro converter rfl
        exact standard converter List.mem_cons_self
      have others : ∀ converter, .convert converter ∈ rest → converter ∈ Converter.standard :=
        fun converter member => standard converter (List.mem_cons_of_mem step member)
      exact ih others (invariant.advance first kept advances) follows
    · contradiction

theorem load {source : Locator} (standard : source.Standard) {data : Value} (kept : holds data)
    (found : (load data source).result = .ok (.present value)) : holds value := by
  cases kind : source.kind with
  | target => simp [DataLocator.load, Locator.expect, kind] at found
  | source =>
    cases follows : DataLocator.follow source.steps (.ok data) with
    | error failure => simp [load_of_raised kind follows] at found
    | ok finding =>
      cases finding with
      | error cause => simp [load_of_missed kind follows] at found
      | ok reached =>
        rw [load_of_found kind follows] at found
        obtain rfl : reached = value := by simpa using found
        exact invariant.follow standard (Finding.has_ok kept) follows reached rfl

end Reading

/-- What a run of rules leaves has the invariant, also where one of them fails. -/
theorem run {context : Option MergeContext} {raw data : Value} {rules : List MappingRule}
    (standard : ∀ rule ∈ rules, rule.source.Standard) (also : holds raw) (kept : holds data) :
    holds (MappingPlan.run raw context rules data).data := by
  induction rules generalizing data with
  | nil => exact kept
  | cons rule rest ih =>
    obtain ⟨first, others⟩ := List.forall_mem_cons.1 standard
    cases loaded : (DataLocator.load raw rule.source).result with
    | error failure =>
      rw [MappingPlan.run_cons_of_failed loaded]
      exact kept
    | ok found =>
      cases found with
      | notPresent =>
        rw [MappingPlan.run_cons_of_absent loaded]
        exact ih others kept
      | present value =>
        have given : (Presence.present value).Has holds := by
          rintro _ ⟨⟩
          exact invariant.load first also loaded
        have left : holds (DataLocator.store data rule.target (.present value) context).data :=
          invariant.store given kept rule.target
        cases stored : (DataLocator.store data rule.target (.present value) context).result with
        | error failure =>
          rw [MappingPlan.run_cons_of_refused loaded stored]
          exact left
        | ok done =>
          rw [MappingPlan.run_cons_of_stored loaded stored]
          exact ih others left

end Value.Invariant

/-- Something that is done with the data. -/
inductive Action where
  | load (source : Locator)
  | store (target : Locator) (value : Presence) (context : Option MergeContext)
  | merge (context : MergeContext) (incoming : Value)
  | apply (plan : MappingPlan) (raw : Value) (context : Option MergeContext)

/-- What a source leads to. -/
def Locator.found? (source : Locator) (data : Value) : Option Value :=
  (load data source).result.toOption.bind Presence.toOption

/-- What an action leaves: the data, whether it failed or not, and the values that its sources lead to, those of rules
behind a failure among them. -/
structure Moment where
  data : Value
  found : List Value := []

namespace Action

/-- The values that go into the action have the property, and it converts by the standard converters alone. -/
def Fed (holds : Value → Prop) : Action → Prop
  | load source => source.Standard
  | store _ value _ => value.Has holds
  | merge _ incoming => holds incoming
  | apply plan raw _ => holds raw ∧ ∀ rule ∈ plan.rules, rule.source.Standard

/-- The values that go into the action are canonical, and it converts by the standard converters alone. -/
def Canonical (action : Action) : Prop := action.Fed Value.Canonical

def perform (data : Value) : Action → Moment
  | load source => { data, found := (source.found? data).toList }
  | store target value context => { data := (DataLocator.store data target value context).data }
  | merge context incoming => { data := (mergeInto context data incoming).data }
  | apply plan raw context =>
    { data := (plan.apply raw data context).data
      found := plan.rules.filterMap fun rule => rule.source.found? raw }

end Action

/-- What the actions leave on the way, each on the data that the ones before it left. -/
def session (data : Value) : List Action → List Moment
  | [] => []
  | action :: rest => action.perform data :: session (action.perform data).data rest

section Session

variable {data value : Value} {source : Locator} {action : Action} {actions : List Action}

theorem found?_eq_some_iff : source.found? data = some value ↔ (load data source).result = .ok (.present value) := by
  unfold Locator.found?
  cases loaded : (load data source).result with
  | error failure => simp [Except.toOption]
  | ok presence => cases presence <;> simp [Except.toOption, Presence.toOption]

namespace Value.Invariant

variable {holds : Value → Prop} {keys : List String → Prop} (invariant : Invariant holds keys)
include invariant

/-- One action leaves data with the invariant and finds values that have it. -/
theorem perform (kept : holds data) (fed : action.Fed holds) :
    holds (action.perform data).data ∧ ∀ value ∈ (action.perform data).found, holds value := by
  cases action with
  | load source =>
    refine ⟨kept, fun value member => ?_⟩
    have found : source.found? data = some value := by simpa [Action.perform] using member
    exact invariant.load fed kept (found?_eq_some_iff.1 found)
  | store target value context =>
    exact ⟨invariant.store fed kept target, fun _ member => absurd member List.not_mem_nil⟩
  | merge context incoming =>
    exact ⟨invariant.mergeInto context kept fed, fun _ member => absurd member List.not_mem_nil⟩
  | apply plan raw context =>
    obtain ⟨given, standard⟩ := fed
    refine ⟨invariant.run standard given kept, fun value member => ?_⟩
    obtain ⟨rule, among, found⟩ := List.mem_filterMap.1 member
    exact invariant.load (standard rule among) given (found?_eq_some_iff.1 found)

theorem session (kept : holds data) (fed : ∀ action ∈ actions, action.Fed holds) :
    ∀ moment ∈ session data actions, holds moment.data ∧ ∀ value ∈ moment.found, holds value := by
  induction actions generalizing data with
  | nil => simp [DataLocator.session]
  | cons action rest ih =>
    obtain ⟨first, others⟩ := List.forall_mem_cons.1 fed
    have left := invariant.perform kept first
    exact List.forall_mem_cons.2 ⟨left, ih left.1 others⟩

end Value.Invariant

/-- Integers in the signed range are held as signed ones. So they are in what is made of a natural, of a JSON tree or of
data of any shape, and in what is read by a schema, if its fallbacks hold them so. From such data on, every chain of
loads, stores, merges and plans that is fed such values, and converts by the standard converters, finds and leaves such
values alone, after failures too. -/
theorem canonical_throughout :
    (∀ n, (Value.ofUInt64 n).Canonical) ∧
    (∀ tree, (Value.ofJson tree).Canonical) ∧
    (∀ datum value, Value.ofDatum datum = .ok value → value.Canonical) ∧
    (∀ schema : Schema, schema.Canonical → ∀ tree value, schema.read tree = .ok value → value.Canonical) ∧
    ∀ (data : Value) (actions : List Action), data.Canonical → (∀ action ∈ actions, action.Canonical) →
      ∀ moment ∈ session data actions, moment.data.Canonical ∧ ∀ value ∈ moment.found, value.Canonical :=
  ⟨canonical_invariant.ofUInt64, canonical_ofJson, fun _ _ => canonical_of_ofDatum, Schema.canonical_of_read,
    fun _ _ => canonical_invariant.session⟩

/-- Integers on both sides of the end of the signed range are handed over and read, and one above it comes from a text
by a plan. A store beside it fails half way, and a merge puts another behind a small one. -/
theorem canonical_throughout_above_signed :
    let datum : Datum := .sequence [.wide 9223372036854775807, .wide 9223372036854775808]
    let given : Value := .sequence [.integer 9223372036854775807, .unsigned 9223372036854775808]
    let schema : Schema :=
      .record "Limits" [("low", none, .unsigned 8), ("high", some (.unsigned 9223372036854775808), .unsigned 64)]
    let tree : Json := .object [("low", .number (.natural 7))]
    let held : Value := .record "Limits" .closed [("high", .unsigned 9223372036854775808), ("low", .integer 7)]
    let data : Value := .mapping [("limit", .string " +09223372036854775808"), ("seen", .sequence [.integer 1])]
    let plan : MappingPlan :=
      ⟨[⟨.ofSteps .source [.go (.segment "limit"), .convert .integer], .ofHops .target [.segment "max"]⟩]⟩
    let actions : List Action :=
      [.apply plan data none, .store (.ofHops .target [.segment "a", .attr "b"]) (.present given) none,
        .merge { sequences := .concatenate } (.mapping [("seen", given)]),
        .load (.ofHops .source [.segment "seen", .item (.index 2)])]
    Value.ofDatum datum = .ok given ∧ given.Canonical ∧ schema.read tree = .ok held ∧ held.Canonical ∧
      (session data actions).map Moment.found =
        [[.unsigned 9223372036854775808], [], [], [.unsigned 9223372036854775808]] ∧
      ∀ moment ∈ session data actions, moment.data.Canonical ∧ ∀ value ∈ moment.found, value.Canonical := by
  intro datum given schema tree held data plan actions
  obtain ⟨-, -, fromDatum, fromSchema, fromSession⟩ := canonical_throughout
  have handed : Value.ofDatum datum = .ok given := rfl
  have above : Int64.maxValue.toInt < 9223372036854775808 := by decide
  have fallbacks : schema.Canonical := by simp [schema, Schema.Canonical, Schema.Fallbacks, Schema.FieldFallbacks, above]
  have reads : schema.read tree = .ok held := rfl
  have canonical : data.Canonical := by simp [data]
  have fed : ∀ action ∈ actions, action.Canonical := by
    simp [actions, plan, Action.Canonical, Action.Fed, Presence.Has, Locator.Standard, Locator.ofHops,
      Converter.standard, canonical, fromDatum datum given handed]
  exact ⟨handed, fromDatum datum given handed, reads, fromSchema schema fallbacks tree held reads, rfl,
    fromSession data actions canonical fed⟩

end Session

end DataLocator
