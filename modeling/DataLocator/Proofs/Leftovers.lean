import DataLocator.Proofs.Steps

/-! # What a failed store leaves

A store that fails leaves the data as it was, unless a step on its way had made something: then the data has one new
entry or element, and nothing else is changed (`Grown`). What is made is an empty mapping, so all that follows is
below it, and is a nest of new mappings (`nested`). An empty mapping takes every key, hence such a store can only stop
at a step that asks for something else (`StopsAtEmpty`).
-/

namespace DataLocator

open Value

/-- Mappings inside one another, each with one key, down to an empty one. -/
def nested : List String → Value
  | [] => emptyMapping
  | name :: rest => mapping [(name, nested rest)]

/-- Data with one new entry in a mapping or one new element in a sequence, at any depth. -/
inductive Grown (fresh : Value) : Value → Value → Prop
  | entry {entries : List (String × Value)} {name : String} (missing : entries.lookup name = none) :
      Grown fresh (mapping entries) (mapping (Entries.insert name fresh entries))
  | element {items : List Value} {position : Nat} (bound : position ≤ items.length) :
      Grown fresh (sequence items) (sequence (items.insertIdx position fresh))
  | child {container child left : Value} {place : Selector} (held : container.child? place = some child)
      (below : Grown fresh child left) : Grown fresh container (container.setChild place left)

/-- Does the event tell of something that was made? -/
def Event.creates : Event → Bool
  | vivified _ | placed .. => true
  | _ => false

/-- The result of one step of a store: the last step writes, and each other is gone into. -/
def Step.resultAt (step : Step) (context : Option MergeContext) (value : Presence) (back : List Step) (node : Value) :
    Except Failure Unit :=
  match back with
  | [] => (step.write context value node).result
  | _ :: _ => (step.enter node).map fun _ => ()

/-- The step at which a store fails, with its failure and the events of the steps in front of it. -/
inductive StopsAt (context : Option MergeContext) (value : Presence) :
    List Step → Value → Step → Failure → List Event → Prop
  | here {stop : Step} {back : List Step} {node : Value} {failure : Failure}
      (failed : stop.resultAt context value back node = .error failure) :
      StopsAt context value (stop :: back) node stop failure []
  | later {step stop : Step} {rest : List Step} {node : Value} {descent : Descent} {failure : Failure}
      {made : List Event} (entered : step.enter node = .ok descent)
      (below : StopsAt context value rest descent.focus.child stop failure made) :
      StopsAt context value (step :: rest) node stop failure (descent.events ++ made)

/-- The steps that an empty mapping does not take, each with its failure. -/
inductive StopsAtEmpty : Presence → Step → Failure → Prop
  | attr (value : Presence) (name : String) :
      StopsAtEmpty value (.go (.attr name)) (.lookup (.attributeNotFound "mapping" name))
  | placement (value : Presence) (placement : Placement) :
      StopsAtEmpty value (.place placement) (.lookup (.unsupported "mapping" placement.request))
  | merge {incoming : Value} (noMapping : ∀ layer, incoming ≠ .mapping layer) :
      StopsAtEmpty (.present incoming) .merge (.invalid (.mergeValue incoming.typeName))

/-- Steps that make a target: all fit one, a merge is the last, and it has a context. -/
structure Permitted (context : Option MergeContext) (steps : List Step) : Prop where
  fits : ∀ step ∈ steps, step.fits .target = true
  mergesLast : ∀ step ∈ steps.dropLast, step.isMerge = false
  authorised : steps.getLast?.any Step.isMerge = true → context.isSome = true

section

variable {context : Option MergeContext} {value : Presence} {data node : Value} {step stop : Step}
variable {rest steps : List Step} {failure : Failure} {made : List Event}

theorem Permitted.tail (permitted : Permitted context (step :: rest)) (more : rest ≠ []) : Permitted context rest := by
  obtain ⟨next, others, rfl⟩ := List.exists_cons_of_ne_nil more
  refine ⟨fun other member => permitted.fits other (List.mem_cons_of_mem _ member), ?_, ?_⟩
  · intro other member
    exact permitted.mergesLast other (List.mem_cons_of_mem _ member)
  · simpa using permitted.authorised

/-- Gone into, an empty mapping gets a key with another empty mapping. -/
theorem refill_of_emptyMapping {descent : Descent} (entry : Entry emptyMapping step descent) :
    ∃ name, descent.focus.child = emptyMapping ∧ ∀ below, descent.focus.refill below = mapping [(name, below)] := by
  rcases enter_emptyMapping step with ⟨hop, name, -, -, entered⟩ | ⟨failure, refused⟩
  · obtain rfl := Except.ok.inj (entry.enter.symm.trans entered)
    exact ⟨name, rfl, refill_made name []⟩
  · rw [entry.enter] at refused
    contradiction

/-- A step that is gone into leads to a child that was there, or makes an empty mapping in a new entry or element. -/
theorem Entry.found_or_made {descent : Descent} (entry : Entry data step descent) :
    (∃ place, data.child? place = some descent.focus.child ∧
        ∀ below, descent.focus.refill below = data.setChild place below) ∨
      (descent.focus.child = emptyMapping ∧ (∃ event ∈ descent.events, event.creates = true) ∧
        ∀ fresh, Grown fresh data (descent.focus.refill fresh)) := by
  cases entry with
  | @found _ _ _ place _ held => exact .inl ⟨place, held, refill_of_child? held⟩
  | made asked missing =>
    refine .inr ⟨rfl, ⟨_, List.mem_cons_self, rfl⟩, fun fresh => ?_⟩
    rw [refill_made]
    exact .entry missing
  | placed items placement =>
    refine .inr ⟨rfl, ⟨_, List.mem_cons_self, rfl⟩, fun fresh => ?_⟩
    rw [refill_placed]
    exact .element (placement.position_le items.length)

theorem StopsAt.mem (stops : StopsAt context value steps data stop failure made) : stop ∈ steps := by
  induction stops with
  | here _ => exact List.mem_cons_self
  | later _ _ ih => exact List.mem_cons_of_mem _ ih

/-- A last step that fails writes nothing. -/
theorem write_data_of_failed (failed : (step.write context value node).result = .error failure) :
    (step.write context value node).data = node := by
  cases step with
  | go hop =>
    cases value with
    | notPresent => rfl
    | present value =>
      cases assigned : node.assign hop value with
      | ok updated => simp [write_go, assigned] at failed
      | error cause => simp only [write_go, assigned]
  | place placement =>
    cases node with
    | sequence items => simp [write_place] at failed
    | _ => rfl
  | merge =>
    cases value with
    | notPresent => rfl
    | present incoming =>
      cases context with
      | none => rfl
      | some context =>
        cases incoming with
        | mapping layer =>
          cases node with
          | mapping entries => simp [Step.write, mergeInto] at failed
          | _ => rfl
        | _ => rfl
  | _ => rfl

/-- The last step fails at an empty mapping only if it asks for something else than a key. -/
theorem stopsAtEmpty_of_write (permitted : Permitted context [step])
    (failed : (step.write context value emptyMapping).result = .error failure) : StopsAtEmpty value step failure := by
  cases step with
  | go hop =>
    cases value with
    | notPresent => simp [Step.write] at failed
    | present value =>
      cases hop with
      | attr name =>
        obtain rfl := Except.error.inj failed
        exact .attr _ name
      | item key => simp [write_go, Value.assign, select, selectItem, emptyMapping, accepts] at failed
      | segment name => simp [write_go, Value.assign, select, selectItem, hasItems, emptyMapping, accepts] at failed
  | place placement =>
    obtain rfl := Except.error.inj failed
    exact .placement _ placement
  | merge =>
    cases value with
    | notPresent => simp [Step.write] at failed
    | present incoming =>
      obtain ⟨granted, rfl⟩ := Option.isSome_iff_exists.1 (permitted.authorised rfl)
      cases incoming with
      | mapping layer => simp [Step.write, mergeInto, emptyMapping] at failed
      | _ =>
        obtain rfl := Except.error.inj failed
        exact .merge (by simp)
  | _ => simpa [Step.fits] using permitted.fits _ List.mem_cons_self

/-- An empty mapping is gone into by every step that asks it for a key. -/
theorem stopsAtEmpty_of_enter (value : Presence) (fits : step.fits .target = true) (noMerge : step.isMerge = false)
    (failed : step.enter emptyMapping = .error failure) : StopsAtEmpty value step failure := by
  cases step with
  | go hop =>
    cases hop with
    | attr name =>
      obtain rfl := Except.error.inj failed
      exact .attr value name
    | item key =>
      rw [emptyMapping, enter_of_missing rfl rfl] at failed
      contradiction
    | segment name =>
      rw [emptyMapping, enter_of_missing rfl rfl] at failed
      contradiction
  | place placement =>
    obtain rfl := Except.error.inj failed
    exact .placement value placement
  | merge => simp [Step.isMerge] at noMerge
  | _ => simp [Step.fits] at fits

/-- A store into an empty mapping that fails leaves a nest of mappings, and stops where an empty mapping does. -/
theorem nested_of_failed (nonempty : steps ≠ []) (permitted : Permitted context steps)
    (failed : (writeThrough context value steps emptyMapping).result = .error failure) :
    ∃ stop made keys, StopsAt context value steps emptyMapping stop failure made ∧ StopsAtEmpty value stop failure ∧
      (writeThrough context value steps emptyMapping).data = nested keys := by
  induction steps with
  | nil => contradiction
  | cons step rest ih =>
    by_cases more : rest = []
    · subst more
      rw [writeThrough_singleton] at failed ⊢
      exact ⟨step, [], [], .here failed, stopsAtEmpty_of_write permitted failed, write_data_of_failed failed⟩
    · have fits := permitted.fits step List.mem_cons_self
      have noMerge : step.isMerge = false := by
        refine permitted.mergesLast step ?_
        rw [List.dropLast_cons_of_ne_nil more]
        exact List.mem_cons_self
      cases entered : step.enter emptyMapping with
      | error cause =>
        rw [writeThrough_of_refused more entered] at failed ⊢
        obtain rfl := Except.error.inj failed
        refine ⟨step, [], [], .here ?_, stopsAtEmpty_of_enter value fits noMerge entered, rfl⟩
        obtain ⟨next, others, rfl⟩ := List.exists_cons_of_ne_nil more
        simp [Step.resultAt, entered, Except.map]
      | ok descent =>
        rw [writeThrough_of_entered more entered] at failed ⊢
        obtain ⟨name, child, refilled⟩ := refill_of_emptyMapping (entry_of_enter entered)
        rw [child] at failed ⊢
        obtain ⟨stop, made, keys, stops, empty, left⟩ := ih more (permitted.tail more) failed
        rw [← child] at stops
        refine ⟨stop, _, name :: keys, .later entered stops, empty, ?_⟩
        rw [left]
        exact refilled (nested keys)

/-- A store that fails leaves the data as it was, or has made a nest of mappings and stopped inside it. -/
theorem left_of_failed (permitted : Permitted context steps)
    (failed : (writeThrough context value steps data).result = .error failure) :
    (writeThrough context value steps data).data = data ∨
      ∃ stop made keys, StopsAt context value steps data stop failure made ∧
        (∃ event ∈ made, event.creates = true) ∧ StopsAtEmpty value stop failure ∧
        Grown (nested keys) data (writeThrough context value steps data).data := by
  induction steps generalizing data with
  | nil => exact .inl rfl
  | cons step rest ih =>
    by_cases more : rest = []
    · subst more
      exact .inl (write_data_of_failed failed)
    · cases entered : step.enter data with
      | error cause =>
        rw [writeThrough_of_refused more entered]
        exact .inl rfl
      | ok descent =>
        rw [writeThrough_of_entered more entered] at failed ⊢
        -- Below a child that was there the question is the same again; below one that was made all is new.
        rcases (entry_of_enter entered).found_or_made with ⟨place, held, refills⟩ | ⟨child, creates, grows⟩
        · rcases ih (permitted.tail more) failed with same | ⟨stop, made, keys, stops, creates, empty, grown⟩
          · left
            rw [same, refills]
            exact setChild_of_child? held
          · obtain ⟨event, member, creates⟩ := creates
            refine .inr ⟨stop, _, keys, .later entered stops, ?_, empty, ?_⟩
            · exact ⟨event, List.mem_append_right _ member, creates⟩
            · rw [refills]
              exact .child held grown
        · rw [child] at failed ⊢
          obtain ⟨stop, made, keys, stops, empty, left⟩ := nested_of_failed more (permitted.tail more) failed
          rw [← child] at stops
          obtain ⟨event, member, creates⟩ := creates
          refine .inr ⟨stop, _, keys, .later entered stops, ?_, empty, ?_⟩
          · exact ⟨event, List.mem_append_left _ member, creates⟩
          · rw [left]
            exact grows (nested keys)

end

theorem permitted_of_legal {locator : Locator} {context : Option MergeContext} (legal : locator.Legal)
    (unobjected : locator.storeObjection? context = none) : Permitted context locator.steps := by
  obtain ⟨target, -, authorised⟩ := storeObjection?_eq_none_iff.1 unobjected
  refine ⟨fun step member => ?_, fun step member => ?_, authorised⟩
  · rw [← target]
    exact legal.1 step member
  · simpa using legal.2 step member

/-- A store that fails leaves the data as it was, or it stops at a step that an empty mapping does not take, after a
step on its way has made something: the data then has one new entry or element, a nest of mappings, and is unchanged
else. Through items and segments alone, a dotted text included, a store leaves the data as it was. -/
theorem failed_store_only_adds {data : Value} {locator : Locator} {value : Presence} {context : Option MergeContext}
    {failure : Failure} (legal : locator.Legal) (failed : (store data locator value context).result = .error failure) :
    let left := (store data locator value context).data
    (left = data ∨
      ∃ stop made keys, StopsAt context value locator.steps data stop failure made ∧
        (∃ event ∈ made, event.creates = true) ∧ StopsAtEmpty value stop failure ∧
        (∀ typeName, failure ≠ .mergeConflict typeName) ∧ Grown (nested keys) data left) ∧
    ((∀ step ∈ locator.steps, (∃ key, step = .go (.item key)) ∨ ∃ name, step = .go (.segment name)) → left = data) ∧
    ∀ text, locator = .ofPath .target text → left = data := by
  intro left
  have main : left = data ∨
      ∃ stop made keys, StopsAt context value locator.steps data stop failure made ∧
        (∃ event ∈ made, event.creates = true) ∧ StopsAtEmpty value stop failure ∧ Grown (nested keys) data left := by
    cases objection : locator.storeObjection? context with
    | some cause => exact .inl (congrArg Outcome.data (store_of_objection objection data value))
    | none =>
      rcases store_cases objection data value with skipped | written
      · rw [skipped] at failed
        contradiction
      · have same : left = _ := congrArg Outcome.data written
        rw [written] at failed
        rw [same]
        exact left_of_failed (permitted_of_legal legal objection) failed
  have atomic : (∀ step ∈ locator.steps, (∃ key, step = .go (.item key)) ∨ ∃ name, step = .go (.segment name)) →
      left = data := by
    intro keyed
    rcases main with same | ⟨stop, made, keys, stops, -, empty, -⟩
    · exact same
    · rcases keyed stop stops.mem with ⟨key, rfl⟩ | ⟨name, rfl⟩ <;> cases empty
  refine ⟨?_, atomic, ?_⟩
  · refine main.imp id ?_
    rintro ⟨stop, made, keys, stops, creates, empty, grown⟩
    refine ⟨stop, made, keys, stops, creates, empty, ?_, grown⟩
    rintro typeName rfl
    cases empty
  · rintro text rfl
    apply atomic
    intro step member
    rw [Locator.ofPath_eq] at member
    obtain ⟨hop, isHop, rfl⟩ := List.mem_map.1 member
    obtain ⟨name, -, rfl⟩ := List.mem_map.1 isHop
    exact .inr ⟨name, rfl⟩

/-- An element that was appended stays when the step behind it asks it for an attribute. -/
theorem failed_store_leaves_element :
    let data : Value := .mapping [("items", .sequence [])]
    let locator : Locator := .ofSteps .target [.go (.item (.name "items")), .place .append, .go (.attr "x")]
    let failure : Failure := .lookup (.attributeNotFound "mapping" "x")
    let left := (store data locator (.present .null) none).data
    locator.Legal ∧ (store data locator (.present .null) none).result = .error failure ∧
      left = .mapping [("items", .sequence [emptyMapping])] ∧
      ∃ stop made keys, StopsAt none (.present .null) locator.steps data stop failure made ∧
        Grown (nested keys) data left := by
  intro data locator failure left
  have legal : locator.Legal := ⟨by simp [locator, Step.fits], by simp [locator, Step.isMerge]⟩
  have failed : (store data locator (.present .null) none).result = .error failure := rfl
  have leaves : left = .mapping [("items", .sequence [emptyMapping])] := rfl
  have changed : left ≠ data := by simp [leaves, data]
  obtain ⟨stop, made, keys, stops, -, -, -, grown⟩ := (failed_store_only_adds legal failed).1.resolve_left changed
  exact ⟨legal, failed, leaves, stop, made, keys, stops, grown⟩

end DataLocator
