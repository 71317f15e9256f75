import DataLocator.Proofs.Hops
import DataLocator.Writing

/-! # Steps of a store

`Entry` lists what a store meets when it goes into a step on its way: a child that is there, a key that a mapping
lacks, or the place of a new element. All that a step can do on the way is one of the three (`entry_of_enter`), and
putting another node back in place of the child sets it in the container as it was before (`refill_made`,
`refill_placed`). `writeThrough` is read off step by step, and a store without an objection is `writeThrough`.
-/

namespace DataLocator

/-- The key that a hop asks a mapping for; an attribute asks for none. -/
def Hop.key? : Hop → Option String
  | item key => some key.text
  | segment name => some name
  | attr _ => none

theorem Placement.position_le (placement : Placement) (length : Nat) : placement.position length ≤ length := by
  cases placement with
  | append => exact Nat.le_refl length
  | insert index => exact Nat.min_le_right ..

namespace Value

theorem select_mapping_eq_ok_iff {request : Request} {entries : List (String × Value)} {hop : Hop}
    {place : Selector} :
    (mapping entries).select request hop = .ok place ↔ ∃ name, hop.key? = some name ∧ place = .key name := by
  cases hop <;> simp [select, selectItem, selectAttribute, hasItems, hasAttributes, Hop.key?, Key.text, eq_comm]

/-- Keys are the selectors of mappings alone. -/
theorem eq_mapping_of_select {request : Request} {container : Value} {hop : Hop} {name : String}
    (selected : container.select request hop = .ok (.key name)) : ∃ entries, container = mapping entries := by
  cases container with
  | mapping entries => exact ⟨entries, rfl⟩
  | sequence items =>
    cases hop with
    | item key => cases index : key.index? <;> simp [select, selectItem, index] at selected
    | attr other => simp [select, selectAttribute, hasAttributes] at selected
    | segment other =>
      cases index : (Key.name other).index? <;> simp [select, selectItem, hasItems, index] at selected
  | _ => cases hop <;> simp [select, selectItem, selectAttribute, hasItems, hasAttributes] at selected

/-- A child that was set at the selector of a hop is what the hop finds. -/
theorem get_setChild {container : Value} {hop : Hop} {place : Selector}
    (selected : container.select .itemAccess hop = .ok place) (accepted : container.accepts place = true)
    (child : Value) : (container.setChild place child).get hop = .ok child :=
  get_eq_ok_iff.2 ⟨place, (select_setChild ..).trans selected, child?_setChild_self child accepted⟩

/-- An assignment sets a child at an acceptable selector, or leaves things as they are. -/
theorem assign_eq_ok_iff {container child updated : Value} {hop : Hop} :
    container.assign hop child = .ok updated ↔
      ∃ place, container.select .itemAccess hop = .ok place ∧ container.accepts place = true ∧
        updated = container.setChild place child := by
  unfold assign
  cases selected : container.select .itemAssignment hop with
  | error failure =>
    have refused : ∀ place, container.select .itemAccess hop ≠ .ok place := by
      intro place chosen
      have selects : container.select .itemAssignment hop = .ok place := select_eq_ok_iff.1 chosen
      rw [selected] at selects
      contradiction
    simp [refused]
  | ok place =>
    have chosen : container.select .itemAccess hop = .ok place := select_eq_ok_iff.1 selected
    cases accepted : container.accepts place with
    | false => simp [chosen, accepted]
    | true =>
      simp only [chosen, accepted, ↓reduceIte, Except.ok.injEq, exists_eq_left', true_and]
      exact eq_comm

theorem assign_of_accepts {container : Value} {hop : Hop} {place : Selector}
    (selected : container.select .itemAccess hop = .ok place) (accepted : container.accepts place = true)
    (child : Value) : container.assign hop child = .ok (container.setChild place child) :=
  assign_eq_ok_iff.2 ⟨place, selected, accepted, rfl⟩

/-- A new child is taken by a mapping or by an extensible record. -/
theorem gains_of_accepts {container : Value} {place : Selector} (accepted : container.accepts place = true)
    (missing : container.child? place = none) :
    (∃ entries, container = mapping entries) ∨ ∃ name fields, container = record name .extensible fields := by
  cases container with
  | mapping entries => exact .inl ⟨entries, rfl⟩
  | sequence items =>
    cases place with
    | index position =>
      have bound : position < items.length := by simpa [accepts] using accepted
      have none : items.length ≤ position := List.getElem?_eq_none_iff.1 missing
      omega
    | _ => simp [accepts] at accepted
  | record name shape fields =>
    cases place with
    | field other =>
      have lacks : fields.lookup other = none := missing
      cases shape with
      | extensible => exact .inr ⟨name, fields, rfl⟩
      | closed => simp [accepts, lacks] at accepted
    | _ => simp [accepts] at accepted
  | _ => cases place <;> simp [accepts] at accepted

end Value

open Value

section Equations

/-- What is no mapping is gone into as it is visited. -/
theorem Value.enter_of_ne_mapping {container : Value} (other : ∀ entries, container ≠ mapping entries) (hop : Hop) :
    container.enter hop = (container.visit hop).map fun focus => { focus } := by
  cases container with
  | mapping entries => exact absurd rfl (other entries)
  | sequence items =>
    cases hop with
    | attr name => rfl
    | _ => exact congrArg (Except.map _) Sequence.visit_eq
  | record typeName shape fields =>
    cases hop with
    | item key => rfl
    | _ => exact congrArg (Except.map _) (Record.visit_eq (r := ⟨typeName, shape, fields⟩))
  | _ => cases hop <;> rfl

/-- By places, a store goes to the child at the selector of the hop, and makes a mapping at a key that is not there. -/
theorem Value.enter_eq (container : Value) (hop : Hop) :
    container.enter hop =
      match container.select .itemAccess hop with
      | .error failure => .error failure
      | .ok place =>
        match container.child? place, place with
        | some child, _ => .ok { focus := ⟨container, place, child⟩ }
        | none, .key name =>
          .ok
            { focus := ⟨container.setChild place emptyMapping, place, emptyMapping⟩
              events := [.vivified name] }
        | none, _ => .error (container.absence place) := by
  by_cases keyed : ∃ entries, container = mapping entries
  · obtain ⟨entries, rfl⟩ := keyed
    cases hop with
    | attr name => rfl
    | item key =>
      cases held : entries.lookup key.text <;> simp [enter, enterItem, select, selectItem, child?, setChild, held]
    | segment name =>
      cases held : entries.lookup name <;>
        simp [enter, enterItem, items?, select, selectItem, hasItems, Key.text, child?, setChild, held]
  · rw [enter_of_ne_mapping (fun entries same => keyed ⟨entries, same⟩), visit]
    cases selected : container.select .itemAccess hop with
    | error failure => rfl
    | ok place =>
      cases place with
      | key name => exact absurd (eq_mapping_of_select selected) keyed
      | index position => cases held : container.child? (.index position) <;> simp [held, Except.map]
      | field name => cases held : container.child? (.field name) <;> simp [held, Except.map]

/-- A new element is at its place as soon as it was put in. -/
theorem Value.placeElement_sequence (items : List Value) (placement : Placement) (element : Value) :
    (sequence items).placeElement placement element =
      .ok
        { focus :=
            ⟨sequence (items.insertIdx (placement.position items.length) element),
              .index (placement.position items.length), element⟩
          events := [.placed (placement.position items.length) items.length placement] } := by
  have held : (items.insertIdx (placement.position items.length) element)[placement.position items.length]? =
      some element := List.getElem?_insertIdx_self.trans (if_pos (placement.position_le items.length))
  simp only [placeElement, held]

theorem enter_place (placement : Placement) (items : List Value) :
    (Step.place placement).enter (sequence items) =
      .ok
        { focus :=
            ⟨sequence (items.insertIdx (placement.position items.length) emptyMapping),
              .index (placement.position items.length), emptyMapping⟩
          events := [.placed (placement.position items.length) items.length placement] } := by
  rw [Step.enter, placeElement_sequence]
  rfl

theorem write_go (context : Option MergeContext) (hop : Hop) (value container : Value) :
    (Step.go hop).write context (.present value) container =
      match container.assign hop value with
      | .ok data => { data, result := .ok () }
      | .error failure => { data := container, result := .error (.lookup failure) } := by
  simp only [Step.write, set_eq]
  cases container.assign hop value <;> rfl

theorem write_place (context : Option MergeContext) (placement : Placement) (value : Presence) (items : List Value) :
    (Step.place placement).write context value (sequence items) =
      { data := sequence (items.insertIdx (placement.position items.length) (value.getD emptyMapping))
        result := .ok ()
        events := [.placed (placement.position items.length) items.length placement] } := by
  simp only [Step.write, placeElement_sequence]

end Equations

/-- What is found or made when a store goes into a step on its way. -/
inductive Entry : Value → Step → Descent → Prop
  | found {container child : Value} {hop : Hop} {place : Selector}
      (selected : container.select .itemAccess hop = .ok place) (held : container.child? place = some child) :
      Entry container (.go hop) { focus := ⟨container, place, child⟩ }
  | made {entries : List (String × Value)} {hop : Hop} {name : String}
      (asked : hop.key? = some name) (missing : entries.lookup name = none) :
      Entry (mapping entries) (.go hop)
        { focus := ⟨mapping (Entries.insert name emptyMapping entries), .key name, emptyMapping⟩
          events := [.vivified name] }
  | placed (items : List Value) (placement : Placement) :
      Entry (sequence items) (.place placement)
        { focus :=
            ⟨sequence (items.insertIdx (placement.position items.length) emptyMapping),
              .index (placement.position items.length), emptyMapping⟩
          events := [.placed (placement.position items.length) items.length placement] }

private theorem entry_of_enter_hop {container : Value} {hop : Hop} {descent : Descent}
    (entered : container.enter hop = .ok descent) : Entry container (.go hop) descent := by
  rw [Value.enter_eq] at entered
  split at entered
  · contradiction
  · next place selected =>
    split at entered
    · next child held =>
      obtain rfl := Except.ok.inj entered
      exact .found selected held
    · next name missing =>
      obtain ⟨entries, rfl⟩ := eq_mapping_of_select selected
      obtain ⟨other, asked, same⟩ := select_mapping_eq_ok_iff.1 selected
      obtain rfl := Selector.key.inj same
      obtain rfl := Except.ok.inj entered
      exact .made asked missing
    · contradiction

theorem enter_go_of_ok {container : Value} {hop : Hop} {descent : Descent}
    (reached : container.enter hop = .ok descent) : (Step.go hop).enter container = .ok descent := by
  simp only [Step.enter, reached]
  rfl

theorem enter_go_of_error {container : Value} {hop : Hop} {failure : LookupFailure}
    (refused : container.enter hop = .error failure) : (Step.go hop).enter container = .error (.lookup failure) := by
  simp only [Step.enter, refused]
  rfl

/-- A step that is gone into finds its child, makes a mapping for a key, or makes an element. -/
theorem entry_of_enter {container : Value} {step : Step} {descent : Descent}
    (entered : step.enter container = .ok descent) : Entry container step descent := by
  cases step with
  | go hop =>
    cases reached : container.enter hop with
    | ok other =>
      obtain rfl := Except.ok.inj ((enter_go_of_ok reached).symm.trans entered)
      exact entry_of_enter_hop reached
    | error failure =>
      rw [enter_go_of_error reached] at entered
      contradiction
  | place placement =>
    cases container with
    | sequence items =>
      rw [enter_place] at entered
      obtain rfl := Except.ok.inj entered
      exact .placed items placement
    | _ =>
      change Except.error _ = Except.ok _ at entered
      contradiction
  | _ => simp [Step.enter] at entered

theorem enter_of_missing {entries : List (String × Value)} {hop : Hop} {name : String}
    (asked : hop.key? = some name) (missing : entries.lookup name = none) :
    (Step.go hop).enter (mapping entries) =
      .ok
        { focus := ⟨mapping (Entries.insert name emptyMapping entries), .key name, emptyMapping⟩
          events := [.vivified name] } := by
  have selected : (mapping entries).select .itemAccess hop = .ok (.key name) :=
    select_mapping_eq_ok_iff.2 ⟨name, asked, rfl⟩
  apply enter_go_of_ok
  simp [Value.enter_eq, selected, child?, missing, setChild]

/-- An empty mapping is gone into for a key, which is made with another empty mapping, and refuses all other steps. -/
theorem enter_emptyMapping (step : Step) :
    (∃ hop name, step = .go hop ∧ hop.key? = some name ∧ step.enter emptyMapping =
      .ok { focus := ⟨mapping [(name, emptyMapping)], .key name, emptyMapping⟩, events := [.vivified name] }) ∨
    ∃ failure, step.enter emptyMapping = .error failure := by
  cases step with
  | go hop =>
    cases hop with
    | item key => exact .inl ⟨_, key.text, rfl, rfl, enter_of_missing rfl rfl⟩
    | segment name => exact .inl ⟨_, name, rfl, rfl, enter_of_missing rfl rfl⟩
    | attr name => exact .inr ⟨_, rfl⟩
  | _ => exact .inr ⟨_, rfl⟩

/-- What is found or made is gone into. -/
theorem Entry.enter {container : Value} {step : Step} {descent : Descent} (entry : Entry container step descent) :
    step.enter container = .ok descent := by
  cases entry with
  | found selected held => exact enter_go_of_ok (by simp [Value.enter_eq, selected, held])
  | made asked missing => exact enter_of_missing asked missing
  | placed items placement => exact enter_place placement items

theorem enter_of_get {container child : Value} {hop : Hop} (found : container.get hop = .ok child) :
    ∃ place, (Step.go hop).enter container = .ok { focus := ⟨container, place, child⟩ } := by
  obtain ⟨place, selected, held⟩ := get_eq_ok_iff.1 found
  exact ⟨place, (Entry.found selected held).enter⟩

theorem refill_of_child? {container child : Value} {place : Selector} (held : container.child? place = some child)
    (below : Value) : Focus.refill ⟨container, place, child⟩ below = container.setChild place below :=
  replaceChild_of_child? held below

/-- A node put in place of a mapping that was made stands at the key. -/
theorem refill_made (name : String) (entries : List (String × Value)) (below : Value) :
    Focus.refill ⟨mapping (Entries.insert name emptyMapping entries), .key name, emptyMapping⟩ below =
      mapping (Entries.insert name below entries) := by
  have held : (mapping (Entries.insert name emptyMapping entries)).child? (.key name) = some emptyMapping :=
    Entries.lookup_insert_self name emptyMapping entries
  rw [refill_of_child? held]
  exact setChild_setChild (mapping entries) (.key name) below emptyMapping

/-- A node put in place of an element that was made is the new element. -/
theorem refill_placed (position : Nat) (items : List Value) (below : Value) :
    Focus.refill ⟨sequence (items.insertIdx position emptyMapping), .index position, emptyMapping⟩ below =
      sequence (items.insertIdx position below) := by
  have replaced : (items.insertIdx position emptyMapping).set position below = items.insertIdx position below := by
    apply List.ext_getElem?
    intro other
    rw [List.getElem?_set, List.getElem?_insertIdx, List.getElem?_insertIdx]
    grind
  simp [Focus.refill, replaceChild, replaced]

/-- What was gone into stands in its place. -/
theorem Entry.held {container : Value} {step : Step} {descent : Descent} (entry : Entry container step descent) :
    descent.focus.container.child? descent.focus.place = some descent.focus.child := by
  cases entry with
  | found selected held => exact held
  | made asked missing => exact Entries.lookup_insert_self ..
  | placed items placement =>
    exact List.getElem?_insertIdx_self.trans (if_pos (placement.position_le items.length))

section WriteThrough

variable {context : Option MergeContext} {value : Presence} {data : Value} {step : Step} {rest : List Step}

theorem writeThrough_singleton (context : Option MergeContext) (value : Presence) (last : Step) (data : Value) :
    writeThrough context value [last] data = last.write context value data := rfl

theorem writeThrough_of_entered (more : rest ≠ []) {descent : Descent} (entered : step.enter data = .ok descent) :
    writeThrough context value (step :: rest) data =
      { data := descent.focus.refill (writeThrough context value rest descent.focus.child).data
        result := (writeThrough context value rest descent.focus.child).result
        events := descent.events ++ (writeThrough context value rest descent.focus.child).events } := by
  obtain ⟨next, rest, rfl⟩ := List.exists_cons_of_ne_nil more
  simp only [writeThrough, entered]

theorem writeThrough_of_refused (more : rest ≠ []) {failure : Failure} (refused : step.enter data = .error failure) :
    writeThrough context value (step :: rest) data = { data, result := .error failure } := by
  obtain ⟨next, rest, rfl⟩ := List.exists_cons_of_ne_nil more
  simp only [writeThrough, refused]

/-- A store that succeeds goes into its first step and succeeds below it. -/
theorem exists_entry_of_succeeded (more : rest ≠ [])
    (succeeded : (writeThrough context value (step :: rest) data).result = .ok ()) :
    ∃ descent, Entry data step descent ∧ (writeThrough context value rest descent.focus.child).result = .ok () ∧
      (writeThrough context value (step :: rest) data).data =
        descent.focus.refill (writeThrough context value rest descent.focus.child).data := by
  cases entered : step.enter data with
  | error failure =>
    rw [writeThrough_of_refused more entered] at succeeded
    simp at succeeded
  | ok descent =>
    rw [writeThrough_of_entered more entered] at succeeded ⊢
    exact ⟨descent, entry_of_enter entered, succeeded, rfl⟩

/-- What is found on the way does not bear on the result of a store. -/
theorem result_of_walked {node : Value} {front : List Hop} (more : rest ≠ []) (found : data.walk front = .ok node) :
    (writeThrough context value (front.map Step.go ++ rest) data).result =
      (writeThrough context value rest node).result := by
  induction front generalizing data with
  | nil =>
    obtain rfl := Except.ok.inj found
    rfl
  | cons hop front ih =>
    cases reads : data.get hop with
    | error failure =>
      rw [walk_cons_of_error reads] at found
      contradiction
    | ok child =>
      rw [walk_cons_of_ok reads] at found
      obtain ⟨place, entered⟩ := enter_of_get reads
      have follows : front.map Step.go ++ rest ≠ [] := by simp [more]
      rw [List.map_cons, List.cons_append, writeThrough_of_entered follows entered]
      exact ih found

end WriteThrough

section Store

variable {locator : Locator} {context : Option MergeContext}

theorem storeObjection?_eq_none_iff :
    locator.storeObjection? context = none ↔
      locator.kind = .target ∧ locator.steps ≠ [] ∧ (locator.isMerge = true → context.isSome = true) := by
  obtain ⟨kind, steps, _, rfl⟩ := locator
  cases kind with
  | source => simp [Locator.storeObjection?, Locator.expect]
  | target =>
    cases steps with
    | nil => simp [Locator.storeObjection?, Locator.expect]
    | cons step rest =>
      cases context <;> simp [Locator.storeObjection?, Locator.expect]

theorem store_of_objection {cause : InvalidOperation} (objection : locator.storeObjection? context = some cause)
    (data : Value) (value : Presence) :
    store data locator value context = { data, result := .error (.invalid cause) } := by
  simp only [store, objection]

/-- A store that nothing forbids is skipped, for there is nothing to store, or is a writing through the steps. -/
theorem store_cases (permitted : locator.storeObjection? context = none) (data : Value) (value : Presence) :
    store data locator value context = { data, result := .ok (), events := [.skipped locator.text] } ∨
      store data locator value context = writeThrough context value locator.steps data := by
  cases idle : !value.isPresent && !locator.steps.any Step.isPlacement <;> simp [store, permitted, idle]

/-- Nothing is stored by leaving the data alone, if no objection and no placement is in the way. -/
theorem store_notPresent (permitted : locator.storeObjection? context = none)
    (placeless : locator.steps.any Step.isPlacement = false) (data : Value) :
    store data locator .notPresent context = { data, result := .ok (), events := [.skipped locator.text] } := by
  simp [store, permitted, placeless, Presence.isPresent, Presence.toOption]

/-- A store that has something to do and is not objected to is a writing through the steps. -/
theorem store_of_busy (permitted : locator.storeObjection? context = none) {value : Presence}
    (busy : value.isPresent = true ∨ locator.steps.any Step.isPlacement = true) (data : Value) :
    store data locator value context = writeThrough context value locator.steps data := by
  rcases busy with present | places
  · simp [store, permitted, present]
  · simp [store, permitted, places]

/-- A store of a value that nothing forbids is a writing through the steps. -/
theorem store_present (permitted : locator.storeObjection? context = none) (data value : Value) :
    store data locator (.present value) context = writeThrough context (.present value) locator.steps data :=
  store_of_busy permitted (.inl rfl) data

theorem isMerge_eq_false (other : ∀ step ∈ locator.steps, step.isMerge = false) : locator.isMerge = false := by
  cases last : locator.steps.getLast? with
  | none => rw [Locator.isMerge, last]; rfl
  | some step => rw [Locator.isMerge, last]; exact other step (List.mem_of_getLast? last)

/-- A store of a value through steps that are no merges is a writing through them. -/
theorem store_of_no_merge (writes : locator.kind = .target) (nonempty : locator.steps ≠ [])
    (other : ∀ step ∈ locator.steps, step.isMerge = false) (data value : Value) :
    store data locator (.present value) context = writeThrough context (.present value) locator.steps data := by
  apply store_present
  rw [storeObjection?_eq_none_iff]
  refine ⟨writes, nonempty, ?_⟩
  simp [isMerge_eq_false other]

theorem store_ofHops {hops : List Hop} (nonempty : hops ≠ []) (data value : Value) :
    store data (.ofHops .target hops) (.present value) context =
      writeThrough context (.present value) (hops.map Step.go) data := by
  refine store_of_no_merge rfl ?_ ?_ data value
  · simpa [Locator.ofHops] using nonempty
  · simp [Locator.ofHops, Step.isMerge]

end Store

end DataLocator
