import DataLocator.Proofs.Frame
import DataLocator.Proofs.Succession

/-! # The laws of access

The items of mappings and sequences and the fields of records are got, visited and set by definitions of their own
(`Mapping.access`, `Sequence.access`, `Record.access`). `Access.Lawful` says how the three agree, and it follows from
the places that they go to (`Access.Serves.lawful`). So it does for what the interpreters make of them: hops get what
they visit, and a store goes into what they visit and sets what they assign (`Value.Lawful`). A closed record takes no
new field, and keeps its names through any assignments (`Record.exists_alike_of_assignments`).
-/

namespace DataLocator

open Value

/-- The laws of an access to a container, where `offered` is the access of this kind that a value gives and `text` what
a name is written as. -/
structure Access.Lawful {Name : Type} (access : Access Name) (container : Value)
    (offered : Value → Option (Access Name)) (text : Name → String) : Prop where
  /-- A child is got where it can be visited, and the two fail alike. -/
  agrees : ∀ name,
    (∃ focus, access.visit name = .ok focus ∧ access.get name = .ok focus.child) ∨
      ∃ failure, access.visit name = .error failure ∧ access.get name = .error failure
  /-- To replace the child that is visited is to set it. -/
  replaces : ∀ name focus, access.visit name = .ok focus →
    ∀ child, access.set name child = { container := focus.refill child, result := .ok () }
  /-- What was set is got, all other names get what they got before, and the container keeps its form. -/
  sets : ∀ name child, (access.set name child).result = .ok () →
    container.SameForm (access.set name child).container ∧
      ∃ after, offered (access.set name child).container = some after ∧ after.get name = .ok child ∧
        ∀ other, text other ≠ text name → after.get other = access.get other
  /-- A container that refuses a child is left alone. -/
  refuses : ∀ name child failure, (access.set name child).result = .error failure →
    (access.set name child).container = container

/-- The laws of the child that a hop names in a container. -/
structure Value.Lawful (container : Value) (hop : Hop) : Prop where
  /-- What is got is the child that is visited. -/
  found_iff : ∀ child, container.get hop = .ok child ↔ ∃ focus, container.visit hop = .ok focus ∧ focus.child = child
  /-- A look-up and a visit fail alike. -/
  missed_iff : ∀ failure, container.get hop = .error failure ↔ container.visit hop = .error failure
  /-- A store on its way goes into the child that is visited. -/
  entered : ∀ focus, container.visit hop = .ok focus → container.enter hop = .ok { focus }
  /-- Where a visit fails, such a store fails alike or makes a key of a mapping. -/
  barred : ∀ failure, container.visit hop = .error failure →
    (∃ entries, container = mapping entries) ∨ container.enter hop = .error failure
  /-- To replace the child that is visited is to set it. -/
  replaced : ∀ focus, container.visit hop = .ok focus →
    ∀ child, container.set hop child = { container := focus.refill child, result := .ok () }
  /-- What was set is found, all other names find what they found before, and the container keeps its form. -/
  assigned : ∀ child, (container.set hop child).result = .ok () →
    (container.set hop child).container.get hop = .ok child ∧
      (∀ other : Hop, other.name ≠ hop.name → (container.set hop child).container.get other = container.get other) ∧
      container.SameForm (container.set hop child).container
  /-- A container that refuses a child is left alone, and so it is by the store that hands the child over. -/
  refused : ∀ child failure, (container.set hop child).result = .error failure →
    (container.set hop child).container = container ∧
      ∀ context, store container (.ofHops .target [hop]) (.present child) context =
        { data := container, result := .error (.lookup failure) }

namespace Value

variable {container child updated : Value} {hop : Hop} {place : Selector}

/-- A visit finds the child at the place that the hop selects, or fails for want of the one or the other. -/
theorem visit_cases (container : Value) (hop : Hop) :
    (∃ place child, container.select .itemAccess hop = .ok place ∧ container.child? place = some child ∧
      container.visit hop = .ok ⟨container, place, child⟩) ∨
    (∃ place, container.select .itemAccess hop = .ok place ∧ container.child? place = none ∧
      container.visit hop = .error (container.absence place)) ∨
    ∃ failure, container.select .itemAccess hop = .error failure ∧ container.visit hop = .error failure := by
  unfold visit
  cases container.select .itemAccess hop with
  | error failure => exact .inr (.inr ⟨failure, rfl, rfl⟩)
  | ok place =>
    cases held : container.child? place with
    | some child => exact .inl ⟨place, child, rfl, held, by simp only [held]⟩
    | none => exact .inr (.inl ⟨place, rfl, held, by simp only [held]⟩)

theorem visit_eq_ok_iff {focus : Focus} :
    container.visit hop = .ok focus ↔
      ∃ place child, container.select .itemAccess hop = .ok place ∧ container.child? place = some child ∧
        focus = ⟨container, place, child⟩ := by
  constructor
  · intro visited
    rcases visit_cases container hop with ⟨place, child, selected, held, found⟩ | ⟨place, -, -, missed⟩ |
      ⟨failure, -, missed⟩
    · exact ⟨place, child, selected, held, Except.ok.inj (visited.symm.trans found)⟩
    · rw [missed] at visited
      contradiction
    · rw [missed] at visited
      contradiction
  · rintro ⟨place, child, selected, held, rfl⟩
    simp only [visit, selected, held]

/-- A child that was set at one place is not found under another name. -/
theorem get_setChild_of_ne (differ : hop.name ≠ place.name) (container child : Value) :
    (container.setChild place child).get hop = container.get hop := by
  rw [get_eq, get_eq, visit, visit, select_setChild]
  cases selected : container.select .itemAccess hop with
  | error failure => rfl
  | ok other =>
    -- A place answers to one name, so the hop selects another place than the one that was set.
    have ne : other ≠ place := by
      rintro rfl
      exact differ (Hop.name_of_select selected)
    simp only [child?_setChild_of_ne ne, absence_setChild]
    cases container.child? other <;> rfl

theorem enter_of_visit {focus : Focus} (visited : container.visit hop = .ok focus) :
    container.enter hop = .ok { focus } := by
  obtain ⟨place, child, selected, held, rfl⟩ := visit_eq_ok_iff.1 visited
  simp only [enter_eq, selected, held]

theorem enter_of_missed {failure : LookupFailure} (missed : container.visit hop = .error failure) :
    (∃ entries, container = mapping entries) ∨ container.enter hop = .error failure := by
  by_cases keyed : ∃ entries, container = mapping entries
  · exact .inl keyed
  · right
    rw [enter_of_ne_mapping (fun entries same => keyed ⟨entries, same⟩), missed]
    rfl

theorem assign_of_visit {focus : Focus} (visited : container.visit hop = .ok focus) (child : Value) :
    container.assign hop child = .ok (focus.refill child) := by
  obtain ⟨place, old, selected, held, rfl⟩ := visit_eq_ok_iff.1 visited
  rw [refill_of_child? held]
  exact assign_of_accepts selected (accepts_of_child? held) child

theorem sameForm_of_assign (assigned : container.assign hop child = .ok updated) : container.SameForm updated := by
  obtain ⟨place, -, accepted, rfl⟩ := assign_eq_ok_iff.1 assigned
  exact sameForm_setChild accepted child

theorem get_of_assign_of_ne {other : Hop} (assigned : container.assign hop child = .ok updated)
    (differ : other.name ≠ hop.name) : updated.get other = container.get other := by
  obtain ⟨place, selected, -, rfl⟩ := assign_eq_ok_iff.1 assigned
  exact get_setChild_of_ne (Hop.name_of_select selected ▸ differ) container child

/-- A set that succeeds leaves what the assignment makes. -/
theorem exists_assign_of_set (succeeded : (container.set hop child).result = .ok ()) :
    ∃ updated, container.assign hop child = .ok updated ∧
      container.set hop child = { container := updated, result := .ok () } := by
  rw [set_eq] at succeeded ⊢
  cases assigned : container.assign hop child with
  | error failure => simp [assigned, Assigned.ofExcept] at succeeded
  | ok updated => exact ⟨updated, rfl, rfl⟩

theorem container_of_refused {failure : LookupFailure} (refused : (container.set hop child).result = .error failure) :
    (container.set hop child).container = container := by
  rw [set_eq] at refused ⊢
  cases assigned : container.assign hop child with
  | error cause => rfl
  | ok updated => simp [assigned, Assigned.ofExcept] at refused

/-- A store through one hop sets its child, and leaves and ends as that does. -/
theorem store_hop (container : Value) (hop : Hop) (child : Value) (context : Option MergeContext) :
    store container (.ofHops .target [hop]) (.present child) context =
      { data := (container.set hop child).container, result := (container.set hop child).result.mapError .lookup } := by
  rw [store_ofHops (List.cons_ne_nil hop []), List.map_cons, List.map_nil, writeThrough_singleton]
  rfl

theorem lawful (container : Value) (hop : Hop) : container.Lawful hop where
  found_iff child := by
    rw [get_eq]
    cases container.visit hop <;> simp [Except.map]
  missed_iff failure := by
    rw [get_eq]
    cases container.visit hop <;> simp [Except.map]
  entered _ visited := enter_of_visit visited
  barred _ missed := enter_of_missed missed
  replaced _ visited child := by
    rw [set_eq, assign_of_visit visited]
    rfl
  assigned child succeeded := by
    obtain ⟨updated, assigned, left⟩ := exists_assign_of_set succeeded
    rw [left]
    exact ⟨get_of_assign assigned, fun _ differ => get_of_assign_of_ne assigned differ, sameForm_of_assign assigned⟩
  refused child failure refused := by
    have alone := container_of_refused refused
    refine ⟨alone, fun context => ?_⟩
    rw [store_hop, alone, refused]
    rfl

/-- A container gives the same access after a child of it was set. -/
theorem isSome_items?_setChild (container : Value) (place : Selector) (child : Value) :
    (container.setChild place child).items?.isSome = container.items?.isSome := by
  cases container <;> cases place <;> rfl

theorem isSome_attributes?_setChild (container : Value) (place : Selector) (child : Value) :
    (container.setChild place child).attributes?.isSome = container.attributes?.isSome := by
  cases container <;> cases place <;> rfl

end Value

section Accesses

variable {Name : Type} {access : Access Name} {container : Value} {hop : Name → Hop} {name : Name}

theorem Access.Serves.get_hop (serves : access.Serves container hop) (name : Name) :
    access.get name = container.get (hop name) := by
  rw [serves.get_eq, serves.visit_eq, Value.get_eq]

theorem Access.Serves.set_hop (serves : access.Serves container hop) (name : Name) (child : Value) :
    access.set name child = container.set (hop name) child := by
  rw [serves.set_eq, Value.set_eq]

/-- An access that goes to the places of its hops is lawful, if a container gives such an access again after a child
of it was set. -/
theorem Access.Serves.lawful (serves : access.Serves container hop) {offered : Value → Option (Access Name)}
    {text : Name → String} (named : ∀ name, (hop name).name = text name)
    (offers : ∀ value after, offered value = some after → after.Serves value hop)
    (again : ∀ place child, (offered (container.setChild place child)).isSome = true) :
    access.Lawful container offered text where
  agrees name := by
    rw [serves.get_eq]
    cases access.visit name with
    | ok focus => exact .inl ⟨focus, rfl, rfl⟩
    | error failure => exact .inr ⟨failure, rfl, rfl⟩
  replaces name focus visited child := by
    rw [serves.visit_eq] at visited
    rw [serves.set_hop]
    exact (container.lawful (hop name)).replaced focus visited child
  sets name child succeeded := by
    rw [serves.set_hop] at succeeded ⊢
    obtain ⟨updated, assigned, left⟩ := exists_assign_of_set succeeded
    obtain ⟨place, -, -, rfl⟩ := assign_eq_ok_iff.1 assigned
    obtain ⟨after, given⟩ := Option.isSome_iff_exists.1 (again place child)
    have serving := offers _ after given
    rw [left]
    refine ⟨sameForm_of_assign assigned, after, given, ?_, fun other differ => ?_⟩
    · rw [serving.get_hop]
      exact get_of_assign assigned
    · rw [serving.get_hop, serves.get_hop]
      rw [← named, ← named] at differ
      exact get_of_assign_of_ne assigned differ
  refuses name child failure refused := by
    rw [serves.set_hop] at refused ⊢
    exact container_of_refused refused

theorem Value.lawful_of_items? {items : Access Key} (given : container.items? = some items) :
    items.Lawful container Value.items? Key.text := by
  refine (serves_of_items? given).lawful (fun _ => rfl) (fun _ _ => serves_of_items?) fun place child => ?_
  rw [isSome_items?_setChild, given]
  rfl

theorem Value.lawful_of_attributes? {attributes : Access String} (given : container.attributes? = some attributes) :
    attributes.Lawful container Value.attributes? id := by
  refine (serves_of_attributes? given).lawful (fun _ => rfl) (fun _ _ => serves_of_attributes?) fun place child => ?_
  rw [isSome_attributes?_setChild, given]
  rfl

end Accesses

/-- An assignment to an attribute: it is set, or it is visited and replaced. -/
inductive Assignment where
  | direct (name : String) (child : Value)
  | visiting (name : String) (child : Value)

/-- What an assignment leaves. -/
def Assignment.left (container : Value) (assignment : Assignment) : Value :=
  match container.attributes? with
  | none => container
  | some attributes =>
    match assignment with
    | direct name child => (attributes.set name child).container
    | visiting name child =>
      match attributes.visit name with
      | .ok focus => focus.refill child
      | .error _ => container

section Closed

variable {r after : Record} {name : String}

/-- Records that differ in nothing but the values of their fields. -/
structure Record.Alike (r after : Record) : Prop where
  typeName : after.typeName = r.typeName
  shape : after.shape = r.shape
  names : after.fields.map Prod.fst = r.fields.map Prod.fst

theorem Record.Alike.refl (r : Record) : r.Alike r := ⟨rfl, rfl, rfl⟩

theorem Record.Alike.trans {last : Record} (first : r.Alike after) (second : after.Alike last) : r.Alike last :=
  ⟨second.typeName.trans first.typeName, second.shape.trans first.shape, second.names.trans first.names⟩

/-- A record refuses a field if it is closed and lacks it, and for no other reason. -/
theorem Record.set_eq_error_iff {child : Value} {failure : LookupFailure} :
    (r.set name child).result = .error failure ↔
      r.shape = .closed ∧ r.field? name = none ∧ failure = .attributeNotFound r.typeName name := by
  rw [Record.set, Record.hasField]
  cases r.shape <;> cases r.field? name <;> simp [Record.missing, eq_comm]

/-- One assignment to a closed record gives values to fields that it has, or does nothing. -/
theorem Record.exists_alike_of_left (closed : r.shape = .closed) (assignment : Assignment) :
    ∃ after : Record, assignment.left r.toValue = after.toValue ∧ r.Alike after := by
  cases assignment with
  | direct name child =>
    have leaves : (Assignment.direct name child).left r.toValue = (r.set name child).container := rfl
    rw [leaves, Record.set, closed]
    cases held : r.fields.lookup name with
    | none => exact ⟨r, by simp [Record.hasField, Record.field?, held], .refl r⟩
    | some old =>
      refine ⟨r.withField name child, by simp [Record.hasField, Record.field?, held], rfl, rfl, ?_⟩
      exact Entries.map_fst_insert_of_lookup held child
  | visiting name child =>
    have leaves : (Assignment.visiting name child).left r.toValue =
      match r.visit name with
      | .ok focus => focus.refill child
      | .error _ => r.toValue := rfl
    rw [leaves, Record.visit]
    cases r.fields.lookup name with
    | none => exact ⟨r, rfl, .refl r⟩
    | some old =>
      exact ⟨{ r with fields := Entries.replace name child r.fields }, rfl, rfl, rfl, Entries.map_fst_replace ..⟩

/-- Assignments one after the other leave a closed record with the names that it had. -/
theorem Record.exists_alike_of_assignments (closed : r.shape = .closed) (assignments : List Assignment) :
    ∃ after : Record, assignments.foldl Assignment.left r.toValue = after.toValue ∧ r.Alike after := by
  induction assignments generalizing r with
  | nil => exact ⟨r, rfl, .refl r⟩
  | cons assignment rest ih =>
    obtain ⟨next, leaves, alike⟩ := r.exists_alike_of_left closed assignment
    obtain ⟨after, ends, also⟩ := ih (alike.shape.trans closed)
    rw [List.foldl_cons, leaves]
    exact ⟨after, ends, alike.trans also⟩

end Closed

/-- An access obeys one set of laws wherever it is given, to items by key or to attributes by name: a child is got where
it is visited, what replaces it there is what is set under its name, what was set is got while all other names get what
they got before, and a container that refuses a child is left alone. Through it go the hops of all loads and stores, so
that they obey these laws too. Only a closed record refuses a field, one that it lacks, and no assignments to it, made
in either way, change its type name, its shape or the names of its fields. -/
theorem access_laws :
    (∀ (container : Value) (items : Access Key), container.items? = some items →
      items.Lawful container Value.items? Key.text ∧ items.Serves container .item) ∧
    (∀ (container : Value) (attributes : Access String), container.attributes? = some attributes →
      attributes.Lawful container Value.attributes? id ∧ attributes.Serves container .attr) ∧
    (∀ (container : Value) (hop : Hop),
      container.get hop = (container.visit hop).map Focus.child ∧
        (∀ child, container.set hop child = .ofExcept container (container.assign hop child)) ∧
        container.Lawful hop) ∧
    (∀ (r : Record) (name : String) (child : Value) (failure : LookupFailure),
      (r.set name child).result = .error failure ↔
        r.shape = .closed ∧ r.field? name = none ∧ failure = .attributeNotFound r.typeName name) ∧
    ∀ (r : Record) (assignments : List Assignment), r.shape = .closed →
      ∃ after : Record, assignments.foldl Assignment.left r.toValue = after.toValue ∧ r.Alike after :=
  ⟨fun _ _ given => ⟨lawful_of_items? given, serves_of_items? given⟩,
    fun _ _ given => ⟨lawful_of_attributes? given, serves_of_attributes? given⟩,
    fun container hop => ⟨container.get_eq hop, container.set_eq hop, container.lawful hop⟩,
    fun _ _ _ _ => Record.set_eq_error_iff,
    fun _ assignments closed => Record.exists_alike_of_assignments closed assignments⟩

/-- A number is written as a name, and one beyond the end is refused. In a closed record the assignments to fields that
it has are made, and the others are not. -/
theorem access_laws_beyond_end :
    let items := Sequence.access [.null, .null]
    let container : Value := .sequence [.null, .null]
    let updated : Value := .sequence [.null, .bool true]
    let assignments : List Assignment :=
      [.direct "port" (.integer 1), .direct "user" .null, .visiting "user" .null, .visiting "host" (.string "db")]
    let server : Record := { typeName := "Server", shape := .closed, fields := [("host", .null), ("port", .null)] }
    container.items? = some items ∧
      items.set (.name "1") (.bool true) = { container := updated, result := .ok () } ∧
      (∃ after, updated.items? = some after ∧ after.get (.index 1) = .ok (.bool true) ∧
        after.get (.name "01") = items.get (.name "01")) ∧
      (items.set (.name "2") .null).result = .error (.indexOutOfRange 2 2) ∧
      (items.set (.name "2") .null).container = container ∧
      (server.set "user" .null).result = .error (.attributeNotFound "Server" "user") ∧
      ∃ after : Record, assignments.foldl Assignment.left server.toValue = after.toValue ∧ server.Alike after := by
  intro items container updated assignments server
  obtain ⟨itemLaws, -, -, refuses, keeps⟩ := access_laws
  have given : container.items? = some items := rfl
  obtain ⟨lawful, -⟩ := itemLaws container items given
  have assigned : items.set (.name "1") (.bool true) = { container := updated, result := .ok () } := rfl
  have beyond : (items.set (.name "2") .null).result = .error (.indexOutOfRange 2 2) := rfl
  obtain ⟨-, after, offered, -, apart⟩ := lawful.sets (.name "1") (.bool true) rfl
  obtain ⟨-, same, also, found, -⟩ := lawful.sets (.index 1) (.bool true) rfl
  obtain rfl := Option.some.inj (offered.symm.trans also)
  exact ⟨given, assigned, ⟨after, offered, found, apart (.name "01") (by decide)⟩, beyond,
    lawful.refuses _ _ _ beyond, (refuses ..).2 ⟨rfl, rfl, rfl⟩, keeps server assignments rfl⟩

end DataLocator
