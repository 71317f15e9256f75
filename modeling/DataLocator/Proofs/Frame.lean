import DataLocator.Proofs.Steps

/-! # The frame of a store

A chain of hops resolves to one address, and a store that succeeds writes there and nowhere else. `Written` says what
the data is then: on the way to the address each node keeps its place with one child set in it, and below the first
key that a mapping lacks there are new mappings with one key each. From it follow that all addresses apart from the
written one hold what they held (`Written.at?_of_apart`), and what becomes of the nodes above it
(`Written.traversed`, `Written.at?_of_at?_eq_none`).
-/

namespace DataLocator

namespace Value

/-- The address that a chain of hops resolves to. Where a hop finds nothing the next one meets an empty mapping. -/
def address? : Value → List Hop → Option Address
  | _, [] => some []
  | node, hop :: rest =>
    match node.select .itemAccess hop with
    | .ok place => (((node.child? place).getD emptyMapping).address? rest).map (place :: ·)
    | .error _ => none

/-- Containers of one kind: two mappings, two sequences of one length, or two records of one type name and shape. -/
def SameForm : Value → Value → Prop
  | mapping _, mapping _ => True
  | sequence items, sequence others => items.length = others.length
  | record name shape _, record other otherShape _ => name = other ∧ shape = otherShape
  | _, _ => False

/-- What becomes of a node that a store passes on its way through `place` and then `back`. Its children are those that
it had and the next one; a new one is taken by a mapping, and by an extensible record if it is the last. -/
structure Traversed (place : Selector) (back : Address) (before after : Value) : Prop where
  sameForm : before.SameForm after
  children : ∀ other, (after.child? other).isSome ↔ (before.child? other).isSome ∨ other = place
  gains : before.child? place = none →
    (∃ entries, before = mapping entries) ∨ (back = [] ∧ ∃ name fields, before = record name .extensible fields)

theorem address?_cons {node : Value} {hop : Hop} {place : Selector}
    (selected : node.select .itemAccess hop = .ok place) (rest : List Hop) :
    node.address? (hop :: rest) = (((node.child? place).getD emptyMapping).address? rest).map (place :: ·) := by
  simp only [address?, selected]

theorem child?_emptyMapping (place : Selector) : emptyMapping.child? place = none := by
  cases place <;> rfl

theorem at?_emptyMapping {address : Address} (nonempty : address ≠ []) : emptyMapping.at? address = none := by
  obtain ⟨place, rest, rfl⟩ := List.exists_cons_of_ne_nil nonempty
  rw [at?_cons, child?_emptyMapping, Option.bind_none]

theorem sameForm_setChild {container : Value} {place : Selector} (accepted : container.accepts place = true)
    (child : Value) : container.SameForm (container.setChild place child) := by
  cases container <;> cases place <;> simp_all [accepts, SameForm, setChild]

theorem isSome_child?_setChild {container : Value} {place : Selector} (accepted : container.accepts place = true)
    (child : Value) (other : Selector) :
    ((container.setChild place child).child? other).isSome ↔ (container.child? other).isSome ∨ other = place := by
  by_cases same : other = place
  · subst same
    simp [child?_setChild_self child accepted]
  · simp [child?_setChild_of_ne same, same]

theorem traversed_setChild {container : Value} {place : Selector} {back : Address}
    (accepted : container.accepts place = true) (child : Value)
    (gains : container.child? place = none →
      (∃ entries, container = mapping entries) ∨
        (back = [] ∧ ∃ name fields, container = record name .extensible fields)) :
    Traversed place back container (container.setChild place child) :=
  ⟨sameForm_setChild accepted child, isSome_child?_setChild accepted child, gains⟩

end Value

open Value

/-- The data that is left when a value is written at an address: below a key that a mapping lacks all is new. -/
inductive Written (value : Value) : Value → Address → Value → Prop
  | last {container : Value} {place : Selector} (accepted : container.accepts place = true) :
      Written value container [place] (container.setChild place value)
  | found {container child left : Value} {place : Selector} {rest : Address}
      (held : container.child? place = some child) (below : Written value child rest left) :
      Written value container (place :: rest) (container.setChild place left)
  | made {entries : List (String × Value)} {left : Value} {name : String} {rest : Address}
      (missing : entries.lookup name = none) (below : Written value emptyMapping rest left) :
      Written value (mapping entries) (.key name :: rest) (mapping (Entries.insert name left entries))

/-- A store through hops that succeeds writes at the address that the hops resolve to. -/
theorem written_of_succeeded {data value : Value} {hops : List Hop} {context : Option MergeContext}
    (succeeded : (writeThrough context (.present value) (hops.map Step.go) data).result = .ok ()) :
    ∃ address, data.address? hops = some address ∧
      Written value data address (writeThrough context (.present value) (hops.map Step.go) data).data := by
  induction hops generalizing data with
  | nil => simp [writeThrough] at succeeded
  | cons hop rest ih =>
    cases rest with
    | nil =>
      rw [List.map_cons, List.map_nil, writeThrough_singleton] at succeeded ⊢
      cases assigned : data.assign hop value with
      | error failure => simp [write_go, assigned] at succeeded
      | ok updated =>
        obtain ⟨place, selected, accepted, rfl⟩ := assign_eq_ok_iff.1 assigned
        refine ⟨[place], address?_cons selected [], ?_⟩
        simp only [write_go, assigned]
        exact .last accepted
    | cons next rest =>
      have more : (next :: rest).map Step.go ≠ [] := List.cons_ne_nil _ _
      obtain ⟨descent, entry, succeeded, left⟩ := exists_entry_of_succeeded more succeeded
      obtain ⟨address, resolved, written⟩ := ih succeeded
      rw [List.map_cons, left]
      cases entry with
      | @found _ child _ place selected held =>
        have resolves : child.address? (next :: rest) = some address := resolved
        refine ⟨place :: address, ?_, ?_⟩
        · rw [address?_cons selected, held, Option.getD_some, resolves, Option.map_some]
        · rw [refill_of_child? held]
          exact .found held written
      | @made entries _ name asked missing =>
        have selected : (mapping entries).select .itemAccess hop = .ok (.key name) :=
          select_mapping_eq_ok_iff.2 ⟨name, asked, rfl⟩
        have lacks : (mapping entries).child? (.key name) = none := missing
        have resolves : emptyMapping.address? (next :: rest) = some address := resolved
        refine ⟨.key name :: address, ?_, ?_⟩
        · rw [address?_cons selected, lacks, Option.getD_none, resolves, Option.map_some]
        · rw [refill_made]
          exact .made missing written

namespace Written

variable {value data left : Value} {address : Address}

/-- The value is at the written address. -/
theorem at?_self (written : Written value data address left) : left.at? address = some value := by
  induction written with
  | last accepted => rw [at?_cons, child?_setChild_self value accepted]; rfl
  | found held _ ih => rw [at?_cons, child?_setChild_self _ (accepts_of_child? held)]; exact ih
  | @made entries below name rest missing _ ih =>
    have set : (mapping (Entries.insert name below entries)).child? (.key name) = some below :=
      Entries.lookup_insert_self ..
    rw [at?_cons, set]
    exact ih

/-- An address apart from the written one holds what it held. -/
theorem at?_of_apart (written : Written value data address left) {other : Address}
    (notAbove : ¬ other <+: address) (notBelow : ¬ address <+: other) : left.at? other = data.at? other := by
  induction written generalizing other with
  | @last container place accepted =>
    cases other with
    | nil => exact absurd List.nil_prefix notAbove
    | cons head tail =>
      have ne : head ≠ place := by
        rintro rfl
        exact notBelow (List.cons_prefix_cons.2 ⟨rfl, List.nil_prefix⟩)
      rw [at?_cons, at?_cons, child?_setChild_of_ne ne]
  | @found container child left place rest held _ ih =>
    cases other with
    | nil => exact absurd List.nil_prefix notAbove
    | cons head tail =>
      rw [at?_cons, at?_cons]
      by_cases same : head = place
      · subst same
        rw [child?_setChild_self _ (accepts_of_child? held), held]
        refine ih ?_ ?_
        · exact fun above => notAbove (List.cons_prefix_cons.2 ⟨rfl, above⟩)
        · exact fun below => notBelow (List.cons_prefix_cons.2 ⟨rfl, below⟩)
      · rw [child?_setChild_of_ne same]
  | @made entries left name rest missing _ ih =>
    cases other with
    | nil => exact absurd List.nil_prefix notAbove
    | cons head tail =>
      change ((mapping entries).setChild (.key name) left).at? _ = _
      rw [at?_cons, at?_cons]
      by_cases same : head = .key name
      · subst same
        have lacks : (mapping entries).child? (.key name) = none := missing
        have apart : tail ≠ [] := by
          rintro rfl
          exact notAbove (List.cons_prefix_cons.2 ⟨rfl, List.nil_prefix⟩)
        rw [child?_setChild_self left rfl, lacks, Option.bind_none, Option.bind_some, ← at?_emptyMapping apart]
        refine ih ?_ ?_
        · exact fun above => notAbove (List.cons_prefix_cons.2 ⟨rfl, above⟩)
        · exact fun below => notBelow (List.cons_prefix_cons.2 ⟨rfl, below⟩)
      · rw [child?_setChild_of_ne same]

/-- A value that is written below an empty mapping makes it a mapping with one key. -/
theorem eq_singleton {place : Selector} {rest : Address} (written : Written value emptyMapping (place :: rest) left) :
    ∃ name child, place = .key name ∧ left = mapping [(name, child)] := by
  generalize empty : emptyMapping = data at written
  generalize whole : place :: rest = address at written
  cases written with
  | @last _ other accepted =>
    obtain ⟨rfl, -⟩ := List.cons.inj whole
    subst empty
    cases place with
    | key name => exact ⟨name, value, rfl, rfl⟩
    | _ => simp [accepts, emptyMapping] at accepted
  | found held _ =>
    subst empty
    rw [child?_emptyMapping] at held
    contradiction
  | @made entries child name _ _ _ =>
    obtain ⟨rfl, -⟩ := List.cons.inj whole
    obtain rfl : [] = entries := by simpa [emptyMapping] using empty
    exact ⟨name, child, rfl, rfl⟩

/-- A node above the written address is passed on the way. -/
theorem traversed (written : Written value data address left) {front back : Address} {place : Selector} {node : Value}
    (above : address = front ++ place :: back) (there : data.at? front = some node) :
    ∃ after, left.at? front = some after ∧ Traversed place back node after := by
  induction written generalizing front with
  | @last container other accepted =>
    obtain ⟨rfl, same⟩ := List.append_eq_singleton_iff.1 above.symm |>.resolve_right (by simp)
    obtain ⟨rfl, rfl⟩ := List.cons.inj same
    obtain rfl : container = node := Option.some.inj there
    refine ⟨_, rfl, traversed_setChild accepted value fun missing => ?_⟩
    exact (gains_of_accepts accepted missing).imp id fun extensible => ⟨rfl, extensible⟩
  | @found container child left other rest held _ ih =>
    cases front with
    | nil =>
      obtain ⟨rfl, rfl⟩ := List.cons.inj above
      obtain rfl : container = node := Option.some.inj there
      refine ⟨_, rfl, traversed_setChild (accepts_of_child? held) left fun missing => ?_⟩
      rw [held] at missing
      contradiction
    | cons head front =>
      obtain ⟨rfl, inner⟩ := List.cons.inj above
      rw [at?_cons, held] at there
      rw [at?_cons, child?_setChild_self left (accepts_of_child? held)]
      exact ih inner there
  | @made entries left name rest missing _ _ =>
    cases front with
    | nil =>
      obtain ⟨rfl, rfl⟩ := List.cons.inj above
      obtain rfl : mapping entries = node := Option.some.inj there
      exact ⟨_, rfl, traversed_setChild rfl left fun _ => .inl ⟨entries, rfl⟩⟩
    | cons head front =>
      obtain ⟨rfl, -⟩ := List.cons.inj above
      have lacks : (mapping entries).child? (.key name) = none := missing
      rw [at?_cons, lacks] at there
      contradiction

/-- Above the written address, what was not there is now a mapping with one key. -/
theorem at?_of_at?_eq_none (written : Written value data address left) {front back : Address} {place : Selector}
    (above : address = front ++ place :: back) (nowhere : data.at? front = none) :
    ∃ name child, place = .key name ∧ left.at? front = some (mapping [(name, child)]) := by
  induction written generalizing front with
  | last accepted =>
    obtain ⟨rfl, -⟩ := List.append_eq_singleton_iff.1 above.symm |>.resolve_right (by simp)
    contradiction
  | @found container child left other rest held _ ih =>
    cases front with
    | nil => contradiction
    | cons head front =>
      obtain ⟨rfl, inner⟩ := List.cons.inj above
      rw [at?_cons, held] at nowhere
      rw [at?_cons, child?_setChild_self left (accepts_of_child? held)]
      exact ih inner nowhere
  | @made entries left name rest missing below ih =>
    cases front with
    | nil => contradiction
    | cons head front =>
      obtain ⟨rfl, rfl⟩ := List.cons.inj above
      change ∃ _ _, _ ∧ ((mapping entries).setChild (.key name) left).at? (.key name :: front) = _
      rw [at?_cons, child?_setChild_self left rfl, Option.bind_some]
      cases front with
      | nil =>
        obtain ⟨other, child, rfl, rfl⟩ := below.eq_singleton
        exact ⟨other, child, rfl, rfl⟩
      | cons next front => exact ih rfl (at?_emptyMapping (List.cons_ne_nil _ _))

end Written

/-- A store through hops that succeeds writes its value at the address that they resolve to. It changes nothing at an
address that is neither above nor below, and above it gives each node one child at the most: the next on the way. -/
theorem store_frame {data value : Value} {hops : List Hop} {context : Option MergeContext}
    (stored : (store data (.ofHops .target hops) (.present value) context).result = .ok ()) :
    let left := (store data (.ofHops .target hops) (.present value) context).data
    ∃ address, data.address? hops = some address ∧ left.at? address = some value ∧
      (∀ other, ¬ address <+: other → ¬ other <+: address → left.at? other = data.at? other) ∧
      ∀ front place back, address = front ++ place :: back →
        (∀ node, data.at? front = some node →
          ∃ after, left.at? front = some after ∧ Traversed place back node after) ∧
        (data.at? front = none →
          ∃ name child, place = .key name ∧ left.at? front = some (.mapping [(name, child)])) := by
  intro left
  have nonempty : hops ≠ [] := by
    rintro rfl
    simp [store, Locator.storeObjection?, Locator.expect, Locator.ofHops] at stored
  have same : left = (writeThrough context (.present value) (hops.map Step.go) data).data :=
    congrArg Outcome.data (store_ofHops nonempty data value)
  rw [store_ofHops nonempty] at stored
  obtain ⟨address, resolved, written⟩ := written_of_succeeded stored
  rw [← same] at written
  refine ⟨address, resolved, written.at?_self, fun other notBelow notAbove => ?_, ?_⟩
  · exact written.at?_of_apart notAbove notBelow
  · intro front place back above
    exact ⟨fun node there => written.traversed above there, written.at?_of_at?_eq_none above⟩

/-- A store below a key that is not there yet writes below new mappings and leaves the record beside them alone. -/
theorem store_frame_beside :
    let data : Value := .mapping [("a", .null), ("b", .record "Server" .closed [("host", .null)])]
    let hops : List Hop := [.segment "c", .item (.index 7), .segment "port"]
    let left := (store data (.ofHops .target hops) (.present (.bool true)) none).data
    (store data (.ofHops .target hops) (.present (.bool true)) none).result = .ok () ∧
      left.at? [.key "c", .key "7", .key "port"] = some (.bool true) ∧ left.at? [.key "b"] = data.at? [.key "b"] := by
  intro data hops left
  have stored : (store data (.ofHops .target hops) (.present (.bool true)) none).result = .ok () := rfl
  have resolves : data.address? hops = some [.key "c", .key "7", .key "port"] := rfl
  obtain ⟨address, resolved, holds, apart, -⟩ := store_frame stored
  obtain rfl := Option.some.inj (resolves.symm.trans resolved)
  exact ⟨stored, holds, apart [.key "b"] (by decide) (by decide)⟩

end DataLocator
