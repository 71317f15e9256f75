import DataLocator.Proofs.Steps

/-! # What a store through hops leaves

`put` is a store through hops that cannot fail: it makes what is missing, and stops where a hop has no slot. `Takes` says
of which chains a store goes all the way, so that a store succeeds exactly if the data takes its hops
(`store_ofHops_eq_ok_iff`), and then leaves what `put` gives (`store_ofHops_data`). Since `put` is total, its laws need no
success: a value is found where it was put (`walk_put`), the second of two values at one place counts (`put_put`), and a
value hides every difference that was below its place or on the way to it (`put_congr`).
-/

namespace DataLocator

namespace Value

/-- The selector that a hop means in a node, where the node takes a child there. -/
def slot? (node : Value) (hop : Hop) : Option Selector :=
  match node.select .itemAccess hop with
  | .ok place => if node.accepts place then some place else none
  | .error _ => none

/-- The child at a place, and an empty mapping where there is none. -/
def childOrEmpty (node : Value) (place : Selector) : Value := (node.child? place).getD emptyMapping

/-- The data with a value at the end of a chain of hops. What is not there on the way is an empty mapping, and a hop
without a slot leaves its node as it is. -/
def put (node : Value) (hops : List Hop) (value : Value) : Value :=
  match hops with
  | [] => value
  | hop :: rest =>
    match node.slot? hop with
    | some place => node.setChild place ((node.childOrEmpty place).put rest value)
    | none => node

/-- Each hop of the chain has a slot, and what is not there on the way can be made. -/
def Takes (node : Value) (hops : List Hop) : Prop :=
  match hops with
  | [] => True
  | hop :: rest =>
    ∃ place, node.slot? hop = some place ∧
      (node.child? place = none → rest ≠ [] → ∃ entries, node = mapping entries) ∧ (node.childOrEmpty place).Takes rest

section Slot

variable {node child : Value} {hop : Hop} {place : Selector}

theorem slot?_eq_some_iff :
    node.slot? hop = some place ↔ node.select .itemAccess hop = .ok place ∧ node.accepts place = true := by
  unfold slot?
  cases node.select .itemAccess hop with
  | error failure => simp
  | ok other =>
    by_cases accepted : node.accepts other = true
    · simp only [accepted, ↓reduceIte, Option.some.injEq, Except.ok.injEq]
      constructor
      · rintro rfl
        exact ⟨rfl, accepted⟩
      · exact And.left
    · simp only [accepted, Bool.false_eq_true, ↓reduceIte, reduceCtorEq, Except.ok.injEq, false_iff]
      rintro ⟨rfl, also⟩
      exact accepted also

theorem childOrEmpty_of_child? (held : node.child? place = some child) : node.childOrEmpty place = child := by
  rw [childOrEmpty, held, Option.getD_some]

theorem childOrEmpty_of_missing (missing : node.child? place = none) : node.childOrEmpty place = emptyMapping := by
  rw [childOrEmpty, missing, Option.getD_none]

/-- A node that has a child set in one of its places has the places that it had. -/
theorem accepts_setChild (accepted : node.accepts place = true) (child : Value) (other : Selector) :
    (node.setChild place child).accepts other = node.accepts other := by
  cases node with
  | record name shape fields =>
    cases place with
    | field new =>
      cases other with
      | field old =>
        by_cases same : old = new
        · subst same
          simpa [accepts, setChild] using accepted.symm
        · simp [accepts, setChild, Entries.lookup_insert_of_ne same]
      | _ => rfl
    | _ => simp [accepts] at accepted
  | _ => cases place <;> cases other <;> simp [accepts, setChild]

theorem slot?_setChild (accepted : node.accepts place = true) (child : Value) (hop : Hop) :
    (node.setChild place child).slot? hop = node.slot? hop := by
  unfold slot?
  rw [select_setChild]
  cases node.select .itemAccess hop with
  | error failure => rfl
  | ok other => simp only [accepts_setChild accepted]

theorem childOrEmpty_setChild_self (accepted : node.accepts place = true) (child : Value) :
    (node.setChild place child).childOrEmpty place = child :=
  childOrEmpty_of_child? (child?_setChild_self child accepted)

theorem childOrEmpty_setChild_of_ne {other : Selector} (ne : other ≠ place) (node child : Value) :
    (node.setChild place child).childOrEmpty other = node.childOrEmpty other := by
  rw [childOrEmpty, child?_setChild_of_ne ne, childOrEmpty]

theorem put_cons_of_slot (slot : node.slot? hop = some place) (rest : List Hop) (value : Value) :
    node.put (hop :: rest) value = node.setChild place ((node.childOrEmpty place).put rest value) := by
  simp only [put, slot]

theorem put_cons_of_none (none : node.slot? hop = none) (rest : List Hop) (value : Value) :
    node.put (hop :: rest) value = node := by
  simp only [put, none]

end Slot

end Value

open Value

section Store

variable {node data value : Value} {hop : Hop} {hops : List Hop} {place : Selector} {context : Option MergeContext}

/-- A hop that a store goes into has a slot, and the child there is put back into it. -/
theorem Entry.slot {descent : Descent} (entry : Entry node (.go hop) descent) :
    ∃ place, node.slot? hop = some place ∧ (node.child? place = none → ∃ entries, node = mapping entries) ∧
      descent.focus.child = node.childOrEmpty place ∧
        ∀ below, descent.focus.refill below = node.setChild place below := by
  cases entry with
  | @found _ _ _ place selected held =>
    refine ⟨place, slot?_eq_some_iff.2 ⟨selected, accepts_of_child? held⟩, fun missing => ?_, ?_, refill_of_child? held⟩
    · rw [held] at missing
      contradiction
    · exact (childOrEmpty_of_child? held).symm
  | @made entries _ name asked missing =>
    have selected : (mapping entries).select .itemAccess hop = .ok (.key name) :=
      select_mapping_eq_ok_iff.2 ⟨name, asked, rfl⟩
    have lacks : (mapping entries).child? (.key name) = none := missing
    refine ⟨.key name, slot?_eq_some_iff.2 ⟨selected, rfl⟩, fun _ => ⟨entries, rfl⟩, ?_, refill_made name entries⟩
    exact (childOrEmpty_of_missing lacks).symm

/-- A slot is gone into if there is a child in it or if one can be made. -/
theorem exists_entry_of_slot (slot : node.slot? hop = some place)
    (makes : node.child? place = none → ∃ entries, node = mapping entries) :
    ∃ descent, Entry node (.go hop) descent := by
  obtain ⟨selected, -⟩ := slot?_eq_some_iff.1 slot
  cases held : node.child? place with
  | some child => exact ⟨_, .found selected held⟩
  | none =>
    obtain ⟨entries, rfl⟩ := makes held
    obtain ⟨name, asked, rfl⟩ := select_mapping_eq_ok_iff.1 selected
    exact ⟨_, .made asked held⟩

theorem takes_cons_iff (slot : node.slot? hop = some place) (rest : List Hop) :
    node.Takes (hop :: rest) ↔
      (node.child? place = none → rest ≠ [] → ∃ entries, node = mapping entries) ∧
        (node.childOrEmpty place).Takes rest := by
  simp [Takes, slot]

/-- A store through hops that succeeds puts its value at their end. -/
theorem put_of_succeeded
    (succeeded : (writeThrough context (.present value) (hops.map Step.go) data).result = .ok ()) :
    data.Takes hops ∧ (writeThrough context (.present value) (hops.map Step.go) data).data = data.put hops value := by
  induction hops generalizing data with
  | nil => simp [writeThrough] at succeeded
  | cons hop rest ih =>
    by_cases last : rest = []
    · subst last
      rw [List.map_cons, List.map_nil, writeThrough_singleton] at succeeded ⊢
      cases assigned : data.assign hop value with
      | error failure => simp [write_go, assigned] at succeeded
      | ok updated =>
        obtain ⟨place, selected, accepted, rfl⟩ := assign_eq_ok_iff.1 assigned
        have slot := slot?_eq_some_iff.2 ⟨selected, accepted⟩
        refine ⟨⟨place, slot, fun _ more => absurd rfl more, trivial⟩, ?_⟩
        rw [put_cons_of_slot slot]
        simp only [write_go, assigned]
        rfl
    · have more : rest.map Step.go ≠ [] := by simpa using last
      obtain ⟨descent, entry, below, left⟩ := exists_entry_of_succeeded more succeeded
      obtain ⟨place, slot, makes, child, refills⟩ := entry.slot
      obtain ⟨takes, puts⟩ := ih below
      rw [child] at takes puts
      refine ⟨⟨place, slot, fun missing _ => makes missing, takes⟩, ?_⟩
      rw [List.map_cons, left, refills, child, puts, put_cons_of_slot slot]

/-- A store through hops that the data takes succeeds. -/
theorem succeeded_of_takes (nonempty : hops ≠ []) (takes : data.Takes hops) :
    (writeThrough context (.present value) (hops.map Step.go) data).result = .ok () := by
  induction hops generalizing data with
  | nil => exact absurd rfl nonempty
  | cons hop rest ih =>
    obtain ⟨place, slot, makes, below⟩ := takes
    by_cases last : rest = []
    · subst last
      obtain ⟨selected, accepted⟩ := slot?_eq_some_iff.1 slot
      have assigned := assign_of_accepts selected accepted value
      rw [List.map_cons, List.map_nil, writeThrough_singleton]
      simp only [write_go, assigned]
    · have more : rest.map Step.go ≠ [] := by simpa using last
      obtain ⟨descent, entry⟩ := exists_entry_of_slot slot fun missing => makes missing last
      obtain ⟨other, also, -, child, -⟩ := entry.slot
      obtain rfl : place = other := Option.some.inj (slot.symm.trans also)
      rw [← child] at below
      rw [List.map_cons, writeThrough_of_entered more entry.enter]
      exact ih last below

theorem store_ofHops_eq_ok_iff :
    (store data (.ofHops .target hops) (.present value) context).result = .ok () ↔ hops ≠ [] ∧ data.Takes hops := by
  constructor
  · intro stored
    have nonempty : hops ≠ [] := by
      rintro rfl
      simp [store, Locator.storeObjection?, Locator.expect, Locator.ofHops] at stored
    rw [store_ofHops nonempty] at stored
    exact ⟨nonempty, (put_of_succeeded stored).1⟩
  · rintro ⟨nonempty, takes⟩
    rw [store_ofHops nonempty]
    exact succeeded_of_takes nonempty takes

theorem store_ofHops_data (stored : (store data (.ofHops .target hops) (.present value) context).result = .ok ()) :
    (store data (.ofHops .target hops) (.present value) context).data = data.put hops value := by
  have nonempty := (store_ofHops_eq_ok_iff.1 stored).1
  rw [store_ofHops nonempty] at stored ⊢
  exact (put_of_succeeded stored).2

end Store

namespace Value

variable {node data value : Value} {hop : Hop} {hops rest : List Hop} {place other : Selector}

/-- What was put at the end of hops is found there. -/
theorem walk_put (takes : data.Takes hops) (value : Value) : (data.put hops value).walk hops = .ok value := by
  induction hops generalizing data with
  | nil => rfl
  | cons hop rest ih =>
    obtain ⟨place, slot, -, below⟩ := takes
    obtain ⟨selected, accepted⟩ := slot?_eq_some_iff.1 slot
    rw [put_cons_of_slot slot, walk_cons_of_ok (get_setChild selected accepted _)]
    exact ih below

/-- A walk that finds something goes through slots that hold what it passes. -/
theorem slot_of_walk (walked : data.walk (hop :: rest) = .ok value) :
    ∃ place child, data.slot? hop = some place ∧ data.child? place = some child ∧ child.walk rest = .ok value := by
  cases reads : data.get hop with
  | error failure =>
    rw [walk_cons_of_error reads] at walked
    contradiction
  | ok child =>
    rw [walk_cons_of_ok reads] at walked
    obtain ⟨place, selected, held⟩ := get_eq_ok_iff.1 reads
    exact ⟨place, child, slot?_eq_some_iff.2 ⟨selected, accepts_of_child? held⟩, held, walked⟩

/-- A place where something is found takes another value. -/
theorem takes_of_walk (walked : data.walk hops = .ok value) : data.Takes hops := by
  induction hops generalizing data with
  | nil => trivial
  | cons hop rest ih =>
    obtain ⟨place, child, slot, held, found⟩ := slot_of_walk walked
    refine ⟨place, slot, fun missing => absurd (held.symm.trans missing) (Option.some_ne_none child), ?_⟩
    rw [childOrEmpty_of_child? held]
    exact ih found

/-- What is found at the end of hops changes nothing when it is put there. -/
theorem put_of_walk (walked : data.walk hops = .ok value) : data.put hops value = data := by
  induction hops generalizing data with
  | nil => exact (Except.ok.inj walked).symm
  | cons hop rest ih =>
    obtain ⟨place, child, slot, held, found⟩ := slot_of_walk walked
    rw [put_cons_of_slot slot, childOrEmpty_of_child? held, ih found, setChild_of_child? held]

/-- A value that is put through a child that was just set goes into that child. -/
theorem put_setChild_self (slot : node.slot? hop = some place) (child : Value) (rest : List Hop) (value : Value) :
    (node.setChild place child).put (hop :: rest) value = node.setChild place (child.put rest value) := by
  obtain ⟨-, accepted⟩ := slot?_eq_some_iff.1 slot
  have again := (slot?_setChild accepted child hop).trans slot
  rw [put_cons_of_slot again, childOrEmpty_setChild_self accepted, setChild_setChild]

/-- A value that is put through one place leaves a child that is set in another. -/
theorem put_setChild_of_ne (slot : node.slot? hop = some place) (accepted : node.accepts other = true)
    (ne : place ≠ other) (child : Value) (rest : List Hop) (value : Value) :
    (node.setChild other child).put (hop :: rest) value = (node.put (hop :: rest) value).setChild other child := by
  have again := (slot?_setChild accepted child hop).trans slot
  rw [put_cons_of_slot again, put_cons_of_slot slot, childOrEmpty_setChild_of_ne ne, setChild_comm ne]

/-- Of two values put at one place the second counts. -/
theorem put_put (data : Value) (hops : List Hop) (value old : Value) :
    (data.put hops old).put hops value = data.put hops value := by
  induction hops generalizing data with
  | nil => rfl
  | cons hop rest ih =>
    cases slot : data.slot? hop with
    | none => rw [put_cons_of_none slot, put_cons_of_none slot]
    | some place => rw [put_cons_of_slot slot, put_cons_of_slot slot, put_setChild_self slot, ih]

/-- A value that is put through a hop leaves the slots of the node. -/
theorem slot?_put_cons (node : Value) (hop : Hop) (rest : List Hop) (value : Value) (next : Hop) :
    (node.put (hop :: rest) value).slot? next = node.slot? next := by
  cases slot : node.slot? hop with
  | none => rw [put_cons_of_none slot]
  | some place => rw [put_cons_of_slot slot, slot?_setChild (slot?_eq_some_iff.1 slot).2]

/-- Two nodes that a value below one place makes the same differ in that place alone, and the value makes the children
there the same. -/
theorem agree_of_put_cons {first second : Value} (slot : first.slot? hop = some place)
    (also : second.slot? hop = some place) (same : first.put (hop :: rest) value = second.put (hop :: rest) value) :
    (∀ child, first.setChild place child = second.setChild place child) ∧
      (first.childOrEmpty place).put rest value = (second.childOrEmpty place).put rest value := by
  rw [put_cons_of_slot slot, put_cons_of_slot also] at same
  constructor
  · intro child
    have again := congrArg (Value.setChild · place child) same
    simpa only [setChild_setChild] using again
  · have children := congrArg (Value.childOrEmpty · place) same
    simpa only [childOrEmpty_setChild_self (slot?_eq_some_iff.1 slot).2,
      childOrEmpty_setChild_self (slot?_eq_some_iff.1 also).2] using children

/-- Two trees that a value makes the same are also made the same by it after another was put into both. -/
theorem put_congr {first second : Value} (same : first.put hops value = second.put hops value)
    (others : List Hop) (extra : Value) :
    (first.put others extra).put hops value = (second.put others extra).put hops value := by
  induction hops generalizing first second others with
  | nil => rfl
  | cons hop rest ih =>
    cases others with
    | nil => rfl
    | cons next back =>
      have slots (asked : Hop) : second.slot? asked = first.slot? asked := by
        rw [← slot?_put_cons first hop rest value, same, slot?_put_cons]
      cases slot : first.slot? hop with
      | none =>
        rw [put_cons_of_none slot, put_cons_of_none ((slots hop).trans slot)] at same
        rw [same]
      | some place =>
        have also := (slots hop).trans slot
        obtain ⟨beside, below⟩ := agree_of_put_cons slot also same
        cases nextSlot : first.slot? next with
        | none => rw [put_cons_of_none nextSlot, put_cons_of_none ((slots next).trans nextSlot), same]
        | some there =>
          have nextAlso := (slots next).trans nextSlot
          rw [put_cons_of_slot nextSlot, put_cons_of_slot nextAlso]
          by_cases here : there = place
          · subst here
            rw [put_setChild_self slot, put_setChild_self also, ih below back, beside]
          · have child : first.childOrEmpty there = second.childOrEmpty there := by
              rw [← childOrEmpty_setChild_of_ne here first emptyMapping, beside, childOrEmpty_setChild_of_ne here]
            rw [put_setChild_of_ne slot (slot?_eq_some_iff.1 nextSlot).2 (Ne.symm here),
              put_setChild_of_ne also (slot?_eq_some_iff.1 nextAlso).2 (Ne.symm here), same, child]

end Value

end DataLocator
