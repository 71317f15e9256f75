import DataLocator.Proofs.Success
import DataLocator.Proofs.Divergence

/-! # Stores in succession

`deliver` follows a store through hops to its end, be it a success or not: each hop opens a place for those behind it,
and the first one that opens none stops the store. A value that is set at a place changes neither what the other
places of the node are (`opening_setChild_of_ne`) nor that this one is open (`opening_setChild_self`). So stores
through chains that diverge do not notice each other (`store_comm`), although both may make the same mappings on their
way and fail below them.

Stores through one chain are as reading and writing one variable: what is found there can be stored and changes nothing,
and of two stores the second counts (`store_repeated`).
-/

namespace DataLocator

open Value

/-- What a store leaves, and how it ends. -/
structure Delivery where
  left : Value
  result : Except LookupFailure Unit

namespace Value

/-- Can a store go on below the place? A child must be there, or it is a key, at which a mapping can be made. -/
def leadsOn : Value → Selector → Bool
  | mapping _, .key _ => true
  | node, place => (node.child? place).isSome

/-- Is the place open to what a store brings: to a value, if the hop is the last, or to the hops behind it? -/
def isOpen (node : Value) (place : Selector) (last : Bool) : Bool :=
  if last then node.accepts place else node.leadsOn place

/-- The place that a hop opens to a store. -/
def opening (node : Value) (hop : Hop) (last : Bool) : Except LookupFailure Selector :=
  match node.select (if last then .itemAssignment else .itemAccess) hop with
  | .error failure => .error failure
  | .ok place => if node.isOpen place last then .ok place else .error (node.absence place)

/-- A store of a value through hops, up to the first one that opens no place. -/
def deliver (node : Value) (hops : List Hop) (value : Value) : Delivery :=
  match hops with
  | [] => ⟨value, .ok ()⟩
  | hop :: rest =>
    match node.opening hop rest.isEmpty with
    | .error failure => ⟨node, .error failure⟩
    | .ok place =>
      let below := (node.childOrEmpty place).deliver rest value
      ⟨node.setChild place below.left, below.result⟩

section Opening

variable {node child : Value} {hop : Hop} {place other : Selector} {last : Bool}

theorem leadsOn_of_child? (held : node.child? place = some child) : node.leadsOn place = true := by
  cases node <;> cases place <;> simp_all [leadsOn]

/-- A place without a child leads on as a key of a mapping alone. -/
theorem key_of_leadsOn (leads : node.leadsOn place = true) (missing : node.child? place = none) :
    ∃ entries name, node = mapping entries ∧ place = .key name := by
  unfold leadsOn at leads
  split at leads
  · next entries name => exact ⟨entries, name, rfl, rfl⟩
  · simp [missing] at leads

theorem accepts_of_isOpen (opens : node.isOpen place last = true) : node.accepts place = true := by
  cases last with
  | true => exact opens
  | false =>
    cases held : node.child? place with
    | some child => exact accepts_of_child? held
    | none =>
      obtain ⟨entries, name, rfl, rfl⟩ := key_of_leadsOn opens held
      rfl

theorem opening_eq_ok_iff :
    node.opening hop last = .ok place ↔ node.select .itemAccess hop = .ok place ∧ node.isOpen place last = true := by
  have selects := @select_eq_ok_iff .itemAccess (if last then .itemAssignment else .itemAccess) node hop place
  rw [selects]
  unfold opening
  cases node.select (if last then .itemAssignment else .itemAccess) hop with
  | error failure => simp
  | ok found =>
    simp only [Except.ok.injEq]
    constructor
    · intro opened
      split at opened
      · next opens =>
        obtain rfl := Except.ok.inj opened
        exact ⟨rfl, opens⟩
      · contradiction
    · rintro ⟨rfl, opens⟩
      exact if_pos opens

theorem accepts_of_opening (opened : node.opening hop last = .ok place) : node.accepts place = true :=
  accepts_of_isOpen (opening_eq_ok_iff.1 opened).2

theorem name_of_opening (opened : node.opening hop last = .ok place) : hop.name = place.name :=
  Hop.name_of_select (opening_eq_ok_iff.1 opened).1

theorem absence_setChild (node : Value) (place : Selector) (child : Value) (other : Selector) :
    (node.setChild place child).absence other = node.absence other := by
  cases node <;> cases place <;> cases other <;> simp [setChild, absence, typeName]

theorem isOpen_setChild_of_ne (accepted : node.accepts place = true) (ne : other ≠ place) (child : Value)
    (last : Bool) : (node.setChild place child).isOpen other last = node.isOpen other last := by
  cases last with
  | true => exact accepts_setChild accepted child other
  | false =>
    have same := child?_setChild_of_ne ne node child
    cases node <;> cases place <;> cases other <;> simp_all [setChild, isOpen, leadsOn]

theorem isOpen_setChild_self (accepted : node.accepts place = true) (child : Value) (last : Bool) :
    (node.setChild place child).isOpen place last = true := by
  cases last with
  | true => exact (accepts_setChild accepted child place).trans accepted
  | false => exact leadsOn_of_child? (child?_setChild_self child accepted)

/-- A place that is open stays open when a child is set in it. -/
theorem opening_setChild_self (opened : node.opening hop last = .ok place) (child : Value) :
    (node.setChild place child).opening hop last = .ok place := by
  obtain ⟨selected, -⟩ := opening_eq_ok_iff.1 opened
  have opens := isOpen_setChild_self (accepts_of_opening opened) child last
  exact opening_eq_ok_iff.2 ⟨(select_setChild ..).trans selected, opens⟩

/-- A child that is set in one place does not bear on what a hop to another opens. -/
theorem opening_setChild_of_ne (accepted : node.accepts place = true) (differ : hop.name ≠ place.name)
    (child : Value) (last : Bool) : (node.setChild place child).opening hop last = node.opening hop last := by
  unfold opening
  rw [select_setChild]
  cases selected : node.select (if last then .itemAssignment else .itemAccess) hop with
  | error failure => rfl
  | ok other =>
    have ne : other ≠ place := by
      rintro rfl
      exact differ (Hop.name_of_select selected)
    simp only [isOpen_setChild_of_ne accepted ne, absence_setChild]

end Opening

section Deliver

variable {node : Value} {hop next : Hop} {rest hops others : List Hop} {place : Selector}
variable {failure : LookupFailure}

theorem deliver_cons_of_opened (opened : node.opening hop rest.isEmpty = .ok place) (value : Value) :
    node.deliver (hop :: rest) value =
      ⟨node.setChild place ((node.childOrEmpty place).deliver rest value).left,
        ((node.childOrEmpty place).deliver rest value).result⟩ := by
  simp only [deliver, opened]

theorem deliver_cons_of_barred (barred : node.opening hop rest.isEmpty = .error failure) (value : Value) :
    node.deliver (hop :: rest) value = ⟨node, .error failure⟩ := by
  simp only [deliver, barred]

theorem deliver_cons_of_passed (more : rest ≠ []) (passed : node.opening hop false = .ok place) (value : Value) :
    node.deliver (hop :: rest) value =
      ⟨node.setChild place ((node.childOrEmpty place).deliver rest value).left,
        ((node.childOrEmpty place).deliver rest value).result⟩ :=
  deliver_cons_of_opened (by rwa [List.isEmpty_eq_false_iff.2 more]) value

theorem deliver_cons_of_stopped (more : rest ≠ []) (stopped : node.opening hop false = .error failure) (value : Value) :
    node.deliver (hop :: rest) value = ⟨node, .error failure⟩ :=
  deliver_cons_of_barred (by rwa [List.isEmpty_eq_false_iff.2 more]) value

/-- A delivery through a hop does not bear on what a hop with another name opens. -/
theorem opening_deliver_of_ne (differ : hop.name ≠ next.name) (node : Value) (rest : List Hop) (value : Value)
    (last : Bool) : (node.deliver (hop :: rest) value).left.opening next last = node.opening next last := by
  cases opened : node.opening hop rest.isEmpty with
  | error failure => rw [deliver_cons_of_barred opened]
  | ok place =>
    have elsewhere : next.name ≠ place.name := name_of_opening opened ▸ differ.symm
    rw [deliver_cons_of_opened opened]
    exact opening_setChild_of_ne (accepts_of_opening opened) elsewhere _ last

/-- Deliveries through chains that diverge can be made in either order, and each ends as it does alone. -/
theorem deliver_comm (diverge : Diverge hops others) (data value extra : Value) :
    ((data.deliver others extra).left.deliver hops value).left =
        ((data.deliver hops value).left.deliver others extra).left ∧
      ((data.deliver others extra).left.deliver hops value).result = (data.deliver hops value).result := by
  induction diverge generalizing data with
  | @here hop next differ rest back =>
    have hopStill := opening_deliver_of_ne differ.symm data back extra rest.isEmpty
    have nextStill := opening_deliver_of_ne differ data rest value back.isEmpty
    cases also : data.opening next back.isEmpty with
    | error cause =>
      rw [deliver_cons_of_barred also, deliver_cons_of_barred (nextStill.trans also)]
      exact ⟨rfl, rfl⟩
    | ok there =>
      cases opened : data.opening hop rest.isEmpty with
      | error failure =>
        rw [deliver_cons_of_barred opened, deliver_cons_of_barred (hopStill.trans opened)]
        exact ⟨rfl, rfl⟩
      | ok place =>
        have ne : place ≠ there := by
          rintro rfl
          exact differ ((name_of_opening opened).trans (name_of_opening also).symm)
        rw [deliver_cons_of_opened (hopStill.trans opened), deliver_cons_of_opened (nextStill.trans also),
          deliver_cons_of_opened opened, deliver_cons_of_opened also]
        simp only [childOrEmpty_setChild_of_ne ne, childOrEmpty_setChild_of_ne ne.symm]
        exact ⟨setChild_comm ne .., trivial⟩
  | @later hop rest back below ih =>
    have more : rest ≠ [] := below.symm.right_ne_nil
    have also : back ≠ [] := below.right_ne_nil
    cases opened : data.opening hop false with
    | error failure =>
      rw [deliver_cons_of_stopped also opened, deliver_cons_of_stopped more opened, deliver_cons_of_stopped also opened]
      exact ⟨rfl, rfl⟩
    | ok place =>
      have still (child : Value) : (data.setChild place child).opening hop false = .ok place :=
        opening_setChild_self opened child
      rw [deliver_cons_of_passed also opened, deliver_cons_of_passed more opened, deliver_cons_of_passed more (still _),
        deliver_cons_of_passed also (still _)]
      simp only [childOrEmpty_setChild_self (accepts_of_opening opened), setChild_setChild]
      exact ⟨congrArg (data.setChild place) (ih _).1, (ih _).2⟩

end Deliver

end Value

section Store

variable {node data value : Value} {hop : Hop} {hops : List Hop} {place : Selector} {failure : LookupFailure}
variable {context : Option MergeContext}

/-- The last hop assigns at the place that it opens. -/
theorem assign_eq_opening (node : Value) (hop : Hop) (value : Value) :
    node.assign hop value = (node.opening hop true).map fun place => node.setChild place value := by
  simp only [Value.assign, opening, isOpen, ↓reduceIte]
  cases node.select .itemAssignment hop with
  | error failure => rfl
  | ok place => cases accepted : node.accepts place <;> simp [accepted, Except.map]

/-- A hop that is not the last is gone into where it opens a place. -/
theorem exists_entry_of_opening (opened : node.opening hop false = .ok place) :
    ∃ descent, Entry node (.go hop) descent ∧ descent.focus.child = node.childOrEmpty place ∧
      ∀ below, descent.focus.refill below = node.setChild place below := by
  obtain ⟨selected, leads⟩ := opening_eq_ok_iff.1 opened
  have slot := slot?_eq_some_iff.2 ⟨selected, accepts_of_opening opened⟩
  have makes : node.child? place = none → ∃ entries, node = mapping entries := fun missing =>
    have ⟨entries, _, isMapping, _⟩ := key_of_leadsOn leads missing
    ⟨entries, isMapping⟩
  obtain ⟨descent, entry⟩ := exists_entry_of_slot slot makes
  obtain ⟨other, also, -, child, refills⟩ := entry.slot
  obtain rfl : place = other := Option.some.inj (slot.symm.trans also)
  exact ⟨descent, entry, child, refills⟩

theorem enter_of_barred (barred : node.opening hop false = .error failure) : node.enter hop = .error failure := by
  simp only [opening, Bool.false_eq_true, ↓reduceIte] at barred
  rw [Value.enter_eq]
  cases selected : node.select .itemAccess hop with
  | error other =>
    rw [selected] at barred
    exact congrArg Except.error (Except.error.inj barred)
  | ok place =>
    rw [selected] at barred
    dsimp only at barred
    split at barred
    · contradiction
    · next stops =>
      cases held : node.child? place with
      | some child => exact absurd (leadsOn_of_child? held) stops
      | none =>
        cases place with
        | key name =>
          obtain ⟨entries, rfl⟩ := eq_mapping_of_select selected
          exact absurd rfl stops
        | _ => simpa only [held, Except.error.injEq] using barred

/-- A store through hops leaves what their delivery leaves, and ends as it does. -/
theorem writeThrough_eq_deliver (nonempty : hops ≠ []) (data : Value) :
    (writeThrough context (.present value) (hops.map Step.go) data).data = (data.deliver hops value).left ∧
      (writeThrough context (.present value) (hops.map Step.go) data).result =
        (data.deliver hops value).result.mapError .lookup := by
  induction hops generalizing data with
  | nil => contradiction
  | cons hop rest ih =>
    by_cases last : rest = []
    · subst last
      rw [List.map_cons, List.map_nil, writeThrough_singleton, write_go]
      cases opened : data.opening hop true with
      | error failure =>
        rw [deliver_cons_of_barred opened, assign_eq_opening, opened]
        exact ⟨rfl, rfl⟩
      | ok place =>
        rw [deliver_cons_of_opened opened, assign_eq_opening, opened]
        exact ⟨rfl, rfl⟩
    · have more : rest.map Step.go ≠ [] := by simpa using last
      cases opened : data.opening hop false with
      | error failure =>
        rw [List.map_cons, writeThrough_of_refused more (enter_go_of_error (enter_of_barred opened)),
          deliver_cons_of_stopped last opened]
        exact ⟨rfl, rfl⟩
      | ok place =>
        obtain ⟨descent, entry, child, refills⟩ := exists_entry_of_opening opened
        rw [List.map_cons, writeThrough_of_entered more entry.enter, deliver_cons_of_passed last opened]
        obtain ⟨left, result⟩ := ih last descent.focus.child
        rw [refills, left, result, child]
        exact ⟨rfl, rfl⟩

/-- The same of a store, which has nothing else to check when there are hops. -/
theorem store_eq_deliver (nonempty : hops ≠ []) (data value : Value) :
    (store data (.ofHops .target hops) (.present value) context).data = (data.deliver hops value).left ∧
      (store data (.ofHops .target hops) (.present value) context).result =
        (data.deliver hops value).result.mapError .lookup := by
  rw [store_ofHops nonempty]
  exact writeThrough_eq_deliver nonempty data

end Store

/-- Stores through two chains that part with different names can be made in either order: they leave the same data, and
each of them ends as it does alone, be it with success or with a failure. -/
theorem store_comm {front rest back : List Hop} {hop other : Hop} (differ : hop.name ≠ other.name)
    (data value extra : Value) (context : Option MergeContext) :
    let first := fun node => store node (.ofHops .target (front ++ hop :: rest)) (.present value) context
    let second := fun node => store node (.ofHops .target (front ++ other :: back)) (.present extra) context
    (second (first data).data).data = (first (second data).data).data ∧
      (first (second data).data).result = (first data).result ∧
      (second (first data).data).result = (second data).result := by
  intro first second
  have diverge := (Diverge.here differ rest back).behind front
  have nonempty : front ++ hop :: rest ≠ [] := diverge.symm.right_ne_nil
  have also : front ++ other :: back ≠ [] := diverge.right_ne_nil
  have firstLeaves (node : Value) : (first node).data = _ := (store_eq_deliver nonempty node value).1
  have firstEnds (node : Value) : (first node).result = _ := (store_eq_deliver nonempty node value).2
  have secondLeaves (node : Value) : (second node).data = _ := (store_eq_deliver also node extra).1
  have secondEnds (node : Value) : (second node).result = _ := (store_eq_deliver also node extra).2
  obtain ⟨same, firstAlone⟩ := deliver_comm diverge data value extra
  obtain ⟨-, secondAlone⟩ := deliver_comm diverge.symm data extra value
  refine ⟨?_, ?_, ?_⟩
  · rw [secondLeaves, firstLeaves, firstLeaves, secondLeaves, same]
  · rw [firstEnds, secondLeaves, firstAlone, firstEnds]
  · rw [secondEnds, firstLeaves, secondAlone, secondEnds]

/-- A store that fails below the mapping that it made on its way, and another that goes on below the same mapping. -/
theorem store_comm_below_made :
    let data : Value := .mapping []
    let first := fun node => store node (.ofHops .target [.segment "a", .attr "x"]) (.present .null) none
    let second := fun node =>
      store node (.ofHops .target [.segment "a", .item (.name "y"), .item (.index 0)]) (.present (.bool true)) none
    (Hop.attr "x").name ≠ (Hop.item (.name "y")).name ∧
      (first data).result = .error (.lookup (.attributeNotFound "mapping" "x")) ∧
      (first (second data).data).result = (first data).result ∧
      (second (first data).data).result = .ok () ∧
      (second (first data).data).data = .mapping [("a", .mapping [("y", .mapping [("0", .bool true)])])] ∧
      (second (first data).data).data = (first (second data).data).data := by
  intro data first second
  have differ : (Hop.attr "x").name ≠ (Hop.item (.name "y")).name := by decide
  obtain ⟨same, firstAlone, secondAlone⟩ :=
    @store_comm [.segment "a"] [] [.item (.index 0)] _ _ differ data .null (.bool true) none
  exact ⟨differ, rfl, firstAlone, secondAlone, rfl, same⟩

/-- What a load finds can be stored where it was found, and nothing changes. Of two stores through one chain the second
counts: it succeeds if the first does, and leaves what it leaves on its own. -/
theorem store_repeated {hops : List Hop} (nonempty : hops ≠ []) (data : Value) (context : Option MergeContext) :
    let stored := fun node value => store node (.ofHops .target hops) (.present value) context
    (∀ value, (load data (.ofHops .source hops)).result = .ok (.present value) →
      (stored data value).result = .ok () ∧ (stored data value).data = data) ∧
    ∀ value last, (stored data value).result = .ok () →
      (stored (stored data value).data last).result = .ok () ∧ (stored data last).result = .ok () ∧
        (stored (stored data value).data last).data = (stored data last).data := by
  intro stored
  have takes {node value : Value} : (stored node value).result = .ok () ↔ node.Takes hops :=
    store_ofHops_eq_ok_iff.trans (and_iff_right nonempty)
  have leaves {node : Value} (value : Value) (taken : node.Takes hops) :
      (stored node value).data = node.put hops value :=
    store_ofHops_data (takes.2 taken)
  refine ⟨fun value found => ?_, fun value last succeeded => ?_⟩
  · have walked := load_ofHops_eq_present_iff.1 found
    have taken : data.Takes hops := takes_of_walk walked
    exact ⟨takes.2 taken, (leaves value taken).trans (put_of_walk walked)⟩
  · have taken := takes.1 succeeded
    have again : (data.put hops value).Takes hops := takes_of_walk (walk_put taken value)
    rw [leaves value taken]
    exact ⟨takes.2 again, takes.2 taken, by rw [leaves last again, leaves last taken, put_put]⟩

/-- A field that is new in an extensible record is stored, stored anew, and stored as it is. -/
theorem store_repeated_new_field :
    let data : Value := .mapping [("server", .record "Server" .extensible [("host", .null)])]
    let hops : List Hop := [.segment "server", .attr "port"]
    let stored := fun node value => store node (.ofHops .target hops) (.present value) none
    let left := .mapping [("server", .record "Server" .extensible [("host", .null), ("port", .bool false)])]
    hops ≠ [] ∧ (stored data (.bool true)).result = .ok () ∧
      (stored (stored data (.bool true)).data (.bool false)).result = .ok () ∧
      (stored (stored data (.bool true)).data (.bool false)).data = left ∧
      (load left (.ofHops .source hops)).result = .ok (.present (.bool false)) ∧
      (stored left (.bool false)).data = left := by
  intro data hops stored left
  have nonempty : hops ≠ [] := List.cons_ne_nil _ _
  have succeeded : (stored data (.bool true)).result = .ok () := rfl
  have found : (load left (.ofHops .source hops)).result = .ok (.present (.bool false)) := rfl
  have leaves : (stored data (.bool false)).data = left := rfl
  obtain ⟨again, -, same⟩ := (store_repeated nonempty data none).2 (.bool true) (.bool false) succeeded
  exact ⟨nonempty, succeeded, again, same.trans leaves, found, ((store_repeated nonempty left none).1 _ found).2⟩

end DataLocator
