import DataLocator.Proofs.Keys
import DataLocator.Proofs.Putting

/-! # Chains that diverge

Two chains of hops diverge where they part with different names. Different names never mean the same place
(`Hop.name_of_select`), so a value that is put at the end of one chain neither moves nor blocks the other: what was
found through it is found again (`walk_put_of_diverge`), the data takes it as before (`takes_put_iff`), and two values
can be put in either order (`put_comm`).
-/

namespace DataLocator

open Value

/-- What a hop asks for: an attribute or a segment by its name, an item by the text of its key. -/
def Hop.name : Hop → String
  | item key => key.text
  | attr name => name
  | segment name => name

/-- The name that a selector answers to. -/
def Selector.name : Selector → String
  | key name => name
  | index position => position.repr
  | field name => name

/-- The chains share hops up to a place where they go on with different names. -/
inductive Diverge : List Hop → List Hop → Prop
  | here {hop other : Hop} (differ : hop.name ≠ other.name) (rest back : List Hop) :
      Diverge (hop :: rest) (other :: back)
  | later (hop : Hop) {rest back : List Hop} (below : Diverge rest back) : Diverge (hop :: rest) (hop :: back)

namespace Diverge

variable {hops others : List Hop}

theorem symm (diverge : Diverge hops others) : Diverge others hops := by
  induction diverge with
  | here differ rest back => exact .here differ.symm back rest
  | later hop _ ih => exact .later hop ih

/-- Chains that diverge do so behind the same hops. -/
theorem behind (diverge : Diverge hops others) (front : List Hop) : Diverge (front ++ hops) (front ++ others) := by
  induction front with
  | nil => exact diverge
  | cons hop front ih => exact .later hop ih

theorem ne (diverge : Diverge hops others) : hops ≠ others := by
  induction diverge with
  | here differ rest back =>
    intro same
    exact differ (congrArg Hop.name (List.cons.inj same).1)
  | later hop _ ih =>
    intro same
    exact ih (List.cons.inj same).2

theorem right_ne_nil (diverge : Diverge hops others) : others ≠ [] := by
  cases diverge <;> exact List.cons_ne_nil _ _

end Diverge

/-- A hop selects a place that answers to its name. -/
theorem Hop.name_of_select {request : Request} {node : Value} {hop : Hop} {place : Selector}
    (selected : node.select request hop = .ok place) : hop.name = place.name := by
  cases node with
  | mapping entries =>
    obtain ⟨name, asked, rfl⟩ := select_mapping_eq_ok_iff.1 selected
    cases hop <;> simp_all [Hop.key?, Hop.name, Selector.name]
  | sequence items =>
    have indexed {key : Key} (chosen : (sequence items).selectItem request key = .ok place) :
        key.text = place.name := by
      cases index : key.index? with
      | none => simp [selectItem, index] at chosen
      | some position =>
        simp only [selectItem, index, Except.ok.injEq] at chosen
        subst chosen
        exact Key.index?_eq_some_iff.1 index
    cases hop with
    | item key => exact indexed selected
    | attr name => simp [select, selectAttribute, hasAttributes] at selected
    | segment name => exact @indexed (.name name) selected
  | record typeName shape fields =>
    cases hop with
    | item key => simp [select, selectItem] at selected
    | attr name =>
      obtain rfl : Selector.field name = place := Except.ok.inj selected
      rfl
    | segment name =>
      obtain rfl : Selector.field name = place := Except.ok.inj selected
      rfl
  | _ => cases hop <;> simp [select, selectItem, selectAttribute, hasItems, hasAttributes] at selected

namespace Value

variable {node data : Value} {hop other : Hop} {hops others : List Hop} {place there : Selector}

/-- Hops with different names have different slots. -/
theorem slot_ne_of_name_ne (differ : hop.name ≠ other.name) (slot : node.slot? hop = some place)
    (also : node.slot? other = some there) : place ≠ there := by
  rintro rfl
  have selected := Hop.name_of_select (slot?_eq_some_iff.1 slot).1
  exact differ (selected.trans (Hop.name_of_select (slot?_eq_some_iff.1 also).1).symm)

/-- What is found through a chain is found again when a value was put at the end of one that diverges from it. -/
theorem walk_put_of_diverge {found : Value} (diverge : Diverge hops others) (walked : data.walk hops = .ok found)
    (extra : Value) : (data.put others extra).walk hops = .ok found := by
  induction diverge generalizing data with
  | @here hop other differ rest back =>
    obtain ⟨place, child, slot, held, found⟩ := slot_of_walk walked
    obtain ⟨selected, -⟩ := slot?_eq_some_iff.1 slot
    cases also : data.slot? other with
    | none => rwa [put_cons_of_none also]
    | some there =>
      have ne : place ≠ there := slot_ne_of_name_ne differ slot also
      have stays : (data.put (other :: back) extra).get hop = .ok child := by
        rw [put_cons_of_slot also, get_eq_ok_iff]
        exact ⟨place, (select_setChild ..).trans selected, (child?_setChild_of_ne ne ..).trans held⟩
      rwa [walk_cons_of_ok stays]
  | @later hop rest back _ ih =>
    obtain ⟨place, child, slot, held, found⟩ := slot_of_walk walked
    obtain ⟨selected, accepted⟩ := slot?_eq_some_iff.1 slot
    rw [put_cons_of_slot slot, childOrEmpty_of_child? held, walk_cons_of_ok (get_setChild selected accepted _)]
    exact ih found

/-- Values at the ends of two chains that diverge can be put in either order. -/
theorem put_comm (diverge : Diverge hops others) (data value extra : Value) :
    (data.put others extra).put hops value = (data.put hops value).put others extra := by
  induction diverge generalizing data with
  | @here hop other differ rest back =>
    cases slot : data.slot? hop with
    | none =>
      have still : (data.put (other :: back) extra).slot? hop = none := (slot?_put_cons ..).trans slot
      rw [put_cons_of_none slot, put_cons_of_none still]
    | some place =>
      cases also : data.slot? other with
      | none =>
        have still : (data.put (hop :: rest) value).slot? other = none := (slot?_put_cons ..).trans also
        rw [put_cons_of_none also, put_cons_of_none still]
      | some there =>
        have ne := slot_ne_of_name_ne differ slot also
        have still : (data.put (hop :: rest) value).slot? other = some there := (slot?_put_cons ..).trans also
        have child : (data.put (hop :: rest) value).childOrEmpty there = data.childOrEmpty there := by
          rw [put_cons_of_slot slot, childOrEmpty_setChild_of_ne ne.symm]
        rw [put_cons_of_slot also, put_setChild_of_ne slot (slot?_eq_some_iff.1 also).2 ne, put_cons_of_slot still,
          child]
  | @later hop rest back _ ih =>
    cases slot : data.slot? hop with
    | none => simp only [put_cons_of_none slot]
    | some place =>
      rw [put_cons_of_slot slot, put_cons_of_slot slot, put_setChild_self slot, put_setChild_self slot, ih]

theorem setChild_eq_mapping_iff (node : Value) (place : Selector) (child : Value) :
    (∃ entries, node.setChild place child = mapping entries) ↔ ∃ entries, node = mapping entries := by
  cases node <;> cases place <;> simp [setChild]

/-- What was put at the end of a chain does not bear on what the data takes through one that diverges from it. -/
theorem takes_put_iff (diverge : Diverge hops others) (taken : data.Takes others) (extra : Value) :
    (data.put others extra).Takes hops ↔ data.Takes hops := by
  induction diverge generalizing data with
  | @here hop other differ rest back =>
    obtain ⟨there, also, -⟩ := taken
    cases slot : data.slot? hop with
    | none =>
      have still : (data.put (other :: back) extra).slot? hop = none := (slot?_put_cons ..).trans slot
      simp [Takes, slot, still]
    | some place =>
      have ne := slot_ne_of_name_ne differ slot also
      have still : (data.put (other :: back) extra).slot? hop = some place := (slot?_put_cons ..).trans slot
      rw [takes_cons_iff still, takes_cons_iff slot, put_cons_of_slot also, setChild_eq_mapping_iff,
        child?_setChild_of_ne ne, childOrEmpty_setChild_of_ne ne]
  | @later hop rest back below ih =>
    obtain ⟨place, slot, makes, taken⟩ := taken
    obtain ⟨-, accepted⟩ := slot?_eq_some_iff.1 slot
    have still : (data.put (hop :: back) extra).slot? hop = some place := (slot?_put_cons ..).trans slot
    have held := child?_setChild_self ((data.childOrEmpty place).put back extra) accepted
    rw [takes_cons_iff still, takes_cons_iff slot, put_cons_of_slot slot, childOrEmpty_of_child? held, held, ih taken]
    constructor
    · exact fun both => ⟨fun missing _ => makes missing below.right_ne_nil, both.2⟩
    · exact fun both => ⟨fun missing => absurd missing (Option.some_ne_none _), both.2⟩

end Value

end DataLocator
