import Mathlib.Data.List.Forall2
import DataLocator.Proofs.Divergence

/-! # Chains spelt in two ways

A hop does in a node what it selects there, so that two hops which select the same are one to a load and to a store
(`Hop.SameAt`). An index and its decimal form are such hops: they are one key to every container (`Key.index?_congr`),
and each may be written for the other anywhere in a chain (`key_readings_agree`).
-/

namespace DataLocator

open Value

/-- The hops select the same in the node, or are refused there in the same words. -/
def Hop.SameAt (hop other : Hop) (node : Value) : Prop :=
  ∀ request, node.select request hop = node.select request other

/-- A store does the same at the node through either step, on its way and at its end. -/
structure Step.SameAt (step other : Step) (node : Value) : Prop where
  enter : step.enter node = other.enter node
  write : ∀ context value, step.write context value node = other.write context value node

section Congr

variable {node data : Value} {hop next : Hop} {first other : Step} {rest back : List Step}
variable {context : Option MergeContext} {value : Presence} {locator spelt : Locator}

theorem Hop.SameAt.get (same : hop.SameAt next node) : node.get hop = node.get next := by
  simp only [Value.get_eq, visit, same .itemAccess]

theorem Hop.SameAt.step (same : hop.SameAt next node) : (Step.go hop).SameAt (.go next) node := by
  constructor
  · have enters : node.enter hop = node.enter next := by simp only [Value.enter_eq, same .itemAccess]
    simp only [Step.enter, enters]
  · intro context value
    have assigns (child : Value) : node.assign hop child = node.assign next child := by
      simp only [Value.assign, same .itemAssignment]
    cases value with
    | notPresent => rfl
    | present child => simp only [write_go, assigns child]

/-- Stores that start with steps which do the same go on alike if they do so from where the first steps lead. -/
theorem writeThrough_cons_congr (same : first.SameAt other data) (lengths : rest.length = back.length)
    (below : ∀ descent, first.enter data = .ok descent →
      writeThrough context value rest descent.focus.child = writeThrough context value back descent.focus.child) :
    writeThrough context value (first :: rest) data = writeThrough context value (other :: back) data := by
  by_cases last : rest = []
  · subst last
    obtain rfl := List.length_eq_zero_iff.1 lengths.symm
    exact same.write context value
  · have also : back ≠ [] := by
      rintro rfl
      exact last (List.length_eq_zero_iff.1 lengths)
    cases entered : first.enter data with
    | error failure =>
      rw [writeThrough_of_refused last entered, writeThrough_of_refused also (same.enter.symm.trans entered)]
    | ok descent =>
      rw [writeThrough_of_entered last entered, writeThrough_of_entered also (same.enter.symm.trans entered),
        below descent entered]

theorem load_result_congr (kinds : locator.kind = spelt.kind)
    (same : follow locator.steps (.ok data) = follow spelt.steps (.ok data)) :
    (load data locator).result = (load data spelt).result := by
  obtain ⟨kind, steps, _, rfl⟩ := locator
  obtain rfl : kind = spelt.kind := kinds
  change follow steps _ = _ at same
  unfold load
  cases reads : spelt.kind with
  | target => simp [Locator.expect, reads]
  | source =>
    simp only [Locator.expect, reads, same]
    split <;> rfl

theorem storeObjection?_congr (kinds : locator.kind = spelt.kind)
    (merges : locator.steps.map Step.isMerge = spelt.steps.map Step.isMerge) :
    locator.storeObjection? context = spelt.storeObjection? context := by
  have last : locator.isMerge = spelt.isMerge := by
    simpa only [Locator.isMerge, List.getLast?_map, Option.any_map] using
      congrArg (fun flags => flags.getLast?.any fun merging => merging) merges
  have empty : locator.steps.isEmpty = spelt.steps.isEmpty := by
    simpa only [List.isEmpty_map] using congrArg List.isEmpty merges
  cases writes : spelt.kind with
  | source => simp [Locator.storeObjection?, Locator.expect, writes, kinds]
  | target => simp [Locator.storeObjection?, Locator.expect, writes, kinds, last, empty]

theorem store_congr (kinds : locator.kind = spelt.kind)
    (merges : locator.steps.map Step.isMerge = spelt.steps.map Step.isMerge)
    (placements : locator.steps.map Step.isPlacement = spelt.steps.map Step.isPlacement)
    (same : writeThrough context value locator.steps data = writeThrough context value spelt.steps data) :
    (store data locator value context).result = (store data spelt value context).result ∧
      (store data locator value context).data = (store data spelt value context).data := by
  have objections : locator.storeObjection? context = spelt.storeObjection? context :=
    storeObjection?_congr kinds merges
  have places : locator.steps.any Step.isPlacement = spelt.steps.any Step.isPlacement := by
    simpa only [List.any_map, Function.id_comp] using congrArg (List.any · id) placements
  unfold store
  rw [objections, places, same]
  split
  · exact ⟨rfl, rfl⟩
  · split <;> exact ⟨rfl, rfl⟩

end Congr

section Keys

variable {key other : Key} {text : String}

/-- A text that denotes no index: it is empty, has a character that is no digit, has a zero in front of others, or is
the numeral of a number beyond the indices. -/
def Text.NoIndex (text : List Char) : Prop :=
  text = [] ∨ (∃ c ∈ text, c.isDigit = false) ∨ (∃ rest, rest ≠ [] ∧ text = '0' :: rest) ∨
    ∃ n, natural? text = some n ∧ UInt64.size ≤ n

theorem Key.index?_name_eq_none_iff : (Key.name text).index? = none ↔ Text.NoIndex text.toList := by
  simp only [Key.index?, Text.canonicalNatural?, Text.NoIndex]
  generalize text.toList = digits
  by_cases leads : digits.head? = some '0' ∧ digits ≠ ['0']
  · obtain ⟨⟨rest, rfl⟩, more⟩ := leads.imp_left List.head?_eq_some_iff.1
    have longer : rest ≠ [] := fun empty => more (congrArg (List.cons '0') empty)
    exact iff_of_true (by simp [longer]) (.inr (.inr (.inl ⟨rest, longer, rfl⟩)))
  · rw [if_neg leads]
    cases reads : Text.natural? digits with
    | none =>
      have other := Text.not_digital_iff.1 (Text.natural?_eq_none_iff.1 reads)
      exact iff_of_true rfl (other.imp_right .inl)
    | some n =>
      have digital := (Text.natural?_eq_some_iff.1 reads).1
      have leadless : ¬ ∃ rest, rest ≠ [] ∧ digits = '0' :: rest := by
        rintro ⟨rest, more, rfl⟩
        exact leads ⟨rfl, by simpa using more⟩
      rw [← or_assoc, ← Text.not_digital_iff]
      simp [digital, leadless]

/-- Keys with one text have one index. -/
theorem Key.index?_congr (same : key.text = other.text) : key.index? = other.index? := by
  apply Option.ext
  intro position
  rw [index?_eq_some_iff, index?_eq_some_iff, same]

theorem Key.sameAt (same : key.text = other.text) (node : Value) : (Hop.item key).SameAt (.item other) node := by
  intro request
  cases node <;> simp [select, selectItem, same, Key.index?_congr same]

end Keys

/-- The same step, or one in which an index and its decimal form stand for each other. -/
inductive Step.Respelt : Step → Step → Prop
  | same (step : Step) : Respelt step step
  | named (position : UInt64) : Respelt (.go (.item (.index position))) (.go (.item (.name position.toNat.repr)))
  | indexed (position : UInt64) : Respelt (.go (.item (.name position.toNat.repr))) (.go (.item (.index position)))

section Respelt

variable {step other : Step} {steps others : List Step}

theorem Step.Respelt.eq_or_item (respelt : step.Respelt other) :
    step = other ∨ ∃ key next : Key, step = .go (.item key) ∧ other = .go (.item next) ∧ key.text = next.text := by
  cases respelt with
  | same step => exact .inl rfl
  | named position => exact .inr ⟨_, _, rfl, rfl, rfl⟩
  | indexed position => exact .inr ⟨_, _, rfl, rfl, rfl⟩

theorem Step.Respelt.sameAt (respelt : step.Respelt other) (node : Value) : step.SameAt other node := by
  rcases respelt.eq_or_item with rfl | ⟨key, next, rfl, rfl, same⟩
  · exact ⟨rfl, fun _ _ => rfl⟩
  · exact (Key.sameAt same node).step

theorem Step.Respelt.advance (respelt : step.Respelt other) (finding : Finding) :
    step.advance finding = other.advance finding := by
  rcases respelt.eq_or_item with rfl | ⟨key, next, rfl, rfl, same⟩
  · rfl
  · cases finding with
    | ok value => exact congrArg Except.ok (Key.sameAt same value).get
    | error failure => rfl

theorem follow_respelt (respelt : List.Forall₂ Step.Respelt steps others) (finding : Finding) :
    follow steps finding = follow others finding := by
  induction respelt generalizing finding with
  | nil => rfl
  | cons first _ ih =>
    simp only [follow, first.advance finding]
    split
    · exact ih _
    · rfl

theorem writeThrough_respelt (respelt : List.Forall₂ Step.Respelt steps others) (context : Option MergeContext)
    (value : Presence) (data : Value) :
    writeThrough context value steps data = writeThrough context value others data := by
  induction respelt generalizing data with
  | nil => rfl
  | cons first rest ih =>
    exact writeThrough_cons_congr (first.sameAt data) rest.length_eq fun descent _ => ih descent.focus.child

/-- Respelling keys changes nothing about steps that is the same for all items. -/
theorem map_respelt {β : Type} (respelt : List.Forall₂ Step.Respelt steps others) (f : Step → β)
    (items : ∀ key next : Key, f (.go (.item key)) = f (.go (.item next))) : steps.map f = others.map f := by
  induction respelt with
  | nil => rfl
  | cons first _ ih =>
    rw [List.map_cons, List.map_cons, ih]
    rcases first.eq_or_item with rfl | ⟨key, next, rfl, rfl, -⟩
    · rfl
    · rw [items key next]

end Respelt

/-- A key is an index exactly if its text is the decimal form of one, which no text is that is empty, holds something else
than digits, has a leading zero or denotes too large a number. So an index and its decimal form can be written for each
other in any steps of a locator: a load has the same result, and a store has the same result and leaves the same data.
Keys with different texts name different places in every container. -/
theorem key_readings_agree :
    (∀ (key : Key) (position : UInt64), key.index? = some position ↔ key.text = position.toNat.repr) ∧
    (∀ text, (Key.name text).index? = none ↔ Text.NoIndex text.toList) ∧
    (∀ (kind : Kind) (steps others : List Step), List.Forall₂ Step.Respelt steps others → ∀ data : Value,
      (load data (.ofSteps kind steps)).result = (load data (.ofSteps kind others)).result ∧
      ∀ (value : Presence) (context : Option MergeContext),
        (store data (.ofSteps kind steps) value context).result = (store data (.ofSteps kind others) value context).result ∧
          (store data (.ofSteps kind steps) value context).data = (store data (.ofSteps kind others) value context).data) ∧
    ∀ key other : Key, key.text ≠ other.text → ∀ (container : Value) (request asked : Request) (place there : Selector),
      container.select request (.item key) = .ok place → container.select asked (.item other) = .ok there →
        place ≠ there := by
  refine ⟨fun _ _ => Key.index?_eq_some_iff, fun _ => Key.index?_name_eq_none_iff, ?_, ?_⟩
  · intro kind steps others respelt data
    refine ⟨load_result_congr rfl (follow_respelt respelt _), fun value context => ?_⟩
    refine store_congr ?_ ?_ ?_ ?_
    · rfl
    · exact map_respelt respelt Step.isMerge fun _ _ => rfl
    · exact map_respelt respelt Step.isPlacement fun _ _ => rfl
    · exact writeThrough_respelt respelt context value data
  · rintro key other differ container request asked place there selected also rfl
    exact differ ((Hop.name_of_select selected).trans (Hop.name_of_select also).symm)

/-- Numbers in a chain are written as names, in front of a new element and below it. -/
theorem key_readings_agree_below_insert :
    let data : Value := .mapping [("7", .sequence [.null, .sequence []])]
    let steps : List Step := [.go (.item (.index 7)), .go (.item (.index 1)), .place (.insert 0), .go (.item (.index 10))]
    let others : List Step :=
      [.go (.item (.name "7")), .go (.item (.name "1")), .place (.insert 0), .go (.item (.name "10"))]
    let stored := store data (.ofSteps .target steps) (.present .null) none
    let respelt := store data (.ofSteps .target others) (.present .null) none
    let container : Value := .sequence [.null, .sequence []]
    List.Forall₂ Step.Respelt steps others ∧
      stored.data = .mapping [("7", .sequence [.null, .sequence [.mapping [("10", .null)]]])] ∧
      stored.result = respelt.result ∧ stored.data = respelt.data ∧
      (Key.index 1).text ≠ (Key.name "0").text ∧
      container.select .itemAccess (.item (.index 1)) = .ok (.index 1) ∧
      container.select .itemAssignment (.item (.name "0")) = .ok (.index 0) ∧ Selector.index 1 ≠ .index 0 := by
  intro data steps others stored respelt container
  obtain ⟨-, -, agree, apart⟩ := key_readings_agree
  have spelt : List.Forall₂ Step.Respelt steps others :=
    .cons (.named 7) (.cons (.named 1) (.cons (.same _) (.cons (.named 10) .nil)))
  obtain ⟨result, left⟩ := (agree .target steps others spelt data).2 (.present .null) none
  have differ : (Key.index 1).text ≠ (Key.name "0").text := by decide
  exact ⟨spelt, rfl, result, left, differ, rfl, rfl, apart _ _ differ container .itemAccess .itemAssignment _ _ rfl rfl⟩

end DataLocator
