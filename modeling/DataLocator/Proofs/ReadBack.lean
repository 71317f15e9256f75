import DataLocator.Locator.Typed
import DataLocator.Proofs.Steps

/-! # Reading back what was stored

A target leads to one place, and the same place is read through a chain of hops: the hops of the target as they are,
and for a placement the index that its element gets in the sequence that stands there before the store.
`load_readBack` says that such a load finds what was stored. Each step hands on the node that the next one meets, and
`get_readBack` is the law of one step.
-/

namespace DataLocator

open Value

/-- The number of elements of a sequence; other values have none. -/
def Value.elementCount : Value → Nat
  | sequence items => items.length
  | _ => 0

namespace TargetStep

/-- The node that a step leads to, before anything is stored: what a hop finds, and an empty mapping where it finds
nothing or where an element is made. -/
def arrival (node : Value) : TargetStep → Value
  | go hop => (node.get hop).toOption.getD emptyMapping
  | place _ => emptyMapping

theorem arrival_of_get {node child : Value} {hop : Hop} (found : node.get hop = .ok child) :
    (go hop).arrival node = child := by
  simp only [arrival, found, Except.toOption, Option.getD_some]

theorem arrival_of_missed {node : Value} {hop : Hop} {failure : LookupFailure}
    (missed : node.get hop = .error failure) : (go hop).arrival node = emptyMapping := by
  simp only [arrival, missed, Except.toOption, Option.getD_none]

end TargetStep

/-- The node that a chain of steps leads to, before anything is stored. -/
def reached (data : Value) (steps : List TargetStep) : Value := steps.foldl TargetStep.arrival data

/-- The sequences that the placements of a chain meet are not longer than an index can say. -/
def Indexable (data : Value) (steps : List TargetStep) : Prop :=
  ∀ front placement back, steps = front ++ .place placement :: back → (reached data front).elementCount < UInt64.size

theorem Indexable.tail {data : Value} {step : TargetStep} {rest : List TargetStep}
    (indexable : Indexable data (step :: rest)) : Indexable (step.arrival data) rest := by
  intro front placement back split
  exact indexable (step :: front) placement back (by rw [split, List.cons_append])

/-- A step that is gone into leads where `arrival` says. -/
theorem Entry.child_eq_arrival {node : Value} {step : TargetStep} {descent : Descent}
    (entry : Entry node step.toStep descent) : descent.focus.child = step.arrival node := by
  cases step with
  | go hop =>
    cases entry with
    | found selected held => exact (TargetStep.arrival_of_get (get_eq_ok_iff.2 ⟨_, selected, held⟩)).symm
    | @made entries _ name asked missing =>
      have selected : (mapping entries).select .itemAccess hop = .ok (.key name) :=
        select_mapping_eq_ok_iff.2 ⟨name, asked, rfl⟩
      exact (TargetStep.arrival_of_missed (get_of_child?_eq_none selected missing)).symm
  | place placement =>
    cases entry with
    | placed items placement => rfl

/-- Nothing is found below an empty mapping. -/
theorem walk_emptyMapping {hops : List Hop} {value : Value} (found : emptyMapping.walk hops = .ok value) :
    value = emptyMapping := by
  cases hops with
  | nil => exact (Except.ok.inj found).symm
  | cons hop rest =>
    have missed : ∃ failure, emptyMapping.get hop = .error failure := by cases hop <;> exact ⟨_, rfl⟩
    obtain ⟨failure, missed⟩ := missed
    rw [walk_cons_of_error missed] at found
    contradiction

end DataLocator
