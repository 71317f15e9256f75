import Mathlib.Data.List.Forall2
import DataLocator.Proofs.Steps

/-! # The way of a store

A store goes into the steps in front of its last one, one after the other, until one refuses (`course`). Where a step
makes an entry of a mapping or an element of a sequence, what it leads to is an empty mapping, and all that follows is
known from the steps alone: each that asks for a key makes it and leads to another empty mapping, and the first that
asks for something else refuses (`course_emptyMapping`). So the keys that a store tells of are those of some steps in a
row, and these steps are the ones that made an entry (`store_walks_fresh`).
-/

namespace DataLocator

open Value

/-- A step that was gone into: the node where it was met, and what was found or made there. -/
structure Passage where
  node : Value
  step : Step
  descent : Descent

/-- How far a chain of steps was gone into: the steps that were, and the failure of the one that was not. -/
structure Course where
  passages : List Passage := []
  failure? : Option Failure := none

/-- Goes into steps one after the other until one refuses. -/
def course : List Step → Value → Course
  | [], _ => {}
  | step :: rest, node =>
    match step.enter node with
    | .error failure => { failure? := some failure }
    | .ok descent =>
      let behind := course rest descent.focus.child
      { behind with passages := ⟨node, step, descent⟩ :: behind.passages }

/-- The key that a step asks a mapping for, if it asks for one. -/
def Step.key? : Step → Option String
  | go hop => hop.key?
  | _ => none

def Step.asksKey (step : Step) : Bool := step.key?.isSome

/-- The failure with which a mapping refuses a step that asks it for no key. -/
def Step.refusal? : Step → Option Failure
  | go (.attr name) => some (.lookup (.attributeNotFound "mapping" name))
  | go (.item _) | go (.segment _) => none
  | place placement => some (.lookup (.unsupported "mapping" placement.request))
  | convert _ => some (.invalid (.sourceOnly .convert))
  | required => some (.invalid (.sourceOnly .required))
  | merge => some (.invalid .mergeNotFinal)

/-- The key of which an event tells that it was made. -/
def Event.madeKey? : Event → Option String
  | vivified key => some key
  | _ => none

namespace Passage

/-- The passage adds an entry with the key to the mapping where it was met. -/
structure Makes (passage : Passage) (key : String) : Prop where
  lacked : ∃ entries, passage.node = .mapping entries ∧ entries.lookup key = none
  left : passage.descent.focus.container = passage.node.setChild (.key key) emptyMapping

/-- The passage adds an element to the sequence where it was met. -/
def Places (passage : Passage) : Prop :=
  ∃ items position, passage.node = .sequence items ∧ position ≤ items.length ∧
    passage.descent.focus.container = .sequence (items.insertIdx position emptyMapping)

/-- The passage goes from an empty mapping to another one, which it makes at the key. -/
structure Fresh (passage : Passage) (key : String) : Prop where
  met : passage.node = emptyMapping
  asked : passage.step.key? = some key
  makes : passage.Makes key
  told : passage.descent.events = [.vivified key]
  reached : passage.descent.focus.child = emptyMapping

end Passage

/-- The course of steps that starts at a mapping that was made: all steps in front of the first one that asks for no key
are gone into, and this one refuses. -/
structure Course.Fresh (course : Course) (steps : List Step) : Prop where
  keyed : course.passages.map Passage.step = steps.takeWhile Step.asksKey
  fresh : ∀ passage ∈ course.passages, ∃ key, passage.Fresh key
  failure : course.failure? = (steps.find? fun step => !step.asksKey).bind Step.refusal?

section Course

variable {step : Step} {steps rest : List Step} {data node : Value} {descent : Descent} {passage : Passage}

theorem course_cons_of_entered (entered : step.enter node = .ok descent) (rest : List Step) :
    course (step :: rest) node =
      { passages := ⟨node, step, descent⟩ :: (course rest descent.focus.child).passages
        failure? := (course rest descent.focus.child).failure? } := by
  simp only [course, entered]

theorem course_cons_of_refused {failure : Failure} (refused : step.enter node = .error failure) (rest : List Step) :
    course (step :: rest) node = { failure? := some failure } := by
  simp only [course, refused]

/-- What is left of a course behind one of its passages starts where this one leads. -/
theorem course_behind {front behind : List Passage}
    (split : (course steps data).passages = front ++ passage :: behind) :
    Entry passage.node passage.step passage.descent ∧
      course (steps.drop (front.length + 1)) passage.descent.focus.child =
        { passages := behind, failure? := (course steps data).failure? } := by
  induction steps generalizing data front with
  | nil => simp [course] at split
  | cons step rest ih =>
    cases entered : step.enter data with
    | error failure => simp [course_cons_of_refused entered] at split
    | ok descent =>
      rw [course_cons_of_entered entered] at split ⊢
      cases front with
      | nil =>
        obtain ⟨rfl, rfl⟩ := List.cons.inj split
        exact ⟨entry_of_enter entered, rfl⟩
      | cons first front => exact ih (List.cons.inj split).2

theorem steps_of_course (steps : List Step) (data : Value) :
    ∃ back, steps = (course steps data).passages.map Passage.step ++ back := by
  induction steps generalizing data with
  | nil => exact ⟨[], rfl⟩
  | cons step rest ih =>
    cases entered : step.enter data with
    | error failure =>
      rw [course_cons_of_refused entered]
      exact ⟨step :: rest, rfl⟩
    | ok descent =>
      obtain ⟨back, split⟩ := ih descent.focus.child
      rw [course_cons_of_entered entered]
      exact ⟨back, congrArg (step :: ·) split⟩

/-- What is found on the way is no new entry. -/
theorem Passage.not_makes_of_same (same : passage.descent.focus.container = passage.node) (key : String) :
    ¬ passage.Makes key := by
  rintro ⟨⟨entries, isMapping, missing⟩, left⟩
  rw [same, isMapping] at left
  have gained : (mapping entries).child? (.key key) = some emptyMapping := by
    rw [left]
    exact child?_setChild_self emptyMapping rfl
  rw [child?, missing] at gained
  contradiction

/-- What is found on the way is no new element. -/
theorem Passage.not_places_of_same (same : passage.descent.focus.container = passage.node) : ¬ passage.Places := by
  rintro ⟨items, position, isSequence, bound, left⟩
  rw [same, isSequence] at left
  have lengths := congrArg List.length (Value.sequence.inj left)
  rw [List.length_insertIdx_of_le_length bound] at lengths
  omega

theorem Passage.not_makes_of_sequence {items : List Value} (isSequence : passage.node = .sequence items)
    (key : String) : ¬ passage.Makes key := by
  rintro ⟨⟨entries, isMapping, -⟩, -⟩
  rw [isSequence] at isMapping
  contradiction

/-- A passage that makes an entry or an element leads to an empty mapping. -/
theorem Entry.child_of_creates (entry : Entry node step descent)
    (creates : (∃ key, Passage.Makes ⟨node, step, descent⟩ key) ∨ Passage.Places ⟨node, step, descent⟩) :
    descent.focus.child = emptyMapping := by
  cases entry with
  | found selected held =>
    rcases creates with ⟨key, makes⟩ | places
    · exact absurd makes (Passage.not_makes_of_same rfl key)
    · exact absurd places (Passage.not_places_of_same rfl)
  | made asked missing => rfl
  | placed items placement => rfl

/-- A key that is asked of a mapping without it is made. -/
theorem makes_of_missing {entries : List (String × Value)} {key : String} (missing : entries.lookup key = none)
    (step : Step) (events : List Event) :
    let focus : Focus := ⟨mapping (Entries.insert key emptyMapping entries), .key key, emptyMapping⟩
    Passage.Makes ⟨mapping entries, step, { focus, events }⟩ key :=
  ⟨⟨entries, rfl, missing⟩, rfl⟩

/-- An empty mapping is gone into for a key, and refuses all other steps. -/
theorem fresh_or_refused (step : Step) :
    (∃ key descent, step.enter emptyMapping = .ok descent ∧ step.asksKey = true ∧
        Passage.Fresh ⟨emptyMapping, step, descent⟩ key) ∨
      ∃ failure, step.enter emptyMapping = .error failure ∧ step.asksKey = false ∧ step.refusal? = some failure := by
  cases step with
  | go hop =>
    cases hop with
    | item key =>
      exact .inl ⟨key.text, _, enter_of_missing rfl rfl, rfl, rfl, rfl, makes_of_missing rfl _ _, rfl, rfl⟩
    | segment name => exact .inl ⟨name, _, enter_of_missing rfl rfl, rfl, rfl, rfl, makes_of_missing rfl _ _, rfl, rfl⟩
    | attr name => exact .inr ⟨_, rfl, rfl, rfl⟩
  | _ => exact .inr ⟨_, rfl, rfl, rfl⟩

/-- From an empty mapping on, each step that asks for a key makes it, and the first that does not refuses. -/
theorem course_emptyMapping (steps : List Step) : (course steps emptyMapping).Fresh steps := by
  induction steps with
  | nil => exact ⟨rfl, by simp [course], rfl⟩
  | cons step rest ih =>
    rcases fresh_or_refused step with ⟨key, descent, entered, asks, fresh⟩ | ⟨failure, refused, other, refusal⟩
    · rw [course_cons_of_entered entered, fresh.reached]
      refine ⟨?_, List.forall_mem_cons.2 ⟨⟨key, fresh⟩, ih.fresh⟩, ?_⟩
      · rw [List.map_cons, ih.keyed, List.takeWhile_cons_of_pos asks]
      · rw [ih.failure, List.find?_cons_of_neg (by simp [asks])]
    · rw [course_cons_of_refused refused]
      refine ⟨?_, by simp, ?_⟩
      · rw [List.takeWhile_cons_of_neg (by simp [other])]
        rfl
      · rw [List.find?_cons_of_pos (by simp [other])]
        exact refusal.symm

end Course

section Events

variable {steps : List Step} {data : Value} {passages : List Passage}

/-- The keys of which the events of some passages tell. -/
def toldKeys (passages : List Passage) : List String :=
  (passages.flatMap fun passage => passage.descent.events).filterMap Event.madeKey?

theorem toldKeys_cons (passage : Passage) (passages : List Passage) :
    toldKeys (passage :: passages) = passage.descent.events.filterMap Event.madeKey? ++ toldKeys passages := by
  simp [toldKeys]

/-- Some of the passages in a row, up to the last one, make an entry each, with these keys; the others make none. -/
def MakesInARow (passages : List Passage) (keys : List String) : Prop :=
  ∃ front run, passages = front ++ run ∧ (∀ passage ∈ front, ∀ key, ¬ passage.Makes key) ∧
    List.Forall₂ (fun passage key => passage.step.key? = some key ∧ passage.Makes key) run keys

theorem forall₂_toldKeys (fresh : ∀ passage ∈ passages, ∃ key, passage.Fresh key) :
    List.Forall₂ (fun passage key => passage.step.key? = some key ∧ passage.Makes key) passages
      (toldKeys passages) := by
  induction passages with
  | nil => exact .nil
  | cons passage rest ih =>
    obtain ⟨⟨key, first⟩, others⟩ := List.forall_mem_cons.1 fresh
    rw [toldKeys_cons, first.told]
    exact .cons ⟨first.asked, first.makes⟩ (ih others)

/-- The keys that the events of a course tell of are those of the entries that it made, and it made them in a row. -/
theorem makesInARow_course (steps : List Step) (data : Value) :
    MakesInARow (course steps data).passages (toldKeys (course steps data).passages) := by
  induction steps generalizing data with
  | nil => exact ⟨[], [], rfl, by simp, .nil⟩
  | cons step rest ih =>
    cases entered : step.enter data with
    | error failure =>
      rw [course_cons_of_refused entered]
      exact ⟨[], [], rfl, by simp, .nil⟩
    | ok descent =>
      rw [course_cons_of_entered entered, toldKeys_cons]
      have freshBehind := (course_emptyMapping rest).fresh
      -- Behind what was found the question is the same again, and behind what was made all passages make an entry.
      cases entry_of_enter entered with
      | @found _ child _ _ selected held =>
        obtain ⟨front, run, split, idle, makes⟩ := ih child
        refine ⟨_ :: front, run, by rw [split]; rfl, List.forall_mem_cons.2 ⟨?_, idle⟩, makes⟩
        exact Passage.not_makes_of_same rfl
      | made asked missing =>
        exact ⟨[], _, rfl, by simp, .cons ⟨asked, makes_of_missing missing _ _⟩ (forall₂_toldKeys freshBehind)⟩
      | placed items placement =>
        refine ⟨[_], _, rfl, List.forall_mem_singleton.2 ?_, forall₂_toldKeys freshBehind⟩
        exact Passage.not_makes_of_sequence rfl

variable {context : Option MergeContext} {value : Presence}

/-- What is written at the end makes no entry on the way. -/
theorem madeKeys_write (step : Step) (node : Value) :
    (step.write context value node).events.filterMap Event.madeKey? = [] := by
  cases step with
  | go hop =>
    cases value with
    | notPresent => rfl
    | present value => cases assigned : node.assign hop value <;> simp [write_go, assigned]
  | place placement =>
    cases node with
    | sequence items =>
      rw [write_place]
      rfl
    | _ => rfl
  | merge =>
    cases value with
    | notPresent => rfl
    | present incoming =>
      cases context with
      | none => rfl
      | some context => cases incoming <;> cases node <;> rfl
  | _ => rfl

/-- The keys that a writing tells of are told on its way. -/
theorem madeKeys_writeThrough (nonempty : steps ≠ []) (data : Value) :
    (writeThrough context value steps data).events.filterMap Event.madeKey? =
      toldKeys (course steps.dropLast data).passages := by
  induction steps generalizing data with
  | nil => contradiction
  | cons step rest ih =>
    by_cases last : rest = []
    · subst last
      exact madeKeys_write step data
    · rw [List.dropLast_cons_of_ne_nil last]
      cases entered : step.enter data with
      | error failure =>
        rw [writeThrough_of_refused last entered, course_cons_of_refused entered]
        rfl
      | ok descent =>
        rw [writeThrough_of_entered last entered, course_cons_of_entered entered, toldKeys_cons, List.filterMap_append,
          ih last]

end Events

/-- Once a step on the way of a store has made an entry or an element, it leads to an empty mapping: each step behind it
that asks for a key makes the key, tells of it and leads to another empty mapping, and the first that does not refuses.
So the keys that a store tells of are those of some steps in a row, in their order, and these are the steps on its way
that made an entry, each its own. -/
theorem store_walks_fresh (data : Value) :
    (∀ (steps : List Step) (front : List Passage) (passage : Passage) (behind : List Passage),
      (course steps data).passages = front ++ passage :: behind →
      ((∃ key, passage.Makes key) ∨ passage.Places) →
        passage.descent.focus.child = emptyMapping ∧
        Course.Fresh { passages := behind, failure? := (course steps data).failure? } (steps.drop (front.length + 1))) ∧
    ∀ (locator : Locator) (value : Presence) (context : Option MergeContext),
      let outcome := store data locator value context
      let keys := outcome.events.filterMap Event.madeKey?
      (keys = [] ∧ outcome.data = data) ∨
      ∃ front run back, (course locator.steps.dropLast data).passages = front ++ run ∧
        locator.steps.dropLast = (front ++ run).map Passage.step ++ back ∧
        (∀ passage ∈ front, ∀ key, ¬ passage.Makes key) ∧
        List.Forall₂ (fun passage key => passage.step.key? = some key ∧ passage.Makes key) run keys := by
  refine ⟨?_, ?_⟩
  · intro steps front passage behind split creates
    obtain ⟨entry, after⟩ := course_behind split
    have child := entry.child_of_creates creates
    rw [child] at after
    refine ⟨child, ?_⟩
    rw [← after]
    exact course_emptyMapping _
  · intro locator value context outcome keys
    cases objection : locator.storeObjection? context with
    | some cause =>
      have refused : outcome = _ := store_of_objection objection data value
      exact .inl ⟨by simp [keys, refused], by rw [refused]⟩
    | none =>
      rcases store_cases objection data value with skipped | written
      · have skips : outcome = _ := skipped
        exact .inl ⟨by simp [keys, skips, Event.madeKey?], by rw [skips]⟩
      · obtain ⟨-, nonempty, -⟩ := storeObjection?_eq_none_iff.1 objection
        have told : keys = toldKeys (course locator.steps.dropLast data).passages :=
          (congrArg (fun outcome : Outcome Unit => outcome.events.filterMap Event.madeKey?) written).trans
            (madeKeys_writeThrough nonempty data)
        obtain ⟨front, run, split, idle, makes⟩ := makesInARow_course locator.steps.dropLast data
        obtain ⟨back, steps⟩ := steps_of_course locator.steps.dropLast data
        rw [split] at steps
        exact .inr ⟨front, run, back, split, steps, idle, told ▸ makes⟩

/-- Behind an element that was appended a key is made in it, and the attribute behind that is refused. -/
theorem store_walks_fresh_below_append :
    let data : Value := .mapping [("items", .sequence [])]
    let steps : List Step := [.go (.segment "items"), .place .append, .go (.item (.name "a")), .go (.attr "x"),
      .go (.segment "b")]
    let found : Passage := ⟨data, .go (.segment "items"), { focus := ⟨data, .key "items", .sequence []⟩ }⟩
    let placed : Passage :=
      ⟨.sequence [], .place .append,
        { focus := ⟨.sequence [emptyMapping], .index 0, emptyMapping⟩, events := [.placed 0 0 .append] }⟩
    let made : Passage :=
      ⟨emptyMapping, .go (.item (.name "a")),
        { focus := ⟨.mapping [("a", emptyMapping)], .key "a", emptyMapping⟩, events := [.vivified "a"] }⟩
    (course steps data).passages = [found] ++ placed :: [made] ∧ placed.Places ∧
      Course.Fresh { passages := [made], failure? := some (.lookup (.attributeNotFound "mapping" "x")) }
        [.go (.item (.name "a")), .go (.attr "x"), .go (.segment "b")] ∧
      (store data (.ofSteps .target steps) (.present .null) none).events.filterMap Event.madeKey? = ["a"] := by
  intro data steps found placed made
  have split : (course steps data).passages = [found] ++ placed :: [made] := rfl
  have places : placed.Places := ⟨[], 0, rfl, Nat.le_refl 0, rfl⟩
  obtain ⟨-, fresh⟩ := (store_walks_fresh data).1 steps [found] placed [made] split (.inr places)
  exact ⟨split, places, fresh, rfl⟩

end DataLocator
