import DataLocator.Proofs.ReadBack
import DataLocator.Proofs.Spelling

/-! # Segments as items and attributes

A segment of a dotted text is an item or an attribute by the node that it is met at. Which of the two can be said before
anything is done, from the data as it is (`Value.spelling`): what a store makes on its way are mappings, and these have
items, as is said of nodes that are not there. So a dotted text is an explicit chain, to a load and to a store
(`dotted_eq_spelling`).
-/

namespace DataLocator

open Value

/-- The hop that a segment stands for at a node: an item where children are items or where there is no node, and an
attribute at all other nodes. -/
def Hop.ofSegment (node : Option Value) (name : String) : Hop :=
  match node with
  | none | some (.mapping _) | some (.sequence _) => .item (.name name)
  | some _ => .attr name

namespace Value

/-- The chain that segments stand for in data, each at the node that the segments in front of it lead to. -/
def spelling (data : Value) (names : List String) : List Hop :=
  names.mapIdx fun i name => Hop.ofSegment (data.walk ((names.take i).map Hop.segment)).toOption name

section

variable {node child : Value} {name : String} {failure : LookupFailure}

theorem segment_sameAt (node : Value) (name : String) : (Hop.segment name).SameAt (.ofSegment (some node) name) node := by
  intro request
  cases node <;> rfl

theorem spelling_of_found (found : node.get (.segment name) = .ok child) (rest : List String) :
    node.spelling (name :: rest) = Hop.ofSegment (some node) name :: child.spelling rest := by
  simp only [spelling, List.mapIdx_cons, List.take_succ_cons, List.map_cons, walk_cons_of_ok found]
  rfl

/-- Behind a segment that finds nothing all are items. -/
theorem spelling_of_missed (missed : node.get (.segment name) = .error failure) (rest : List String) :
    node.spelling (name :: rest) = Hop.ofSegment (some node) name :: rest.map fun next => .item (.name next) := by
  simp only [spelling, List.mapIdx_cons, List.take_succ_cons, List.map_cons, walk_cons_of_error missed]
  exact congrArg _ (List.mapIdx_eq_iff.2 fun i => List.getElem?_map)

theorem spelling_emptyMapping (names : List String) :
    emptyMapping.spelling names = names.map fun name => .item (.name name) := by
  cases names with
  | nil => rfl
  | cons name rest =>
    have missed : emptyMapping.get (.segment name) = .error (.missingKey name) := rfl
    exact spelling_of_missed missed rest

theorem length_spelling (data : Value) (names : List String) : (data.spelling names).length = names.length :=
  List.length_mapIdx

/-- The explicit chain leads where the segments lead, or fails as they do. -/
theorem walk_spelling (data : Value) (names : List String) :
    data.walk (data.spelling names) = data.walk (names.map Hop.segment) := by
  induction names generalizing data with
  | nil => rfl
  | cons name rest ih =>
    have same := (segment_sameAt data name).get
    rw [List.map_cons]
    cases found : data.get (.segment name) with
    | ok child =>
      rw [spelling_of_found found, walk_cons_of_ok found, walk_cons_of_ok (same.symm.trans found), ih child]
    | error failure =>
      rw [spelling_of_missed found, walk_cons_of_error found, walk_cons_of_error (same.symm.trans found)]

end

end Value

/-- A store through the explicit chain does what one through the segments does. Where these find nothing more, what is
made is an empty mapping, and the explicit chain goes on as it would be spelt there. -/
theorem writeThrough_spelling (context : Option MergeContext) (value : Presence) (data : Value) (names : List String) :
    writeThrough context value ((names.map Hop.segment).map Step.go) data =
      writeThrough context value ((data.spelling names).map Step.go) data := by
  induction names generalizing data with
  | nil => rfl
  | cons name rest ih =>
    have same := (segment_sameAt data name).step
    have arrives (descent : Descent) (entered : (Step.go (.segment name)).enter data = .ok descent) :
        descent.focus.child = (TargetStep.go (.segment name)).arrival data := by
      have entry : Entry data (TargetStep.go (.segment name)).toStep descent := entry_of_enter entered
      exact entry.child_eq_arrival
    cases found : data.get (.segment name) with
    | ok child =>
      rw [spelling_of_found found]
      apply writeThrough_cons_congr same
      · simp [length_spelling]
      · intro descent entered
        rw [arrives descent entered, TargetStep.arrival_of_get found]
        exact ih child
    | error failure =>
      rw [spelling_of_missed found, ← spelling_emptyMapping]
      apply writeThrough_cons_congr same
      · simp [length_spelling]
      · intro descent entered
        rw [arrives descent entered, TargetStep.arrival_of_missed found]
        exact ih emptyMapping

/-- What is the same for all hops is the same along two chains of one length. -/
theorem map_hops_congr {β : Type} {f : Step → β} (same : ∀ hop other : Hop, f (.go hop) = f (.go other))
    {hops others : List Hop} (lengths : hops.length = others.length) :
    (hops.map Step.go).map f = (others.map Step.go).map f := by
  apply List.ext_getElem
  · simpa using lengths
  · intro i _ _
    rw [List.getElem_map, List.getElem_map, List.getElem_map, List.getElem_map]
    exact same _ _

/-- A dotted text is the explicit chain in which each segment is an item or an attribute by the node that the segments in
front of it lead to in the data: an item at a mapping or a sequence and where there is no node, and an attribute at all
others. Loads through the two have the same result, whatever steps come behind them, a requirement among them. Stores
through the two have the same result and leave the same data. -/
theorem dotted_eq_spelling (data : Value) (text : String) :
    let explicit := data.spelling (Text.segments text)
    (∀ back : List Step,
      (load data ((Locator.ofPath .source text).extend back)).result =
        (load data ((Locator.ofHops .source explicit).extend back)).result) ∧
    ∀ (value : Presence) (context : Option MergeContext),
      (store data (.ofPath .target text) value context).result =
          (store data (.ofHops .target explicit) value context).result ∧
        (store data (.ofPath .target text) value context).data =
          (store data (.ofHops .target explicit) value context).data := by
  intro explicit
  have lengths : (Locator.hops text).length = explicit.length := by
    simp [Locator.hops, explicit, length_spelling]
  simp only [Locator.ofPath_eq]
  constructor
  · intro back
    refine load_result_congr ?_ ?_
    · simp only [Locator.kind_extend, Locator.kind_ofSteps, Locator.ofHops]
    · simp only [Locator.steps_extend, Locator.steps_ofSteps, Locator.ofHops, Locator.hops, follow_append, follow_hops,
        explicit, walk_spelling]
  · intro value context
    refine store_congr ?_ ?_ ?_ ?_
    · rfl
    · exact map_hops_congr (fun _ _ => rfl) lengths
    · exact map_hops_congr (fun _ _ => rfl) lengths
    · exact writeThrough_spelling context value data (Text.segments text)

/-- A number is an item of a sequence, a name behind it an attribute of the record there, and what comes behind a field
that the record lacks is called an item. -/
example :
    let data : Value := .mapping [("a", .sequence [.record "R" .closed []])]
    data.spelling (Text.segments "a.0.x.y") =
      [.item (.name "a"), .item (.name "0"), .attr "x", .item (.name "y")] := rfl

end DataLocator
