import DataLocator.Overlay
import DataLocator.Value.Address

/-! # Overlays, path by path

The entries of an overlay are found key by key (`lookup_overlayEntries`): where the layer holds a key its value is laid
over what was there, and all other keys are left. Along a path of keys the same is done at each mapping on the way, so
that what a merge leaves is known at every path of the two trees (`atKeys?_overlayOn`, `mergeInto_pathwise`).
-/

namespace DataLocator

namespace Value

/-- The incoming value laid over what is there, if anything is. -/
def overlayOn (policy : OverlayPolicy) (existing : Option Value) (incoming : Value) : Value :=
  match existing with
  | some existing => overlay policy existing incoming
  | none => incoming

/-- The node at the end of a path of keys, which leads through mappings alone. -/
def atKeys? (root : Value) (keys : List String) : Option Value := root.at? (keys.map Selector.key)

@[simp] theorem atKeys?_nil (root : Value) : root.atKeys? [] = some root := rfl

theorem atKeys?_cons (root : Value) (key : String) (rest : List String) :
    root.atKeys? (key :: rest) = (root.child? (.key key)).bind (·.atKeys? rest) := rfl

theorem atKeys?_cons_eq_some_iff {root node : Value} {key : String} {rest : List String} :
    root.atKeys? (key :: rest) = some node ↔
      ∃ child, root.child? (.key key) = some child ∧ child.atKeys? rest = some node :=
  Option.bind_eq_some_iff

theorem atKeys?_append (root : Value) (front back : List String) :
    root.atKeys? (front ++ back) = (root.atKeys? front).bind (·.atKeys? back) := by
  simp [atKeys?, at?_append]

theorem child?_key_eq_some_iff {container child : Value} {key : String} :
    container.child? (.key key) = some child ↔
      ∃ entries, container = mapping entries ∧ entries.lookup key = some child := by
  cases container <;> simp [child?]

theorem child?_key_of_ne_mapping {container : Value} (other : ∀ entries, container ≠ mapping entries) (key : String) :
    container.child? (.key key) = none := by
  cases container with
  | mapping entries => exact absurd rfl (other entries)
  | _ => rfl

theorem orderedEntries_lookup {entries : List (String × Value)} {key : String} {child : Value}
    (ordered : OrderedEntries entries) (held : entries.lookup key = some child) : child.Ordered :=
  orderedEntries_iff.1 ordered (key, child) (Entries.mem_of_lookup held)

theorem overlayEntries_cons (policy : OverlayPolicy) (entries : List (String × Value)) (key : String) (incoming : Value)
    (rest : List (String × Value)) :
    overlayEntries policy entries ((key, incoming) :: rest) =
      overlayEntries policy (Entries.insert key (overlayOn policy (entries.lookup key) incoming) entries) rest := by
  rw [overlayEntries]
  cases entries.lookup key <;> rfl

/-- What is found at a key when a layer with each key once was laid over entries. -/
theorem lookup_overlayEntries (policy : OverlayPolicy) (entries : List (String × Value))
    {layer : List (String × Value)} (ordered : Entries.Ordered layer) (key : String) :
    (overlayEntries policy entries layer).lookup key =
      match layer.lookup key with
      | some incoming => some (overlayOn policy (entries.lookup key) incoming)
      | none => entries.lookup key := by
  induction layer generalizing entries with
  | nil => simp [overlayEntries]
  | cons pair rest ih =>
    obtain ⟨name, incoming⟩ := pair
    rw [overlayEntries_cons, ih _ ordered.tail, Entries.lookup_cons]
    by_cases same : key = name
    · subst same
      rw [ordered.lookup_tail, if_pos rfl]
      exact Entries.lookup_insert_self ..
    · rw [if_neg same, Entries.lookup_insert_of_ne same]

theorem ordered_overlayEntries (policy : OverlayPolicy) {entries : List (String × Value)}
    (ordered : Entries.Ordered entries) (layer : List (String × Value)) :
    Entries.Ordered (overlayEntries policy entries layer) := by
  induction layer generalizing entries with
  | nil => exact ordered
  | cons pair rest ih =>
    rw [overlayEntries_cons]
    exact ih (ordered.insert _ _)

theorem overlay_mapping (policy : OverlayPolicy) (entries layer : List (String × Value)) :
    overlay policy (mapping entries) (mapping layer) = mapping (overlayEntries policy entries layer) := rfl

end Value

open Value

/-- What a merge leaves in place of an incoming value: a mapping where two meet, one sequence behind the other where two
meet and are concatenated, and the incoming value in all other cases. -/
def Settled (strategy : SequenceStrategy) (existing : Option Value) (incoming left : Value) : Prop :=
  match strategy, existing, incoming with
  | _, some (.mapping _), .mapping _ => ∃ entries, left = .mapping entries
  | .concatenate, some (.sequence items), .sequence extra => left = .sequence (items ++ extra)
  | _, _, _ => left = incoming

/-- A value that is not a mapping stands on the path, in front of its end. -/
def Value.Blocks (root : Value) (path : List String) : Prop :=
  ∃ front key back node, path = front ++ key :: back ∧ root.atKeys? front = some node ∧
    ∀ entries, node ≠ .mapping entries

/-- A mapping on the path lacks the next key. -/
def Value.Lacks (root : Value) (path : List String) : Prop :=
  ∃ front key back entries, path = front ++ key :: back ∧ root.atKeys? front = some (.mapping entries) ∧
    entries.lookup key = none

section Merge

variable {context : MergeContext}

theorem settled_overlayOn (context : MergeContext) (existing : Option Value) (incoming : Value) :
    Settled context.sequences existing incoming (overlayOn context.policy existing incoming) := by
  obtain ⟨strategy⟩ := context
  cases existing with
  | none => cases strategy <;> rfl
  | some existing =>
    cases strategy <;> cases incoming <;> cases existing <;> first | rfl | exact ⟨_, rfl⟩

/-- A value that is laid over another is a mapping only if it was one. -/
theorem overlayOn_ne_mapping {incoming : Value} (other : ∀ entries, incoming ≠ .mapping entries)
    (existing : Option Value) (entries : List (String × Value)) :
    overlayOn context.policy existing incoming ≠ .mapping entries := by
  obtain ⟨strategy⟩ := context
  cases existing with
  | none => exact other entries
  | some existing =>
    cases incoming with
    | mapping layer => exact absurd rfl (other layer)
    | _ => cases strategy <;> cases existing <;> simp [overlayOn, overlay, OverlayPolicy.settle, MergeContext.policy]

/-- Where it meets no mapping, an incoming mapping is what stays. -/
theorem overlayOn_of_ne_mapping {existing : Option Value} (other : ∀ entries, existing ≠ some (.mapping entries))
    (layer : List (String × Value)) : overlayOn context.policy existing (.mapping layer) = .mapping layer := by
  obtain ⟨strategy⟩ := context
  cases existing with
  | none => rfl
  | some existing =>
    cases existing with
    | mapping entries => exact absurd rfl (other entries)
    | _ => cases strategy <;> rfl

/-- The children of a mapping that was laid over something. -/
theorem child?_overlayOn (existing : Option Value) {layer : List (String × Value)} (ordered : Entries.Ordered layer)
    (key : String) :
    (overlayOn context.policy existing (.mapping layer)).child? (.key key) =
      match layer.lookup key with
      | some incoming => some (overlayOn context.policy (existing.bind (·.child? (.key key))) incoming)
      | none => existing.bind (·.child? (.key key)) := by
  by_cases meets : ∃ entries, existing = some (.mapping entries)
  · obtain ⟨entries, rfl⟩ := meets
    exact lookup_overlayEntries context.policy entries ordered key
  · have other : ∀ entries, existing ≠ some (.mapping entries) := fun entries same => meets ⟨entries, same⟩
    have nothing : existing.bind (·.child? (.key key)) = none := by
      cases existing with
      | none => rfl
      | some existing => exact child?_key_of_ne_mapping (fun entries same => other entries (same ▸ rfl)) key
    rw [nothing, overlayOn_of_ne_mapping other]
    change layer.lookup key = _
    cases layer.lookup key <;> rfl

/-- At the end of a path the incoming value lies over what was there. -/
theorem atKeys?_overlayOn {incoming node : Value} {path : List String} (ordered : incoming.Ordered)
    (found : incoming.atKeys? path = some node) (existing : Option Value) :
    (overlayOn context.policy existing incoming).atKeys? path =
      some (overlayOn context.policy (existing.bind (·.atKeys? path)) node) := by
  induction path generalizing incoming existing with
  | nil =>
    obtain rfl := Option.some.inj found
    simp
  | cons key rest ih =>
    obtain ⟨child, held, below⟩ := atKeys?_cons_eq_some_iff.1 found
    obtain ⟨layer, rfl, there⟩ := child?_key_eq_some_iff.1 held
    rw [Value.Ordered] at ordered
    rw [atKeys?_cons, child?_overlayOn existing ordered.1, there]
    change (overlayOn _ _ child).atKeys? rest = _
    rw [ih (orderedEntries_lookup ordered.2 there) below, Option.bind_assoc]
    rfl

/-- Behind a value of the layer that is not a mapping nothing is found. -/
theorem atKeys?_overlayOn_of_blocks {incoming : Value} {path : List String} (ordered : incoming.Ordered)
    (blocks : incoming.Blocks path) (existing : Option Value) :
    (overlayOn context.policy existing incoming).atKeys? path = none := by
  obtain ⟨front, key, back, node, rfl, found, other⟩ := blocks
  rw [atKeys?_append, atKeys?_overlayOn ordered found, Option.bind_some, atKeys?_cons,
    child?_key_of_ne_mapping (overlayOn_ne_mapping other _)]
  rfl

theorem ordered_atKeys? {root node : Value} {path : List String} (ordered : root.Ordered)
    (found : root.atKeys? path = some node) : node.Ordered := by
  induction path generalizing root with
  | nil => exact Option.some.inj found ▸ ordered
  | cons key rest ih =>
    obtain ⟨child, held, below⟩ := atKeys?_cons_eq_some_iff.1 found
    obtain ⟨entries, rfl, there⟩ := child?_key_eq_some_iff.1 held
    rw [Value.Ordered] at ordered
    exact ih (orderedEntries_lookup ordered.2 there) below

/-- Behind a key that the layer lacks all is as it was. -/
theorem atKeys?_overlayOn_of_lacks {incoming : Value} {path : List String} (ordered : incoming.Ordered)
    (lacks : incoming.Lacks path) (existing : Option Value) :
    (overlayOn context.policy existing incoming).atKeys? path = existing.bind (·.atKeys? path) := by
  obtain ⟨front, key, back, layer, rfl, found, missing⟩ := lacks
  have keysOrdered := ordered_atKeys? ordered found
  rw [Value.Ordered] at keysOrdered
  rw [atKeys?_append, atKeys?_overlayOn ordered found, Option.bind_some, atKeys?_cons,
    child?_overlayOn _ keysOrdered.1, missing]
  simp only [Option.bind_assoc, atKeys?_append, atKeys?_cons]

end Merge

/-- Where nothing is found along a path of keys, a value that is not a mapping stands in its way or a key is missing. -/
theorem blocks_or_lacks {root : Value} {path : List String} (nothing : root.atKeys? path = none) :
    root.Blocks path ∨ root.Lacks path := by
  induction path generalizing root with
  | nil => contradiction
  | cons key rest ih =>
    by_cases isMapping : ∃ entries, root = .mapping entries
    · obtain ⟨entries, rfl⟩ := isMapping
      cases held : entries.lookup key with
      | none => exact .inr ⟨[], key, rest, entries, rfl, rfl, held⟩
      | some child =>
        have step (front : List String) : (Value.mapping entries).atKeys? (key :: front) = child.atKeys? front := by
          rw [atKeys?_cons, child?, held, Option.bind_some]
        rcases ih ((step rest).symm.trans nothing) with
          ⟨front, next, back, node, rfl, found, other⟩ | ⟨front, next, back, inner, rfl, found, missing⟩
        · exact .inl ⟨key :: front, next, back, node, rfl, (step front).trans found, other⟩
        · exact .inr ⟨key :: front, next, back, inner, rfl, (step front).trans found, missing⟩
    · exact .inl ⟨[], key, rest, root, rfl, rfl, fun entries same => isMapping ⟨entries, same⟩⟩

/-- A merge of two mappings is known at every path of keys: where the incoming mapping holds a value it is settled with
what was there, behind one of its other values there is nothing, and behind a key that it lacks all is as it was. A
merge of anything else fails and leaves the data alone, and that the incoming value is no mapping is found first. -/
theorem mergeInto_pathwise (context : MergeContext) (existing incoming : Value) :
    let merged := mergeInto context existing incoming
    (∀ entries layer, existing = .mapping entries → incoming = .mapping layer → incoming.Ordered →
      merged.result = .ok () ∧ (∃ left, merged.data = .mapping left) ∧
        ∀ path : List String,
          (∀ value, incoming.atKeys? path = some value →
            ∃ left, merged.data.atKeys? path = some left ∧
              Settled context.sequences (existing.atKeys? path) value left) ∧
          (incoming.Blocks path → merged.data.atKeys? path = none) ∧
          (incoming.Lacks path → merged.data.atKeys? path = existing.atKeys? path) ∧
          (incoming.atKeys? path = none → incoming.Blocks path ∨ incoming.Lacks path)) ∧
    ((∀ layer, incoming ≠ .mapping layer) →
      merged.data = existing ∧ merged.result = .error (.invalid (.mergeValue incoming.typeName))) ∧
    ((∃ layer, incoming = .mapping layer) → (∀ entries, existing ≠ .mapping entries) →
      merged.data = existing ∧ merged.result = .error (.mergeConflict existing.typeName)) := by
  intro merged
  refine ⟨?_, ?_, ?_⟩
  · rintro entries layer rfl rfl ordered
    have laid : merged.data = overlayOn context.policy (some (.mapping entries)) (.mapping layer) := rfl
    refine ⟨rfl, ⟨_, rfl⟩, fun path => ⟨fun value found => ?_, fun blocks => ?_, fun lacks => ?_, blocks_or_lacks⟩⟩
    · refine ⟨_, ?_, settled_overlayOn context _ value⟩
      rw [laid]
      exact atKeys?_overlayOn ordered found _
    · rw [laid]
      exact atKeys?_overlayOn_of_blocks ordered blocks _
    · rw [laid]
      exact atKeys?_overlayOn_of_lacks ordered lacks _
  · intro other
    cases incoming with
    | mapping layer => exact absurd rfl (other layer)
    | _ => exact ⟨rfl, rfl⟩
  · rintro ⟨layer, rfl⟩ other
    cases existing with
    | mapping entries => exact absurd rfl (other entries)
    | _ => exact ⟨rfl, rfl⟩

/-- Sequences are put end to end two keys deep, and a key beside them that the incoming mapping lacks keeps its
value. -/
theorem mergeInto_pathwise_concatenated :
    let context : MergeContext := { sequences := .concatenate }
    let existing : Value := .mapping [("a", .mapping [("k", .sequence [.null]), ("l", .null)])]
    let incoming : Value := .mapping [("a", .mapping [("k", .sequence [.bool true])])]
    let merged := mergeInto context existing incoming
    incoming.Ordered ∧ merged.result = .ok () ∧ merged.data.atKeys? ["a", "k"] = some (.sequence [.null, .bool true]) ∧
      merged.data.atKeys? ["a", "l"] = existing.atKeys? ["a", "l"] := by
  intro context existing incoming merged
  have ordered : incoming.Ordered := by simp [incoming, Ordered, OrderedEntries, OrderedItems, Entries.Ordered]
  obtain ⟨succeeds, -, paths⟩ := (mergeInto_pathwise context existing incoming).1 _ _ rfl rfl ordered
  obtain ⟨left, found, settled⟩ := (paths ["a", "k"]).1 (.sequence [.bool true]) rfl
  have joined : left = .sequence [.null, .bool true] := settled
  have lacks : incoming.Lacks ["a", "l"] := ⟨["a"], "l", [], _, rfl, rfl, rfl⟩
  exact ⟨ordered, succeeds, joined ▸ found, (paths ["a", "l"]).2.2.1 lacks⟩

end DataLocator
