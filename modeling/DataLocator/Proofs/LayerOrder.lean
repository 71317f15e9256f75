import DataLocator.Proofs.Layering

/-! # Layers laid again, and in another order

A mapping that is laid over a place is laid over entries: over those of the mapping that is there, and over none where
there is anything else (`overlayOn_mapping`). So what it leaves is known key by key whatever was there, and two laws
follow by induction on the layer. Where sequences are replaced, a layer that is laid once more changes nothing
(`overlay_overlayOn`). Layers that agree wherever both hold something can be laid in either order (`overlay_comm`), over
values of any kind, and also where sequences are put end to end.
-/

namespace DataLocator

open Value

/-- Wherever both layers hold a value, they hold two mappings, or one and the same value that is no mapping. -/
def Agree (first second : Value) : Prop :=
  ∀ path value other, first.atKeys? path = some value → second.atKeys? path = some other →
    (∃ entries layer, value = .mapping entries ∧ other = .mapping layer) ∨
      value = other ∧ ∀ entries, value ≠ .mapping entries

namespace Value

theorem mapping_or_leaf (value : Value) :
    (∃ entries, value = mapping entries) ∨ ∀ entries, value ≠ mapping entries := by
  cases value <;> simp

/-- Along keys, nothing is found in a value that is no mapping but the value itself. -/
theorem eq_of_atKeys?_leaf {value node : Value} {path : List String} (leaf : ∀ entries, value ≠ mapping entries)
    (found : value.atKeys? path = some node) : path = [] ∧ value = node := by
  cases path with
  | nil => exact ⟨rfl, Option.some.inj found⟩
  | cons key rest =>
    rw [atKeys?_cons, child?_key_of_ne_mapping leaf] at found
    contradiction

/-- The entries that a mapping is laid over. -/
def underlying : Option Value → List (String × Value)
  | some (mapping entries) => entries
  | _ => []

section Underlying

variable {context : MergeContext} {existing : Option Value} {entries layer other : List (String × Value)}

theorem ordered_underlying (ordered : ∀ value ∈ existing, value.Ordered) :
    (mapping (underlying existing)).Ordered := by
  have nilOrdered : (mapping []).Ordered := by decide
  cases existing with
  | none => exact nilOrdered
  | some value =>
    cases value with
    | mapping entries => exact ordered _ rfl
    | _ => exact nilOrdered

theorem overlayOn_mapping (existing : Option Value) (ordered : Entries.Ordered layer) :
    overlayOn context.policy existing (mapping layer) =
      mapping (overlayEntries context.policy (underlying existing) layer) := by
  have overNothing := overlayEntries_nil_left context.policy ordered
  cases existing with
  | none => exact congrArg mapping overNothing.symm
  | some value =>
    cases value with
    | mapping entries => rfl
    | _ => exact (overlayOn_of_ne_mapping (by simp) layer).trans (congrArg mapping overNothing.symm)

/-- A layer has nothing to change in entries that absorb each of its values. -/
theorem overlayEntries_of_absorbed {policy : OverlayPolicy}
    (absorbed : ∀ pair ∈ layer, ∃ old, entries.lookup pair.1 = some old ∧ overlay policy old pair.2 = old) :
    overlayEntries policy entries layer = entries := by
  induction layer with
  | nil => rfl
  | cons pair rest ih =>
    rw [List.forall_mem_cons] at absorbed
    obtain ⟨old, held, same⟩ := absorbed.1
    have stays : overlayOn policy (entries.lookup pair.1) pair.2 = old := by rw [held]; exact same
    rw [overlayEntries_cons, stays, Entries.insert_of_lookup held]
    exact ih absorbed.2

/-- Where sequences are replaced, a value that is no mapping takes the place of whatever is there. -/
theorem overlayOn_leaf {incoming : Value} (replaces : context.sequences = .replace)
    (leaf : ∀ entries, incoming ≠ mapping entries) (existing : Option Value) :
    overlayOn context.policy existing incoming = incoming := by
  cases existing with
  | none => rfl
  | some value =>
    apply overlay_of_not_combines
    rw [combines_iff, replaces]
    rintro (⟨entries, layer, -, same⟩ | ⟨concatenates, -⟩)
    · exact leaf layer same
    · contradiction

/-- Where sequences are replaced, a value that was laid over anything changes nothing when it is laid once more. -/
theorem overlay_overlayOn {incoming : Value} (replaces : context.sequences = .replace) (ordered : incoming.Ordered)
    (existing : Option Value) :
    overlay context.policy (overlayOn context.policy existing incoming) incoming =
      overlayOn context.policy existing incoming := by
  -- What the first time leaves at a key is again something that was laid over anything, so the place is generalised.
  induction incoming using keys_induction generalizing existing with
  | step incoming ih =>
    rcases mapping_or_leaf incoming with ⟨layer, rfl⟩ | leaf
    · rw [Value.Ordered] at ordered
      rw [overlayOn_mapping existing ordered.1, overlay_mapping]
      apply congrArg mapping
      apply overlayEntries_of_absorbed
      intro pair member
      have held := ordered.1.lookup_of_mem member
      refine ⟨overlayOn context.policy ((underlying existing).lookup pair.1) pair.2, ?_, ?_⟩
      · rw [lookup_overlayEntries _ _ ordered.1, held]
      · exact ih pair.1 pair.2 held (orderedEntries_lookup ordered.2 held) _
    · exact (overlayOn_leaf replaces leaf (some _)).trans (overlayOn_leaf replaces leaf existing).symm

theorem agree_mapping_iff : Agree (mapping layer) (mapping other) ↔
    ∀ key value extra, layer.lookup key = some value → other.lookup key = some extra → Agree value extra := by
  constructor
  · intro agree key value extra held also path inner outer found reached
    apply agree (key :: path)
    · exact atKeys?_cons_eq_some_iff.2 ⟨value, held, found⟩
    · exact atKeys?_cons_eq_some_iff.2 ⟨extra, also, reached⟩
  · intro agree path value extra found reached
    cases path with
    | nil =>
      obtain rfl := Option.some.inj found
      obtain rfl := Option.some.inj reached
      exact .inl ⟨layer, other, rfl, rfl⟩
    | cons key rest =>
      obtain ⟨child, held, below⟩ := atKeys?_cons_eq_some_iff.1 found
      obtain ⟨beside, also, behind⟩ := atKeys?_cons_eq_some_iff.1 reached
      exact agree key child beside held also rest value extra below behind

/-- A value that is no mapping agrees with itself. -/
theorem agree_self {value : Value} (leaf : ∀ entries, value ≠ mapping entries) : Agree value value := by
  intro path inner outer found reached
  obtain ⟨-, rfl⟩ := eq_of_atKeys?_leaf leaf found
  obtain ⟨-, rfl⟩ := eq_of_atKeys?_leaf leaf reached
  exact .inr ⟨rfl, leaf⟩

/-- Entries over which two layers are laid in one order or in the other. -/
theorem overlayEntries_comm {policy : OverlayPolicy} (entriesOrdered : Entries.Ordered entries)
    (layerOrdered : Entries.Ordered layer) (otherOrdered : Entries.Ordered other)
    (comm : ∀ key value extra, layer.lookup key = some value → other.lookup key = some extra →
      overlay policy (overlayOn policy (entries.lookup key) value) extra =
        overlay policy (overlayOn policy (entries.lookup key) extra) value) :
    overlayEntries policy (overlayEntries policy entries layer) other =
      overlayEntries policy (overlayEntries policy entries other) layer := by
  have layerFirst := ordered_overlayEntries policy (ordered_overlayEntries policy entriesOrdered layer) other
  have otherFirst := ordered_overlayEntries policy (ordered_overlayEntries policy entriesOrdered other) layer
  apply layerFirst.ext otherFirst
  intro key
  simp only [lookup_overlayEntries policy _ layerOrdered, lookup_overlayEntries policy _ otherOrdered]
  cases held : layer.lookup key with
  | none => cases other.lookup key <;> rfl
  | some value =>
    cases also : other.lookup key with
    | none => rfl
    | some extra => exact congrArg some (comm key value extra held also)

/-- Layers that agree can be laid over anything in either order. -/
theorem overlay_comm {first second : Value} (agree : Agree first second) (firstOrdered : first.Ordered)
    (secondOrdered : second.Ordered) (existingOrdered : ∀ value ∈ existing, value.Ordered) :
    overlay context.policy (overlayOn context.policy existing first) second =
      overlay context.policy (overlayOn context.policy existing second) first := by
  induction first using keys_induction generalizing second existing with
  | step first ih =>
    rcases agree [] first second rfl rfl with ⟨layer, other, rfl, rfl⟩ | ⟨rfl, -⟩
    · have underOrdered := ordered_underlying existingOrdered
      rw [Value.Ordered] at firstOrdered secondOrdered underOrdered
      rw [overlayOn_mapping existing firstOrdered.1, overlayOn_mapping existing secondOrdered.1, overlay_mapping,
        overlay_mapping]
      apply congrArg mapping
      apply overlayEntries_comm underOrdered.1 firstOrdered.1 secondOrdered.1
      intro key value extra held also
      apply ih key value held (agree_mapping_iff.1 agree key value extra held also)
      · exact orderedEntries_lookup firstOrdered.2 held
      · exact orderedEntries_lookup secondOrdered.2 also
      · exact fun old member => orderedEntries_lookup underOrdered.2 member
    · rfl

end Underlying

end Value

/-- Where sequences are replaced, a layer that was merged changes nothing when it is merged again, and a mapping that is
merged into itself stays as it is. -/
theorem mergeInto_again :
    let context : MergeContext := { sequences := .replace }
    (∀ entries layer : List (String × Value), (Value.mapping layer).Ordered →
      let once := mergeInto context (.mapping entries) (.mapping layer)
      let again := mergeInto context once.data (.mapping layer)
      once.result = .ok () ∧ again.result = .ok () ∧ again.data = once.data) ∧
    ∀ entries : List (String × Value), (Value.mapping entries).Ordered →
      let itself := mergeInto context (.mapping entries) (.mapping entries)
      itself.result = .ok () ∧ itself.data = .mapping entries := by
  intro context
  constructor
  · intro entries layer ordered once again
    refine ⟨rfl, rfl, ?_⟩
    exact overlay_overlayOn rfl ordered (some (.mapping entries))
  · intro entries ordered itself
    refine ⟨rfl, ?_⟩
    exact overlay_overlayOn rfl ordered none

/-- Sequences that are put end to end grow each time. -/
example :
    let context : MergeContext := { sequences := .concatenate }
    let layer : Value := .mapping [("a", .sequence [.null])]
    (mergeInto context layer layer).data = .mapping [("a", .sequence [.null, .null])] := rfl

/-- A layer that replaces a mapping by a sequence and a null by a mapping is merged twice. -/
theorem mergeInto_again_conflicting :
    let context : MergeContext := { sequences := .replace }
    let entries := [("a", Value.mapping [("k", .bool true)]), ("b", .mapping [("l", .null), ("m", .bool false)])]
    let layer := [("a", Value.sequence [.null]), ("b", .mapping [("l", .mapping [("n", .null)])])]
    let once := mergeInto context (.mapping entries) (.mapping layer)
    let again := mergeInto context once.data (.mapping layer)
    (Value.mapping layer).Ordered ∧
      once.data = .mapping [("a", .sequence [.null]),
        ("b", .mapping [("l", .mapping [("n", .null)]), ("m", .bool false)])] ∧
      again.data = once.data ∧ (mergeInto context (.mapping layer) (.mapping layer)).data = .mapping layer := by
  intro context entries layer once again
  have ordered : (Value.mapping layer).Ordered := by
    unfold layer
    decide
  obtain ⟨layers, selves⟩ := mergeInto_again
  exact ⟨ordered, rfl, (layers entries layer ordered).2.2, (selves layer ordered).2⟩

/-- Layers that agree wherever both hold something leave the same when they are merged in either order. -/
theorem mergeInto_comm (context : MergeContext) {entries layer other : List (String × Value)}
    (entriesOrdered : (Value.mapping entries).Ordered) (layerOrdered : (Value.mapping layer).Ordered)
    (otherOrdered : (Value.mapping other).Ordered) (agree : Agree (.mapping layer) (.mapping other)) :
    let first := mergeInto context (.mapping entries) (.mapping layer)
    let layerFirst := mergeInto context first.data (.mapping other)
    let second := mergeInto context (.mapping entries) (.mapping other)
    let otherFirst := mergeInto context second.data (.mapping layer)
    first.result = .ok () ∧ layerFirst.result = .ok () ∧ second.result = .ok () ∧ otherFirst.result = .ok () ∧
      layerFirst.data = otherFirst.data := by
  intro first layerFirst second otherFirst
  refine ⟨rfl, rfl, rfl, rfl, ?_⟩
  have existingOrdered : ∀ value ∈ some (Value.mapping entries), value.Ordered := by
    intro value member
    obtain rfl := Option.some.inj member
    exact entriesOrdered
  exact overlay_comm agree layerOrdered otherOrdered existingOrdered

private theorem agree_singleton {name : String} {value extra : Value} {other : List (String × Value)}
    (also : other.lookup name = some extra) (agree : Agree value extra) :
    Agree (.mapping [(name, value)]) (.mapping other) := by
  rw [agree_mapping_iff]
  intro key inner outer held found
  rw [Entries.lookup_cons] at held
  split at held
  · next same =>
    obtain rfl : key = name := same
    obtain rfl := Option.some.inj held
    obtain rfl := Option.some.inj (also.symm.trans found)
    exact agree
  · contradiction

/-- Two layers that share a sequence below a key, where the lower mapping holds a boolean at that key. -/
theorem mergeInto_comm_concatenated :
    let context : MergeContext := { sequences := .concatenate }
    let entries := [("a", Value.bool true)]
    let layer := [("a", Value.mapping [("k", .sequence [.null])])]
    let other := [("a", Value.mapping [("k", .sequence [.null]), ("l", .bool false)]), ("b", .null)]
    let layerFirst := mergeInto context (mergeInto context (.mapping entries) (.mapping layer)).data (.mapping other)
    let otherFirst := mergeInto context (mergeInto context (.mapping entries) (.mapping other)).data (.mapping layer)
    Agree (.mapping layer) (.mapping other) ∧
      layerFirst.data = .mapping
        [("a", .mapping [("k", .sequence [.null, .null]), ("l", .bool false)]), ("b", .null)] ∧
      layerFirst.data = otherFirst.data := by
  intro context entries layer other layerFirst otherFirst
  have entriesOrdered : (Value.mapping entries).Ordered := by
    unfold entries
    decide
  have layerOrdered : (Value.mapping layer).Ordered := by
    unfold layer
    decide
  have otherOrdered : (Value.mapping other).Ordered := by
    unfold other
    decide
  have agree : Agree (.mapping layer) (.mapping other) := by
    apply agree_singleton rfl
    apply agree_singleton rfl
    exact agree_self (by simp)
  obtain ⟨-, -, -, -, same⟩ := mergeInto_comm context entriesOrdered layerOrdered otherOrdered agree
  exact ⟨agree, rfl, same⟩

end DataLocator
