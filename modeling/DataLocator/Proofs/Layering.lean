import DataLocator.Proofs.Overlay

/-! # Layers

Of three layers the upper two may be merged first: the result is that of laying one over the other from below
(`overlay_assoc`). The one thing that forbids it is a value of the middle layer between two that would be combined
without it (`Separates`), since on the way up it takes the place of the lower one, and merged first it is replaced.
The laws ask for keys in order, and what a merge leaves has them in order again, so that any number of layers can follow.
-/

namespace DataLocator

open Value

/-- Two values at one place are combined, rather than one put in place of the other. -/
def SequenceStrategy.Combines : SequenceStrategy → Value → Value → Prop
  | _, .mapping _, .mapping _ => True
  | .concatenate, .sequence _, .sequence _ => True
  | _, _, _ => False

/-- At some path the lower and the upper layer hold values that would be combined, and the middle one holds a value of
another kind. -/
def Separates (strategy : SequenceStrategy) (lower middle upper : Value) : Prop :=
  ∃ path low mid up, lower.atKeys? path = some low ∧ middle.atKeys? path = some mid ∧ upper.atKeys? path = some up ∧
    strategy.Combines low up ∧ ¬ strategy.Combines low mid

theorem Value.sizeOf_lt_of_lookup {entries : List (String × Value)} {key : String} {child : Value}
    (held : entries.lookup key = some child) : sizeOf child < sizeOf (mapping entries) := by
  have inside := Entries.sizeOf_lt_of_mem (Entries.mem_of_lookup held)
  simp only [mapping.sizeOf_spec] at inside ⊢
  omega

/-- What holds of a value if it holds of all values at its keys holds of every value. -/
@[elab_as_elim]
theorem Value.keys_induction {motive : Value → Prop}
    (step : ∀ value, (∀ key child, value.child? (.key key) = some child → motive child) → motive value)
    (value : Value) : motive value :=
  step value fun _ child _ => keys_induction step child
termination_by sizeOf value
decreasing_by
  rename_i held
  obtain ⟨entries, rfl, there⟩ := child?_key_eq_some_iff.1 held
  exact sizeOf_lt_of_lookup there

section Combines

variable {strategy : SequenceStrategy} {context : MergeContext} {first second third : Value}

theorem combines_iff :
    strategy.Combines first second ↔
      (∃ entries layer, first = .mapping entries ∧ second = .mapping layer) ∨
        strategy = .concatenate ∧ ∃ items extra, first = .sequence items ∧ second = .sequence extra := by
  cases strategy <;> cases first <;> cases second <;> simp [SequenceStrategy.Combines]

theorem combines_symm (both : strategy.Combines first second) : strategy.Combines second first := by
  rw [combines_iff] at both ⊢
  grind

theorem combines_trans (lower : strategy.Combines first second) (upper : strategy.Combines second third) :
    strategy.Combines first third := by
  rw [combines_iff] at lower upper ⊢
  grind

theorem overlay_of_not_combines (apart : ¬ context.sequences.Combines first second) :
    overlay context.policy first second = second := by
  obtain ⟨strategy⟩ := context
  cases strategy <;> cases second <;> cases first <;> first | rfl | exact absurd trivial apart

theorem overlay_sequence (concatenates : context.sequences = .concatenate) (items extra : List Value) :
    overlay context.policy (.sequence items) (.sequence extra) = .sequence (items ++ extra) := by
  obtain ⟨_⟩ := context
  subst concatenates
  rfl

/-- An overlay is of the kind of its upper value. -/
theorem combines_overlay_iff :
    strategy.Combines (overlay context.policy first second) third ↔ strategy.Combines second third := by
  by_cases both : context.sequences.Combines first second
  · rcases combines_iff.1 both with ⟨entries, layer, rfl, rfl⟩ | ⟨concatenates, items, extra, rfl, rfl⟩
    · simp [overlay_mapping, combines_iff]
    · simp [overlay_sequence concatenates, combines_iff]
  · rw [overlay_of_not_combines both]

end Combines

theorem Separates.of_child {strategy : SequenceStrategy} {lower middle upper low mid up : Value} {key : String}
    (separates : Separates strategy low mid up) (lowHeld : lower.child? (.key key) = some low)
    (midHeld : middle.child? (.key key) = some mid) (upHeld : upper.child? (.key key) = some up) :
    Separates strategy lower middle upper := by
  obtain ⟨path, lowest, middling, uppest, lowAt, midAt, upAt, apart⟩ := separates
  refine ⟨key :: path, lowest, middling, uppest, ?_, ?_, ?_, apart⟩
  · rw [atKeys?_cons, lowHeld, Option.bind_some, lowAt]
  · rw [atKeys?_cons, midHeld, Option.bind_some, midAt]
  · rw [atKeys?_cons, upHeld, Option.bind_some, upAt]

/-- Entries over which two layers are laid, one after the other or merged first. -/
theorem overlayEntries_assoc {policy : OverlayPolicy} {entries layer above : List (String × Value)}
    (entriesOrdered : Entries.Ordered entries) (layerOrdered : Entries.Ordered layer)
    (aboveOrdered : Entries.Ordered above)
    (assoc : ∀ key low mid up, entries.lookup key = some low → layer.lookup key = some mid →
      above.lookup key = some up →
        overlay policy (overlay policy low mid) up = overlay policy low (overlay policy mid up)) :
    overlayEntries policy (overlayEntries policy entries layer) above =
      overlayEntries policy entries (overlayEntries policy layer above) := by
  have premergedOrdered := ordered_overlayEntries policy layerOrdered above
  have layeredOrdered := ordered_overlayEntries policy (ordered_overlayEntries policy entriesOrdered layer) above
  refine layeredOrdered.ext (ordered_overlayEntries policy entriesOrdered _) fun key => ?_
  simp only [lookup_overlayEntries policy _ aboveOrdered, lookup_overlayEntries policy _ layerOrdered,
    lookup_overlayEntries policy _ premergedOrdered]
  cases upper : above.lookup key with
  | none => cases layer.lookup key <;> rfl
  | some up =>
    cases middle : layer.lookup key with
    | none => rfl
    | some mid =>
      cases lower : entries.lookup key with
      | none => rfl
      | some low => exact congrArg some (assoc key low mid up lower middle upper)

/-- Laying a middle and then an upper layer over a lower one is laying the two, merged first, over it, where the middle
one separates nothing. -/
theorem overlay_assoc {context : MergeContext} {lower middle upper : Value} (lowerOrdered : lower.Ordered)
    (middleOrdered : middle.Ordered) (upperOrdered : upper.Ordered)
    (joins : ¬ Separates context.sequences lower middle upper) :
    overlay context.policy (overlay context.policy lower middle) upper =
      overlay context.policy lower (overlay context.policy middle upper) := by
  induction lower using keys_induction generalizing middle upper with
  | step lower ih =>
    by_cases above : context.sequences.Combines middle upper
    · by_cases below : context.sequences.Combines lower middle
      · rcases combines_iff.1 below with ⟨bottom, layer, rfl, rfl⟩ | ⟨concatenates, items, extra, rfl, rfl⟩
        · obtain ⟨top, rfl⟩ : ∃ top, upper = .mapping top := by simpa [combines_iff] using above
          simp only [overlay_mapping]
          rw [Value.Ordered] at lowerOrdered middleOrdered upperOrdered
          rw [overlayEntries_assoc lowerOrdered.1 middleOrdered.1 upperOrdered.1]
          intro key low mid up lowHeld midHeld upHeld
          refine ih key low lowHeld (orderedEntries_lookup lowerOrdered.2 lowHeld)
            (orderedEntries_lookup middleOrdered.2 midHeld) (orderedEntries_lookup upperOrdered.2 upHeld) ?_
          exact fun separates => joins (separates.of_child lowHeld midHeld upHeld)
        · obtain ⟨more, rfl⟩ : ∃ more, upper = .sequence more := by
            simpa [combines_iff, concatenates] using above
          simp only [overlay_sequence concatenates, List.append_assoc]
      · -- The lower value differs in kind from the middle one, hence from what the upper two make together.
        have apart : ¬ context.sequences.Combines lower (overlay context.policy middle upper) := by
          intro both
          have upperLower := combines_overlay_iff.1 (combines_symm both)
          exact below (combines_symm (combines_trans above upperLower))
        rw [overlay_of_not_combines below, overlay_of_not_combines apart]
    · -- The upper value prevails over the middle one, and over the lower one as well.
      have apart : ¬ context.sequences.Combines lower upper := by
        intro both
        by_cases below : context.sequences.Combines lower middle
        · exact above (combines_trans (combines_symm below) both)
        · exact joins ⟨[], lower, middle, upper, rfl, rfl, rfl, both, below⟩
      have prevails : ¬ context.sequences.Combines (overlay context.policy lower middle) upper :=
        fun both => above (combines_overlay_iff.1 both)
      rw [overlay_of_not_combines above, overlay_of_not_combines apart, overlay_of_not_combines prevails]

theorem overlayEntries_nil_left (policy : OverlayPolicy) {layer : List (String × Value)}
    (ordered : Entries.Ordered layer) : overlayEntries policy [] layer = layer := by
  have nilOrdered : Entries.Ordered ([] : List (String × Value)) := List.Pairwise.nil
  refine (ordered_overlayEntries policy nilOrdered layer).ext ordered fun key => ?_
  rw [lookup_overlayEntries policy [] ordered]
  cases layer.lookup key <;> rfl

/-- Merging a middle mapping into a lower one and then an upper one into the result leaves what merging the upper one
into the middle one first leaves, unless the middle one separates the others. To merge an empty mapping, or to merge
into one, changes nothing. -/
theorem mergeInto_layers (context : MergeContext) :
    (∀ lower middle upper : List (String × Value),
      (Value.mapping lower).Ordered → (Value.mapping middle).Ordered → (Value.mapping upper).Ordered →
      ¬ Separates context.sequences (.mapping lower) (.mapping middle) (.mapping upper) →
      let once := mergeInto context (.mapping lower) (.mapping middle)
      let layered := mergeInto context once.data (.mapping upper)
      let above := mergeInto context (.mapping middle) (.mapping upper)
      let premerged := mergeInto context (.mapping lower) above.data
      once.result = .ok () ∧ layered.result = .ok () ∧ above.result = .ok () ∧ premerged.result = .ok () ∧
        layered.data = premerged.data) ∧
    ∀ entries : List (String × Value), (Value.mapping entries).Ordered →
      let onto := mergeInto context (.mapping entries) emptyMapping
      let under := mergeInto context emptyMapping (.mapping entries)
      onto.result = .ok () ∧ onto.data = .mapping entries ∧ under.result = .ok () ∧ under.data = .mapping entries := by
  constructor
  · intro lower middle upper lowerOrdered middleOrdered upperOrdered joins once layered above premerged
    refine ⟨rfl, rfl, rfl, rfl, ?_⟩
    exact overlay_assoc lowerOrdered middleOrdered upperOrdered joins
  · intro entries ordered onto under
    rw [Value.Ordered] at ordered
    refine ⟨rfl, rfl, rfl, ?_⟩
    exact congrArg Value.mapping (overlayEntries_nil_left context.policy ordered.1)

/-- A null in the middle separates two mappings: it takes the place of the lower one, and merged first it is gone. -/
example :
    let lower : Value := .mapping [("a", .mapping [("k", .bool true)])]
    let middle : Value := .mapping [("a", .null)]
    let upper : Value := .mapping [("a", .mapping [("l", .bool false)])]
    (mergeInto {} (mergeInto {} lower middle).data upper).data = upper ∧
      (mergeInto {} lower (mergeInto {} middle upper).data).data =
        .mapping [("a", .mapping [("k", .bool true), ("l", .bool false)])] :=
  ⟨rfl, rfl⟩

private theorem not_separates_singleton {strategy : SequenceStrategy} {key : String} {low mid up : Value}
    (joins : ¬ Separates strategy low mid up) :
    ¬ Separates strategy (.mapping [(key, low)]) (.mapping [(key, mid)]) (.mapping [(key, up)]) := by
  rintro ⟨path, lowest, middling, uppest, lowAt, midAt, upAt, both, apart⟩
  cases path with
  | nil =>
    obtain rfl := Option.some.inj lowAt
    obtain rfl := Option.some.inj midAt
    exact apart trivial
  | cons first rest =>
    have child (value : Value) :
        (Value.mapping [(key, value)]).child? (.key first) = if first = key then some value else none :=
      Entries.lookup_cons first (key, value) []
    rw [atKeys?_cons, child] at lowAt midAt upAt
    by_cases same : first = key
    · rw [if_pos same] at lowAt midAt upAt
      exact joins ⟨rest, lowest, middling, uppest, lowAt, midAt, upAt, both, apart⟩
    · rw [if_neg same] at lowAt
      contradiction

/-- Three layers whose sequences are put end to end, at a path where all of them hold one. -/
theorem mergeInto_layers_concatenated :
    let context : MergeContext := { sequences := .concatenate }
    let layer (item : Value) : List (String × Value) := [("a", .mapping [("k", .sequence [item])])]
    let once := mergeInto context (.mapping (layer .null)) (.mapping (layer (.bool false)))
    let layered := mergeInto context once.data (.mapping (layer (.bool true)))
    let above := mergeInto context (.mapping (layer (.bool false))) (.mapping (layer (.bool true)))
    ¬ Separates .concatenate (.mapping (layer .null)) (.mapping (layer (.bool false))) (.mapping (layer (.bool true))) ∧
      layered.data = .mapping [("a", .mapping [("k", .sequence [.null, .bool false, .bool true])])] ∧
      layered.data = (mergeInto context (.mapping (layer .null)) above.data).data := by
  intro context layer once layered above
  have ordered (item : Value) (leaf : item.Ordered) : (Value.mapping (layer item)).Ordered := by
    simp [layer, Ordered, OrderedEntries, OrderedItems, Entries.Ordered, leaf]
  have joins : ¬ Separates .concatenate (.mapping (layer .null)) (.mapping (layer (.bool false)))
      (.mapping (layer (.bool true))) := by
    refine not_separates_singleton (not_separates_singleton ?_)
    rintro ⟨path, low, mid, up, lowAt, midAt, -, -, apart⟩
    cases path with
    | nil =>
      obtain rfl := Option.some.inj lowAt
      obtain rfl := Option.some.inj midAt
      exact apart trivial
    | cons first rest => contradiction
  obtain ⟨-, -, -, -, same⟩ := (mergeInto_layers context).1 _ _ _ (ordered .null trivial)
    (ordered (.bool false) trivial) (ordered (.bool true) trivial) joins
  exact ⟨joins, rfl, same⟩

end DataLocator
