import DataLocator.Proofs.Leaves
import DataLocator.Proofs.MergeStore

/-! # Merging below a path of keys

A layer is merged at the end of a path of keys, or it is put below that path first and then merged at the root. On the
one side the steps of a target go down the path and make an empty mapping for each key that is missing, on the other
side the overlay itself goes down. They leave the same, as far as the path leads through mappings (`Clear`): a mapping
that is laid over a new empty one is what it was, and where a mapping stands both go into it (`writeThrough_merge`).
-/

namespace DataLocator

open Value

/-- The items that the keys of a path name, one behind the other. -/
def Target.ofKeys (keys : List String) : Target := ⟨keys.map fun key => .go (.item (.name key))⟩

namespace Value

/-- The value below a path of keys, in mappings that hold nothing else. -/
def nest (keys : List String) (value : Value) : Value :=
  match keys with
  | [] => value
  | key :: rest => mapping [(key, nest rest value)]

/-- Whatever stands on the path of keys is a mapping, the root and the end of the path included. -/
def Clear (root : Value) (keys : List String) : Prop :=
  ∀ front, front <+: keys → ∀ node, root.atKeys? front = some node → ∃ entries, node = mapping entries

section

variable {root : Value} {key : String} {keys rest : List String} {entries layer : List (String × Value)}

theorem clear_nil_iff : root.Clear [] ↔ ∃ entries, root = mapping entries := by
  constructor
  · intro clear
    exact clear [] List.prefix_rfl root rfl
  · intro isMapping front isPrefix node found
    obtain rfl := List.prefix_nil.1 isPrefix
    obtain rfl := Option.some.inj found
    exact isMapping

theorem clear_emptyMapping (keys : List String) : emptyMapping.Clear keys := by
  intro front _ node found
  cases front with
  | nil => exact ⟨[], (Option.some.inj found).symm⟩
  | cons first others => contradiction

/-- A path is clear if it starts at a mapping and is clear from the child at its first key on, which may be missing. -/
theorem clear_cons_iff : root.Clear (key :: rest) ↔
    (∃ entries, root = mapping entries) ∧ (root.childOrEmpty (.key key)).Clear rest := by
  constructor
  · intro clear
    refine ⟨clear [] List.nil_prefix root rfl, ?_⟩
    cases held : root.child? (.key key) with
    | none =>
      rw [childOrEmpty_of_missing held]
      exact clear_emptyMapping rest
    | some child =>
      rw [childOrEmpty_of_child? held]
      intro front isPrefix node found
      apply clear (key :: front) ((List.prefix_cons_inj key).2 isPrefix) node
      exact atKeys?_cons_eq_some_iff.2 ⟨child, held, found⟩
  · rintro ⟨isMapping, behind⟩ front isPrefix node found
    cases front with
    | nil =>
      obtain rfl := Option.some.inj found
      exact isMapping
    | cons first others =>
      obtain ⟨rfl, later⟩ := List.cons_prefix_cons.1 isPrefix
      obtain ⟨child, held, reached⟩ := atKeys?_cons_eq_some_iff.1 found
      rw [childOrEmpty_of_child? held] at behind
      exact behind others later node reached

/-- A mapping below a path of keys is again a mapping. -/
theorem exists_entries_of_nest (ordered : Entries.Ordered layer) (keys : List String) :
    ∃ inner, nest keys (mapping layer) = mapping inner ∧ Entries.Ordered inner := by
  cases keys with
  | nil => exact ⟨layer, rfl, ordered⟩
  | cons key rest => exact ⟨[(key, nest rest (mapping layer))], rfl, List.pairwise_singleton ..⟩

/-- To lay a nest over a mapping is to lay what is in it over the child at its first key. -/
theorem overlay_nest_cons (context : MergeContext) (ordered : Entries.Ordered layer) (entries : List (String × Value))
    (key : String) (rest : List String) :
    overlay context.policy (mapping entries) (nest (key :: rest) (mapping layer)) =
      (mapping entries).setChild (.key key)
        (overlay context.policy ((mapping entries).childOrEmpty (.key key)) (nest rest (mapping layer))) := by
  obtain ⟨inner, isMapping, innerOrdered⟩ := exists_entries_of_nest ordered rest
  rw [nest, isMapping, overlay_mapping, overlayEntries_cons, overlay_childOrEmpty_mapping innerOrdered]
  rfl

end

end Value

/-- A merge below a clear path of keys leaves what the nested layer leaves when it is laid over the root. -/
theorem writeThrough_merge {root : Value} {keys : List String} {layer : List (String × Value)} (clear : root.Clear keys)
    (ordered : Entries.Ordered layer) (context : MergeContext) :
    let steps := (Target.ofKeys keys).steps.map TargetStep.toStep ++ [.merge]
    let merged := writeThrough (some context) (.present (.mapping layer)) steps root
    merged.result = .ok () ∧ merged.data = overlay context.policy root (nest keys (.mapping layer)) := by
  induction keys generalizing root with
  | nil =>
    obtain ⟨entries, rfl⟩ := clear_nil_iff.1 clear
    exact ⟨rfl, rfl⟩
  | cons key rest ih =>
    obtain ⟨⟨entries, rfl⟩, behind⟩ := clear_cons_iff.1 clear
    have slot : (Value.mapping entries).slot? (.item (.name key)) = some (.key key) := rfl
    obtain ⟨descent, entry⟩ := exists_entry_of_slot slot fun _ => ⟨entries, rfl⟩
    obtain ⟨place, also, -, child, refills⟩ := entry.slot
    obtain rfl : .key key = place := Option.some.inj (slot.symm.trans also)
    obtain ⟨succeeds, leaves⟩ := ih behind
    rw [← child] at succeeds leaves
    have more : (Target.ofKeys rest).steps.map TargetStep.toStep ++ [.merge] ≠ [] := by simp
    intro steps merged
    have written : merged = _ := writeThrough_of_entered more entry.enter
    rw [written]
    refine ⟨succeeds, ?_⟩
    rw [overlay_nest_cons context ordered, ← child, ← leaves]
    exact refills _

/-- A mapping can be merged at the end of a path of keys, or at the root after it was put below that path: where the
data holds mappings or nothing on the path, both succeed and leave the same. -/
theorem store_merge_nested {entries layer : List (String × Value)} {keys : List String}
    (clear : (Value.mapping entries).Clear keys) (ordered : (Value.mapping layer).Ordered) (context : MergeContext) :
    let data := Value.mapping entries
    let below := store data (Target.ofKeys keys).merge.locator (.present (.mapping layer)) (some context)
    let atRoot := store data (Target.mk []).merge.locator (.present (nest keys (.mapping layer))) (some context)
    below.result = .ok () ∧ atRoot.result = .ok () ∧ below.data = atRoot.data := by
  intro data below atRoot
  rw [Value.Ordered] at ordered
  have goesDown : below = _ := (Target.ofKeys keys).store_merge_locator data (.mapping layer) context
  have overlays : atRoot = mergeInto context data (nest keys (.mapping layer)) :=
    (Target.mk []).store_merge_locator data (nest keys (.mapping layer)) context
  obtain ⟨succeeds, leaves⟩ := writeThrough_merge clear ordered.1 context
  obtain ⟨inner, isMapping, -⟩ := exists_entries_of_nest ordered.1 keys
  rw [goesDown, overlays]
  rw [isMapping] at leaves ⊢
  exact ⟨succeeds, rfl, leaves⟩

/-- Below a key that is there sequences are put end to end, and below one that is not the layer is as it was. -/
theorem store_merge_nested_concatenated :
    let context : MergeContext := { sequences := .concatenate }
    let data := Value.mapping [("a", .mapping [("k", .sequence [.null])])]
    let layer := Value.mapping [("k", .sequence [.bool true])]
    let below (keys : List String) := store data (Target.ofKeys keys).merge.locator (.present layer) (some context)
    let atRoot (keys : List String) :=
      store data (Target.mk []).merge.locator (.present (nest keys layer)) (some context)
    data.Clear ["a"] ∧ data.Clear ["a", "b"] ∧ layer.Ordered ∧
      (below ["a"]).data = .mapping [("a", .mapping [("k", .sequence [.null, .bool true])])] ∧
      (below ["a"]).data = (atRoot ["a"]).data ∧
      (below ["a", "b"]).data = .mapping [("a", .mapping [("b", layer), ("k", .sequence [.null])])] ∧
      (below ["a", "b"]).data = (atRoot ["a", "b"]).data := by
  intro context data layer below atRoot
  have ordered : layer.Ordered := by
    unfold layer
    decide
  have there : data.Clear ["a"] := clear_cons_iff.2 ⟨⟨_, rfl⟩, clear_nil_iff.2 ⟨_, rfl⟩⟩
  have missing : data.Clear ["a", "b"] :=
    clear_cons_iff.2 ⟨⟨_, rfl⟩, clear_cons_iff.2 ⟨⟨_, rfl⟩, clear_emptyMapping []⟩⟩
  obtain ⟨-, -, same⟩ := store_merge_nested there ordered context
  obtain ⟨-, -, also⟩ := store_merge_nested missing ordered context
  exact ⟨there, missing, ordered, rfl, same, rfl, also⟩

end DataLocator
