import DataLocator.Proofs.LayerOrder
import DataLocator.Proofs.Writes

/-! # Merging leaf by leaf

The leaves of a tree are the values in it that are no mappings, each at the end of its own path of keys. Paths to
different leaves part with different keys (`pairwise_leaves`), so values can be written at them in any order. Where
sequences are replaced, writing all leaves of a layer into a mapping is merging the layer into it (`putAll_leaves`,
`mergeInto_eq_storeAll`), with two provisos: a mapping without leaves would be merged but not written (`Filled`), and
what is no mapping would be replaced by one in a merge but stop a store (`FitsOver`).
-/

namespace DataLocator

/-- A write of a leaf of the tree, through the keys on the path to it. -/
def Write.OfLeaf (write : Write) (tree : Value) : Prop :=
  ∃ path, write.hops = path.map (fun key => Hop.item (.name key)) ∧ tree.atKeys? path = some write.value ∧
    ∀ entries, write.value ≠ .mapping entries

namespace Value

/-- No mapping at the end of a path of keys into the tree is empty. -/
def Filled (tree : Value) : Prop := ∀ path, path ≠ [] → tree.atKeys? path ≠ some emptyMapping

/-- Wherever the layer holds a mapping there is a mapping below it, or nothing. -/
def FitsOver (layer existing : Value) : Prop :=
  ∀ path inner, layer.atKeys? path = some (mapping inner) →
    ∀ node, existing.atKeys? path = some node → ∃ entries, node = mapping entries

mutual

/-- The writes of all leaves of the tree. -/
def leaves : Value → List Write
  | mapping entries => leavesOfEntries entries
  | leaf => [⟨[], leaf⟩]

def leavesOfEntries : List (String × Value) → List Write
  | [] => []
  | (key, value) :: rest => value.leaves.map (Write.behind (.item (.name key))) ++ leavesOfEntries rest

end

section

variable {context : MergeContext} {tree layer existing value : Value} {write : Write} {path : List String}
variable {entries inner : List (String × Value)}

theorem leaves_mapping (entries : List (String × Value)) :
    (mapping entries).leaves =
      entries.flatMap fun pair => pair.2.leaves.map (Write.behind (.item (.name pair.1))) := by
  rw [leaves]
  induction entries with
  | nil => rfl
  | cons pair rest ih => rw [leavesOfEntries, ih, List.flatMap_cons]

theorem leaves_leaf (leaf : ∀ entries, tree ≠ mapping entries) : tree.leaves = [⟨[], tree⟩] := by
  cases tree with
  | mapping entries => exact absurd rfl (leaf entries)
  | _ => rfl

/-- The leaves of an ordered tree are what is found along its paths of keys. -/
theorem mem_leaves_iff (ordered : tree.Ordered) : write ∈ tree.leaves ↔ write.OfLeaf tree := by
  induction tree using keys_induction generalizing write with
  | step tree ih =>
    rcases mapping_or_leaf tree with ⟨entries, rfl⟩ | leaf
    · rw [Value.Ordered] at ordered
      rw [leaves_mapping, List.mem_flatMap]
      constructor
      · rintro ⟨pair, member, inside⟩
        obtain ⟨below, belowMember, rfl⟩ := List.mem_map.1 inside
        have held := ordered.1.lookup_of_mem member
        obtain ⟨path, along, found, leaf⟩ :=
          (ih pair.1 pair.2 held (orderedEntries_lookup ordered.2 held)).1 belowMember
        refine ⟨pair.1 :: path, ?_, atKeys?_cons_eq_some_iff.2 ⟨pair.2, held, found⟩, leaf⟩
        rw [Write.behind, along, List.map_cons]
      · obtain ⟨hops, value⟩ := write
        rintro ⟨path, along, found, leaf⟩
        obtain rfl : hops = path.map fun key => .item (.name key) := along
        cases path with
        | nil => exact absurd (Option.some.inj found).symm (leaf entries)
        | cons key rest =>
          obtain ⟨child, held, below⟩ := atKeys?_cons_eq_some_iff.1 found
          have inside : ⟨rest.map fun key => .item (.name key), value⟩ ∈ child.leaves :=
            (ih key child held (orderedEntries_lookup ordered.2 held)).2 ⟨rest, rfl, below, leaf⟩
          exact ⟨(key, child), Entries.mem_of_lookup held, List.mem_map_of_mem inside⟩
    · rw [leaves_leaf leaf, List.mem_singleton]
      constructor
      · rintro rfl
        exact ⟨[], rfl, rfl, leaf⟩
      · obtain ⟨hops, value⟩ := write
        rintro ⟨path, along, found, -⟩
        obtain ⟨rfl, rfl⟩ := eq_of_atKeys?_leaf leaf found
        obtain rfl : hops = [] := along
        rfl

/-- The paths to two leaves part with different keys. -/
theorem pairwise_leaves (ordered : tree.Ordered) :
    tree.leaves.Pairwise fun first second => Diverge first.hops second.hops := by
  induction tree using keys_induction with
  | step tree ih =>
    rcases mapping_or_leaf tree with ⟨entries, rfl⟩ | leaf
    · rw [Value.Ordered] at ordered
      rw [leaves_mapping, List.pairwise_flatMap]
      constructor
      · intro pair member
        have held := ordered.1.lookup_of_mem member
        rw [List.pairwise_map]
        exact (ih pair.1 pair.2 held (orderedEntries_lookup ordered.2 held)).imp (Diverge.later _)
      · apply (List.pairwise_map.1 ordered.1).imp
        intro pair other smaller first firstMember second secondMember
        obtain ⟨below, -, rfl⟩ := List.mem_map.1 firstMember
        obtain ⟨beside, -, rfl⟩ := List.mem_map.1 secondMember
        have differ : (Hop.item (.name pair.1)).name ≠ (Hop.item (.name other.1)).name := String.ne_of_lt smaller
        exact .here differ below.hops beside.hops
    · rw [leaves_leaf leaf]
      exact List.pairwise_singleton ..

theorem nodup_leaves (ordered : tree.Ordered) : tree.leaves.Nodup :=
  (pairwise_leaves ordered).imp fun diverge same => diverge.ne (congrArg Write.hops same)

theorem filled_mapping_iff : (mapping entries).Filled ↔
    ∀ key child, entries.lookup key = some child → child ≠ emptyMapping ∧ child.Filled := by
  constructor
  · intro filled key child held
    constructor
    · rintro rfl
      exact filled [key] (List.cons_ne_nil _ _) (atKeys?_cons_eq_some_iff.2 ⟨emptyMapping, held, rfl⟩)
    · intro path _ empty
      exact filled (key :: path) (List.cons_ne_nil _ _) (atKeys?_cons_eq_some_iff.2 ⟨child, held, empty⟩)
  · intro filled path nonempty empty
    obtain ⟨key, rest, rfl⟩ := List.exists_cons_of_ne_nil nonempty
    obtain ⟨child, held, below⟩ := atKeys?_cons_eq_some_iff.1 empty
    obtain ⟨different, childFilled⟩ := filled key child held
    cases rest with
    | nil => exact different (Option.some.inj below)
    | cons next rest => exact childFilled (next :: rest) (List.cons_ne_nil _ _) below

theorem fitsOver_mapping_iff : (mapping inner).FitsOver existing ↔
    (∃ entries, existing = mapping entries) ∧
      ∀ key child, inner.lookup key = some child → child.FitsOver (existing.childOrEmpty (.key key)) := by
  constructor
  · intro fits
    refine ⟨fits [] inner rfl existing rfl, fun key child held path below reached node found => ?_⟩
    cases there : existing.child? (.key key) with
    | some old =>
      rw [childOrEmpty_of_child? there] at found
      apply fits (key :: path) below
      · exact atKeys?_cons_eq_some_iff.2 ⟨child, held, reached⟩
      · exact atKeys?_cons_eq_some_iff.2 ⟨old, there, found⟩
    | none =>
      rw [childOrEmpty_of_missing there] at found
      cases path with
      | nil => exact ⟨[], (Option.some.inj found).symm⟩
      | cons next rest => contradiction
  · rintro ⟨⟨entries, rfl⟩, fits⟩ path below reached node found
    cases path with
    | nil => exact ⟨entries, (Option.some.inj found).symm⟩
    | cons key rest =>
      obtain ⟨child, held, behind⟩ := atKeys?_cons_eq_some_iff.1 reached
      obtain ⟨old, there, beside⟩ := atKeys?_cons_eq_some_iff.1 found
      rw [← childOrEmpty_of_child? there] at beside
      exact fits key child held rest below behind node beside

/-- A tree in which no mapping is empty has leaves. -/
theorem leaves_ne_nil (filled : tree.Filled) (nonempty : tree ≠ emptyMapping) : tree.leaves ≠ [] := by
  induction tree using keys_induction with
  | step tree ih =>
    rcases mapping_or_leaf tree with ⟨entries, rfl⟩ | leaf
    · cases entries with
      | nil => contradiction
      | cons pair rest =>
        have held : (pair :: rest).lookup pair.1 = some pair.2 := by rw [Entries.lookup_cons, if_pos rfl]
        obtain ⟨different, childFilled⟩ := filled_mapping_iff.1 filled pair.1 pair.2 held
        have some := ih pair.1 pair.2 held childFilled different
        rw [leaves_mapping, List.flatMap_cons]
        simp [some]
    · rw [leaves_leaf leaf]
      exact List.cons_ne_nil _ _

/-- A place that a layer fits over takes its leaves. -/
theorem takes_of_fitsOver (found : layer.atKeys? path = some value) (fits : layer.FitsOver existing) :
    existing.Takes (path.map fun key => .item (.name key)) := by
  induction path generalizing layer existing with
  | nil => trivial
  | cons key rest ih =>
    obtain ⟨child, held, below⟩ := atKeys?_cons_eq_some_iff.1 found
    obtain ⟨inner, rfl, there⟩ := child?_key_eq_some_iff.1 held
    obtain ⟨⟨entries, rfl⟩, children⟩ := fitsOver_mapping_iff.1 fits
    exact ⟨.key key, rfl, fun _ _ => ⟨entries, rfl⟩, ih below (children key child there)⟩

/-- A mapping is laid over an empty one as over nothing. -/
theorem overlay_childOrEmpty_mapping (ordered : Entries.Ordered inner) (entries : List (String × Value)) (key : String) :
    overlay context.policy ((mapping entries).childOrEmpty (.key key)) (mapping inner) =
      overlayOn context.policy (entries.lookup key) (mapping inner) := by
  cases held : entries.lookup key with
  | some old =>
    have there : (mapping entries).child? (.key key) = some old := held
    rw [childOrEmpty_of_child? there]
    rfl
  | none =>
    have lacks : (mapping entries).child? (.key key) = none := held
    rw [childOrEmpty_of_missing lacks]
    exact congrArg mapping (overlayEntries_nil_left context.policy ordered)

/-- An empty mapping stands for nothing below a layer. -/
theorem overlay_childOrEmpty (replaces : context.sequences = .replace) (ordered : layer.Ordered)
    (entries : List (String × Value)) (key : String) :
    overlay context.policy ((mapping entries).childOrEmpty (.key key)) layer =
      overlayOn context.policy (entries.lookup key) layer := by
  rcases mapping_or_leaf layer with ⟨inner, rfl⟩ | leaf
  · rw [Value.Ordered] at ordered
    exact overlay_childOrEmpty_mapping ordered.1 entries key
  · exact (overlayOn_leaf replaces leaf (some _)).trans (overlayOn_leaf replaces leaf _).symm

/-- The leaves below each key are written into the entries as the values at the keys are laid over them. -/
theorem putAll_leaves_of_children {policy : OverlayPolicy} (keysOrdered : Entries.Ordered inner)
    (children : ∀ pair ∈ inner, pair.2.leaves ≠ [] ∧
      ((mapping entries).childOrEmpty (.key pair.1)).putAll pair.2.leaves =
        overlayOn policy (entries.lookup pair.1) pair.2) :
    (mapping entries).putAll (mapping inner).leaves = mapping (overlayEntries policy entries inner) := by
  rw [leaves_mapping]
  induction inner generalizing entries with
  | nil => rfl
  | cons pair rest ih =>
    rw [List.forall_mem_cons] at children
    obtain ⟨⟨nonempty, first⟩, later⟩ := children
    have slot : (mapping entries).slot? (.item (.name pair.1)) = some (.key pair.1) := rfl
    rw [List.flatMap_cons, putAll_append, putAll_behind slot nonempty, first, overlayEntries_cons]
    apply ih keysOrdered.tail
    intro other member
    have differs : other.1 ≠ pair.1 :=
      (String.ne_of_lt ((List.pairwise_cons.1 keysOrdered).1 other.1 (List.mem_map_of_mem member))).symm
    have elsewhere : Selector.key other.1 ≠ .key pair.1 := fun same => differs (Selector.key.inj same)
    have stays := childOrEmpty_setChild_of_ne elsewhere (mapping entries)
      (overlayOn policy (entries.lookup pair.1) pair.2)
    rw [Entries.lookup_insert_of_ne differs]
    exact ⟨(later other member).1, (congrArg (putAll · other.2.leaves) stays).trans (later other member).2⟩

/-- Where sequences are replaced, a layer is laid over what it fits over by writing its leaves. -/
theorem putAll_leaves (replaces : context.sequences = .replace) (ordered : layer.Ordered) (filled : layer.Filled)
    (fits : layer.FitsOver existing) : existing.putAll layer.leaves = overlay context.policy existing layer := by
  induction layer using keys_induction generalizing existing with
  | step layer ih =>
    rcases mapping_or_leaf layer with ⟨inner, rfl⟩ | leaf
    · obtain ⟨⟨entries, rfl⟩, children⟩ := fitsOver_mapping_iff.1 fits
      rw [Value.Ordered] at ordered
      rw [overlay_mapping]
      apply putAll_leaves_of_children ordered.1
      intro pair member
      have held := ordered.1.lookup_of_mem member
      have childOrdered := orderedEntries_lookup ordered.2 held
      obtain ⟨nonempty, childFilled⟩ := filled_mapping_iff.1 filled pair.1 pair.2 held
      refine ⟨leaves_ne_nil childFilled nonempty, ?_⟩
      rw [ih pair.1 pair.2 held childOrdered childFilled (children pair.1 pair.2 held)]
      exact overlay_childOrEmpty replaces childOrdered entries pair.1
    · rw [leaves_leaf leaf]
      exact (overlayOn_leaf replaces leaf (some existing)).symm

end

end Value

open Value

/-- Where sequences are replaced, a merge leaves what the stores of all leaves of the layer leave, each made through the
keys on the path to its leaf. They are made one after the other in any order, and all succeed. -/
theorem mergeInto_eq_storeAll {entries layer : List (String × Value)} {order : List Write}
    (ordered : (Value.mapping layer).Ordered) (filled : (Value.mapping layer).Filled)
    (fits : (Value.mapping layer).FitsOver (.mapping entries)) (once : order.Nodup)
    (all : ∀ write, write ∈ order ↔ write.OfLeaf (.mapping layer)) (granted : Option MergeContext) :
    let merged := mergeInto { sequences := .replace } (.mapping entries) (.mapping layer)
    merged.result = .ok () ∧ storeAll granted (.mapping entries) order = .ok merged.data := by
  intro merged
  refine ⟨rfl, ?_⟩
  have perm : order.Perm (Value.mapping layer).leaves := by
    rw [List.perm_ext_iff_of_nodup once (nodup_leaves ordered)]
    exact fun write => (all write).trans (mem_leaves_iff ordered).symm
  have diverging : order.Pairwise fun first second => Diverge first.hops second.hops :=
    perm.symm.pairwise (pairwise_leaves ordered) Diverge.symm
  have taken : (Value.mapping entries).TakesAll order := by
    rw [takesAll_iff_forall diverging]
    intro write member
    obtain ⟨path, along, found, leaf⟩ := (all write).1 member
    rw [along]
    constructor
    · rw [Ne, List.map_eq_nil_iff]
      rintro rfl
      exact leaf layer (Option.some.inj found).symm
    · exact takes_of_fitsOver found fits
  have laid : (Value.mapping entries).putAll (Value.mapping layer).leaves = merged.data :=
    putAll_leaves rfl ordered filled fits
  rw [storeAll_of_takesAll taken, putAll_perm diverging perm, laid]

private theorem filled_of_forall {entries : List (String × Value)}
    (children : ∀ pair ∈ entries, pair.2 ≠ emptyMapping ∧ pair.2.Filled) : (Value.mapping entries).Filled :=
  filled_mapping_iff.2 fun key child held => children (key, child) (Entries.mem_of_lookup held)

private theorem filled_leaf {value : Value} (leaf : ∀ entries, value ≠ .mapping entries) : value.Filled := by
  intro path nonempty found
  exact nonempty (eq_of_atKeys?_leaf leaf found).1

private theorem fitsOver_of_forall {entries inner : List (String × Value)}
    (children : ∀ pair ∈ inner, pair.2.FitsOver ((Value.mapping entries).childOrEmpty (.key pair.1))) :
    (Value.mapping inner).FitsOver (.mapping entries) :=
  fitsOver_mapping_iff.2 ⟨⟨entries, rfl⟩, fun key child held => children (key, child) (Entries.mem_of_lookup held)⟩

private theorem fitsOver_leaf {value : Value} (leaf : ∀ entries, value ≠ .mapping entries) (existing : Value) :
    value.FitsOver existing := by
  intro path inner reached
  exact absurd (eq_of_atKeys?_leaf leaf reached).2 (leaf inner)

/-- Three leaves are stored from the last to the first: a sequence at a new key, a boolean in a mapping that is there,
and beside it a null in place of a mapping. -/
theorem mergeInto_eq_storeAll_reversed :
    let entries : List (String × Value) := [("a", .mapping [("k", .mapping [("m", .bool true)])])]
    let layer : List (String × Value) := [("a", .mapping [("k", .null), ("l", .bool false)]), ("b", .sequence [.null])]
    let order : List Write :=
      [⟨[.item (.name "b")], .sequence [.null]⟩, ⟨[.item (.name "a"), .item (.name "l")], .bool false⟩,
        ⟨[.item (.name "a"), .item (.name "k")], .null⟩]
    let merged := mergeInto { sequences := .replace } (.mapping entries) (.mapping layer)
    (Value.mapping layer).Filled ∧ (Value.mapping layer).FitsOver (.mapping entries) ∧
      (∀ write, write ∈ order ↔ write.OfLeaf (.mapping layer)) ∧
      merged.data = .mapping layer ∧ storeAll none (.mapping entries) order = .ok merged.data := by
  intro entries layer order merged
  have ordered : (Value.mapping layer).Ordered := by
    unfold layer
    decide
  have filled : (Value.mapping layer).Filled := by
    apply filled_of_forall
    simp only [layer, List.forall_mem_cons]
    refine ⟨⟨by simp [emptyMapping], filled_of_forall ?_⟩, ⟨by simp [emptyMapping], filled_leaf (by simp)⟩, by simp⟩
    simp only [List.forall_mem_cons]
    refine ⟨⟨by simp [emptyMapping], filled_leaf (by simp)⟩, ⟨by simp [emptyMapping], filled_leaf (by simp)⟩, by simp⟩
  have fits : (Value.mapping layer).FitsOver (.mapping entries) := by
    apply fitsOver_of_forall
    simp only [layer, List.forall_mem_cons]
    refine ⟨fitsOver_of_forall ?_, fitsOver_leaf (by simp) _, by simp⟩
    simp only [List.forall_mem_cons]
    exact ⟨fitsOver_leaf (by simp) _, fitsOver_leaf (by simp) _, by simp⟩
  have listed : order = (Value.mapping layer).leaves.reverse := rfl
  have once : order.Nodup := listed ▸ (List.reverse_perm _).nodup_iff.2 (nodup_leaves ordered)
  have all : ∀ write, write ∈ order ↔ write.OfLeaf (.mapping layer) := by
    intro write
    rw [listed, List.mem_reverse]
    exact mem_leaves_iff ordered
  exact ⟨filled, fits, all, rfl, (mergeInto_eq_storeAll ordered filled fits once all none).2⟩

end DataLocator
