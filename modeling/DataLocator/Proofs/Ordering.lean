import DataLocator.Interchange.Layers
import DataLocator.Json.Reader
import DataLocator.Proofs.LayerOrder
import DataLocator.Proofs.Sessions

/-! # Keys in order

Whatever makes a JSON tree puts the members of its objects in order: reading a text (`Json.ordered_of_ofText?`),
handing data over (`Datum.ordered_of_toJson`), and handing over a value that is ordered itself (`ordered_toJson`). The
value of a tree is ordered exactly if the tree is (`ordered_ofJson_iff`), so that the values that a program begins with
are ordered. Being ordered is an invariant, so that they stay so (`ordered_throughout`).

The nodes of a value hold plain lists, since a condition on the keys of a list cannot be part of the inductive type whose
values are in the list. A `Tree` is a value together with the order of its keys. What is done with a tree gives a tree
again, and the laws that ask for the order hold of trees without a condition (`Tree.merge_merge`).
-/

namespace DataLocator

namespace Json

section Readers

variable {α : Type} {P : α → Prop}

/-- All that the reader gives has the property. -/
def Reader.Yields (reader : Reader α) (P : α → Prop) : Prop :=
  ∀ text result rest, reader text = some (result, rest) → P result

theorem yields_separated {item : Reader α} (each : item.Yields P) (close : Char) (fuel : Nat) :
    Reader.Yields (separated close item fuel) fun results => ∀ result ∈ results, P result := by
  induction fuel with
  | zero => exact fun text results rest read => nomatch read
  | succ fuel ih =>
    intro text results rest read
    unfold separated at read
    split at read
    · contradiction
    · next first afterFirst atItem =>
      have firstHolds : P first := each _ _ _ atItem
      split at read
      · contradiction
      · split at read
        · obtain ⟨rfl, -⟩ := Prod.mk.inj (Option.some.inj read)
          exact List.forall_mem_singleton.2 firstHolds
        · split at read
          · obtain ⟨⟨others, behind⟩, more, same⟩ := Option.map_eq_some_iff.1 read
            obtain ⟨rfl, -⟩ := Prod.mk.inj same
            exact List.forall_mem_cons.2 ⟨firstHolds, ih _ _ _ more⟩
          · contradiction

theorem yields_bracketed {item : Reader α} (each : item.Yields P) (close : Char) :
    Reader.Yields (bracketed close item) fun results => ∀ result ∈ results, P result := by
  intro text results rest read
  simp only [bracketed] at read
  split at read
  · obtain ⟨rfl, -⟩ := Prod.mk.inj (Option.some.inj read)
    exact fun _ member => absurd member List.not_mem_nil
  · exact yields_separated each close _ _ _ _ read

theorem yields_member {value : Reader Json} (each : value.Yields Ordered) :
    Reader.Yields (member value) fun pair => pair.2.Ordered := by
  intro text pair rest read
  unfold member at read
  split at read
  · obtain ⟨⟨key, afterKey⟩, -, read⟩ := Option.bind_eq_some_iff.1 read
    obtain ⟨⟨tree, behind⟩, atValue, same⟩ := Option.bind_eq_some_iff.1 read
    obtain ⟨rfl, -⟩ := Prod.mk.inj (Option.some.inj same)
    split at atValue
    · exact each _ _ _ atValue
    · contradiction
  · contradiction

theorem yields_word (spelling : String) (tree : Json) (ordered : tree.Ordered) :
    Reader.Yields (word spelling tree) Ordered := by
  intro text result rest read
  unfold word at read
  split at read
  · obtain ⟨rfl, -⟩ := Prod.mk.inj (Option.some.inj read)
    exact ordered
  · contradiction

theorem yields_scalar : Reader.Yields scalar Ordered := by
  intro text tree rest read
  unfold scalar at read
  split at read
  · exact yields_word "null" .null trivial _ _ _ read
  · exact yields_word "true" (.bool true) trivial _ _ _ read
  · exact yields_word "false" (.bool false) trivial _ _ _ read
  · obtain ⟨quote, -, same⟩ := Option.map_eq_some_iff.1 read
    obtain ⟨rfl, -⟩ := Prod.mk.inj same
    trivial
  · split at read
    · obtain ⟨n, -, same⟩ := Option.map_eq_some_iff.1 read
      obtain ⟨rfl, -⟩ := Prod.mk.inj same
      trivial
    · contradiction

/-- Members are inserted one after the other, so that every object that is read has its keys in order. -/
theorem yields_tree (depth : Nat) : Reader.Yields (tree depth) Ordered := by
  induction depth with
  | zero => exact fun text result rest read => yields_scalar _ _ _ read
  | succ depth ih =>
    intro text result rest read
    unfold tree at read
    split at read
    · obtain ⟨⟨items, behind⟩, within, same⟩ := Option.map_eq_some_iff.1 read
      obtain ⟨rfl, -⟩ := Prod.mk.inj same
      exact orderedItems_iff.2 (yields_bracketed ih _ _ _ _ within)
    · obtain ⟨⟨members, behind⟩, within, same⟩ := Option.map_eq_some_iff.1 read
      obtain ⟨rfl, -⟩ := Prod.mk.inj same
      have each := yields_bracketed (yields_member ih) _ _ _ _ within
      exact ⟨Entries.ordered_ofList members, orderedMembers_iff.2 (Entries.forall_mem_ofList each)⟩
    · exact yields_scalar _ _ _ read

end Readers

theorem ordered_of_ofText? {text : String} {result : Json} (read : ofText? text = some result) : result.Ordered := by
  unfold ofText? at read
  split at read
  · next front rest within =>
    split at read
    · exact Option.some.inj read ▸ yields_tree _ _ _ _ within
    · contradiction
  · contradiction

end Json

namespace Datum

open Json (orderedItems_iff orderedMembers_iff)

-- The recursion is the one that makes the trees.
mutual

/-- The tree of data of any shape is ordered, whatever the order of its pairs. -/
theorem ordered_of_toJson : ∀ (datum : Datum) (tree : Json), datum.toJson = .ok tree → tree.Ordered
  | unit, _, made | bool _, _, made | signed _, _, made | unsigned _, _, made | text _, _, made | choice _, _, made =>
    Except.ok.inj made ▸ trivial
  | wide z, _, made => by
    unfold toJson at made
    split at made
    · exact Except.ok.inj made ▸ trivial
    · contradiction
  | float x, _, made => by
    unfold toJson at made
    split at made <;> exact Except.ok.inj made ▸ trivial
  | bytes octets, _, made => by
    obtain rfl := Except.ok.inj made
    refine orderedItems_iff.2 fun item member => ?_
    obtain ⟨octet, -, rfl⟩ := List.mem_map.1 member
    trivial
  | optional inner, tree, made => ordered_of_toJson inner tree made
  | wrapped inner, tree, made => ordered_of_toJson inner tree made
  | variant name contents, _, made => by
    unfold toJson at made
    split at made
    · next tree atContents =>
      obtain rfl := Except.ok.inj made
      exact ⟨List.pairwise_singleton _ _, ordered_of_toJson contents tree atContents, trivial⟩
    · contradiction
  | sequence items, _, made => by
    unfold toJson at made
    split at made
    · next trees atItems =>
      obtain rfl := Except.ok.inj made
      exact orderedItems_iff.2 (ordered_of_itemsToJson items trees atItems)
    · contradiction
  | mapping pairs, _, made => by
    unfold toJson at made
    split at made
    · next members atPairs =>
      obtain rfl := Except.ok.inj made
      have each := Entries.forall_mem_ofList (ordered_of_pairsToJson pairs members atPairs)
      exact ⟨Entries.ordered_ofList members, orderedMembers_iff.2 each⟩
    · contradiction
  | refusal _, _, made => nomatch made

theorem ordered_of_itemsToJson : ∀ (items : List Datum) (trees : List Json), itemsToJson items = .ok trees →
    ∀ tree ∈ trees, tree.Ordered
  | [], _, made => by
    obtain rfl := Except.ok.inj made
    simp
  | item :: rest, _, made => by
    unfold itemsToJson at made
    split at made
    · contradiction
    · next tree atItem =>
      split at made
      · contradiction
      · next trees behind =>
        obtain rfl := Except.ok.inj made
        exact List.forall_mem_cons.2 ⟨ordered_of_toJson item tree atItem, ordered_of_itemsToJson rest trees behind⟩

theorem ordered_of_pairsToJson : ∀ (pairs : List (Datum × Datum)) (members : List (String × Json)),
    pairsToJson pairs = .ok members → ∀ member ∈ members, member.2.Ordered
  | [], _, made => by
    obtain rfl := Except.ok.inj made
    simp
  | (key, value) :: rest, _, made => by
    unfold pairsToJson at made
    split at made
    · contradiction
    · split at made
      · contradiction
      · next tree atValue =>
        split at made
        · contradiction
        · next members behind =>
          obtain rfl := Except.ok.inj made
          exact List.forall_mem_cons.2
            ⟨ordered_of_toJson value tree atValue, ordered_of_pairsToJson rest members behind⟩

end

end Datum

namespace Value

/-- The value of a JSON tree is ordered exactly if the tree is. -/
theorem ordered_ofJson_iff {tree : Json} : (ofJson tree).Ordered ↔ tree.Ordered := by
  induction tree using Json.tree_induction with
  | number n => exact iff_of_true (ordered_invariant.ofJsonNumber n) trivial
  | array items ih =>
    rw [ordered_invariant.array_iff, Json.Ordered, Json.orderedItems_iff]
    exact forall₂_congr ih
  | object members ih =>
    rw [ordered_invariant.object_iff, Json.Ordered, Json.orderedMembers_iff, Entries.Ordered]
    exact and_congr_right fun _ => forall₂_congr ih
  | _ => exact iff_of_true trivial trivial

theorem ordered_entriesToJson {entries : List (String × Value)} (ordered : Entries.Ordered entries)
    (each : ∀ pair ∈ entries, pair.2.toJson.Ordered) : (Json.object (entriesToJson entries)).Ordered := by
  rw [entriesToJson_eq_map]
  exact ⟨ordered.map_snd toJson, Json.orderedMembers_iff.2 (List.forall_mem_map.2 each)⟩

/-- The JSON tree of an ordered value is ordered. -/
theorem ordered_toJson {value : Value} (ordered : value.Ordered) : value.toJson.Ordered := by
  induction value using tree_induction with
  | sequence items ih =>
    rw [Ordered, orderedItems_iff] at ordered
    rw [toJson, itemsToJson_eq_map]
    exact Json.orderedItems_iff.2 (List.forall_mem_map.2 fun item member => ih item member (ordered item member))
  | mapping entries ih =>
    rw [Ordered, orderedEntries_iff] at ordered
    exact ordered_entriesToJson ordered.1 fun pair member => ih pair member (ordered.2 pair member)
  | record typeName shape fields ih =>
    rw [Ordered, orderedEntries_iff] at ordered
    exact ordered_entriesToJson ordered.1 fun pair member => ih pair member (ordered.2 pair member)
  | float x =>
    rw [toJson]
    split <;> trivial
  | _ => trivial

theorem ordered_jsonForm {value : Value} (ordered : value.Ordered) : value.jsonForm.Ordered := by
  rw [← ofJson_toJson, ordered_ofJson_iff]
  exact ordered_toJson ordered

theorem ordered_of_ofDatum {datum : Datum} {value : Value} (made : ofDatum datum = .ok value) : value.Ordered := by
  obtain ⟨tree, handed, rfl⟩ := map_eq_ok_iff.1 made
  exact ordered_ofJson_iff.2 (datum.ordered_of_toJson tree handed)

end Value

open Value

/-- A record with a field set is ordered, if it was and the value of the field is. -/
theorem Record.ordered_withField (r : Record) {value : Value} (ordered : r.toValue.Ordered) (also : value.Ordered)
    (name : String) : (r.withField name value).toValue.Ordered :=
  (ordered_invariant.record_iff _ _ _).2
    (ordered_invariant.ofEntries_insert also ((ordered_invariant.record_iff _ _ _).1 ordered))

theorem Schema.ordered_of_read (schema : Schema) (fallbacks : schema.Fallbacks Value.Ordered) {tree : Json}
    (ordered : tree.Ordered) {value : Value} (read : schema.read tree = .ok value) : value.Ordered :=
  keeps_read ordered_invariant schema fallbacks tree value (ordered_ofJson_iff.2 ordered) read

section Gathering

variable {layers : List Layer} {value : Value} {entries incoming : List (String × Value)}

theorem Layer.ordered_entries {layer : Layer} (ordered : layer.data.Ordered) (form : layer.entries = .ok incoming) :
    (mapping incoming).Ordered := by
  unfold Layer.entries at form
  split at form
  · next isMapping =>
    obtain rfl := Except.ok.inj form
    exact isMapping ▸ ordered_jsonForm ordered
  · contradiction

theorem ordered_gatherOnto (each : ∀ layer ∈ layers, layer.data.Ordered) (ordered : (mapping entries).Ordered)
    (gathered : gatherOnto entries layers = .ok value) : value.Ordered := by
  induction layers generalizing entries with
  | nil => exact Except.ok.inj gathered ▸ ordered
  | cons layer rest ih =>
    obtain ⟨first, others⟩ := List.forall_mem_cons.1 each
    unfold gatherOnto at gathered
    split at gathered
    · next incoming form =>
      have laid := ordered_invariant.overlay layer.layering.policy ordered (layer.ordered_entries first form)
      exact ih others laid gathered
    · contradiction

end Gathering

/-- A value with its keys in order at every depth. -/
structure Tree where
  value : Value
  ordered : value.Ordered

namespace Tree

@[ext] theorem ext {tree other : Tree} (same : tree.value = other.value) : tree = other := by
  cases tree
  cases other
  congr

/-- The tree of a JSON text. -/
def ofText? (text : String) : Option Tree :=
  match read : Json.ofText? text with
  | some tree => some ⟨.ofJson tree, ordered_ofJson_iff.2 (Json.ordered_of_ofText? read)⟩
  | none => none

/-- What an action leaves of a tree, if what goes into it is ordered. -/
def perform (tree : Tree) (action : Action) (fed : action.Fed Value.Ordered) : Tree where
  value := (action.perform tree.value).data
  ordered := (ordered_invariant.perform tree.ordered fed).1

def merge (context : MergeContext) (tree layer : Tree) : Tree :=
  tree.perform (.merge context layer.value) layer.ordered

/-- Where sequences are replaced, to merge a layer once more changes nothing. -/
theorem merge_merge {context : MergeContext} (replaces : context.sequences = .replace) (tree layer : Tree) :
    merge context (merge context tree layer) layer = merge context tree layer := by
  obtain ⟨value, ordered⟩ := tree
  obtain ⟨incoming, layerOrdered⟩ := layer
  ext
  let once := mergeInto context value incoming
  change (mergeInto context once.data incoming).data = once.data
  cases incoming with
  | mapping layer =>
    cases value with
    | mapping entries => exact overlay_overlayOn replaces layerOrdered (some (.mapping entries))
    | _ => rfl
  | _ => rfl

end Tree

/-- The trees that are read from a text or made of data have their keys in order, and so have the values that are made
of such trees or field by field, read by a schema with ordered fallbacks, or gathered from ordered layers. From ordered
data on, every chain of loads, stores, merges and plans that is fed ordered values, and converts by the standard
converters, finds and leaves ordered values alone, after failures too. -/
theorem ordered_throughout :
    (∀ text tree, Json.ofText? text = some tree → tree.Ordered) ∧
    (∀ (datum : Datum) tree, datum.toJson = .ok tree → tree.Ordered) ∧
    (∀ tree, (Value.ofJson tree).Ordered ↔ tree.Ordered) ∧
    (∀ value : Value, value.Ordered → value.toJson.Ordered ∧ value.jsonForm.Ordered) ∧
    (∀ datum value, Value.ofDatum datum = .ok value → value.Ordered) ∧
    (∀ schema : Schema, schema.Fallbacks Value.Ordered → ∀ tree value, tree.Ordered → schema.read tree = .ok value →
      value.Ordered) ∧
    (∀ (r : Record) name value, r.toValue.Ordered → value.Ordered → (r.withField name value).toValue.Ordered) ∧
    (∀ layers value, (∀ layer ∈ layers, layer.data.Ordered) → gather layers = .ok value → value.Ordered) ∧
    ∀ (data : Value) (actions : List Action), data.Ordered → (∀ action ∈ actions, action.Fed Value.Ordered) →
      ∀ moment ∈ session data actions, moment.data.Ordered ∧ ∀ value ∈ moment.found, value.Ordered := by
  refine ⟨fun _ _ => Json.ordered_of_ofText?, Datum.ordered_of_toJson, fun _ => ordered_ofJson_iff, ?_,
    fun _ _ => ordered_of_ofDatum, ?_, ?_, ?_, fun _ _ => ordered_invariant.session⟩
  · exact fun value ordered => ⟨ordered_toJson ordered, ordered_jsonForm ordered⟩
  · exact fun schema fallbacks tree value ordered read => schema.ordered_of_read fallbacks ordered read
  · exact fun r name value ordered also => r.ordered_withField ordered also name
  · exact fun layers value each => ordered_gatherOnto each ordered_invariant.emptyMapping

end DataLocator
