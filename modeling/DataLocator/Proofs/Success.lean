import DataLocator.Proofs.Steps

/-! # When a store succeeds

A store goes the way of a load as long as look-ups succeed (`result_of_walk`), so what becomes of it is decided at
the first look-up that fails. `Missed` says why a hop finds nothing: a key that a mapping lacks, another selector
without a child, or no selector at all. A missing key is made, and what follows it meets empty mappings alone, which
take all hops but attributes (`result_of_missing_key`). Any other miss fails the store as it fails the load, except for
the last field of an extensible record.
-/

namespace DataLocator

open Value

namespace Hop

/-- The name of an attribute hop. -/
def attribute? : Hop → Option String
  | attr name => some name
  | _ => none

def isItem : Hop → Bool
  | item _ => true
  | _ => false

theorem attribute?_eq_some_iff {hop : Hop} {name : String} : hop.attribute? = some name ↔ hop = attr name := by
  cases hop <;> simp [attribute?]

/-- A hop asks a mapping for a key or is an attribute. -/
theorem exists_key_of_attribute? {hop : Hop} (other : hop.attribute? = none) : ∃ name, hop.key? = some name := by
  cases hop with
  | attr name => simp [attribute?] at other
  | item key => exact ⟨key.text, rfl⟩
  | segment name => exact ⟨name, rfl⟩

end Hop

/-- Why a hop finds nothing in a node. -/
inductive Missed : Value → Hop → LookupFailure → Prop
  | key {entries : List (String × Value)} {hop : Hop} {name : String}
      (asked : hop.key? = some name) (missing : entries.lookup name = none) :
      Missed (mapping entries) hop (.missingKey name)
  | place {node : Value} {hop : Hop} {place : Selector} (selected : node.select .itemAccess hop = .ok place)
      (noKey : ∀ name, place ≠ .key name) (missing : node.child? place = none) :
      Missed node hop (node.absence place)
  | refused {node : Value} {hop : Hop} {failure : LookupFailure}
      (refused : node.select .itemAccess hop = .error failure) : Missed node hop failure

theorem missed_of_get {node : Value} {hop : Hop} {failure : LookupFailure} (missed : node.get hop = .error failure) :
    Missed node hop failure := by
  cases selected : node.select .itemAccess hop with
  | error other =>
    rw [get_of_select_eq_error selected] at missed
    obtain rfl := Except.error.inj missed
    exact .refused selected
  | ok place =>
    cases held : node.child? place with
    | some child =>
      rw [get_eq_ok_iff.2 ⟨place, selected, held⟩] at missed
      contradiction
    | none =>
      rw [get_of_child?_eq_none selected held] at missed
      obtain rfl := Except.error.inj missed
      by_cases isKey : ∃ name, place = .key name
      · obtain ⟨name, rfl⟩ := isKey
        obtain ⟨entries, rfl⟩ := eq_mapping_of_select selected
        obtain ⟨other, asked, same⟩ := select_mapping_eq_ok_iff.1 selected
        obtain rfl := Selector.key.inj same
        exact .key asked held
      · exact .place selected (fun name same => isKey ⟨name, same⟩) held

/-- A walk that fails has a first hop that finds nothing. -/
theorem exists_miss_of_walk {data : Value} {hops : List Hop} {failure : LookupFailure}
    (missed : data.walk hops = .error failure) :
    ∃ front hop back node, hops = front ++ hop :: back ∧ data.walk front = .ok node ∧
      node.get hop = .error failure := by
  induction hops generalizing data with
  | nil => contradiction
  | cons hop rest ih =>
    cases found : data.get hop with
    | error other =>
      rw [walk_cons_of_error found] at missed
      obtain rfl := Except.error.inj missed
      exact ⟨[], hop, rest, data, rfl, rfl, found⟩
    | ok child =>
      rw [walk_cons_of_ok found] at missed
      obtain ⟨front, last, back, node, rfl, reached, stops⟩ := ih missed
      exact ⟨hop :: front, last, back, node, rfl, (walk_cons_of_ok found front).trans reached, stops⟩

/-- What a store makes when a look-up for a key fails: keys only, since no attribute comes behind it. -/
def MakesKeys (failure : LookupFailure) (back : List Hop) : Prop :=
  (∃ key, failure = .missingKey key) ∧ ∀ name, .attr name ∉ back

/-- What a store makes when the last hop fails at an extensible record: the field that it names. -/
def MakesField (node : Value) (hop : Hop) (back : List Hop) : Prop :=
  back = [] ∧ (∃ name, hop = .attr name ∨ hop = .segment name) ∧
    ∃ typeName fields, node = .record typeName .extensible fields

/-- The last hop asks for an item where there are none. -/
def AsksLastItem (node : Value) (hop : Hop) (back : List Hop) : Prop :=
  back = [] ∧ hop.isItem = true ∧ node.hasItems = false

section Result

variable {context : Option MergeContext} {value : Value}

theorem result_of_walk {data node : Value} {front back : List Hop} (more : back ≠ [])
    (found : data.walk front = .ok node) :
    (writeThrough context (.present value) ((front ++ back).map Step.go) data).result =
      (writeThrough context (.present value) (back.map Step.go) node).result := by
  rw [List.map_append]
  exact result_of_walked (by simpa using more) found

theorem result_of_assign {node updated : Value} {hop : Hop} (assigned : node.assign hop value = .ok updated) :
    (writeThrough context (.present value) [.go hop] node).result = .ok () := by
  rw [writeThrough_singleton]
  simp only [write_go, assigned]

theorem result_of_assign_refused {node : Value} {hop : Hop} {failure : LookupFailure}
    (refused : node.assign hop value = .error failure) :
    (writeThrough context (.present value) [.go hop] node).result = .error (.lookup failure) := by
  rw [writeThrough_singleton]
  simp only [write_go, refused]

/-- A key that a mapping lacks is made, and so are the keys behind it up to the first attribute, which an empty mapping
does not have. -/
theorem result_of_missing_key {entries : List (String × Value)} {hop : Hop} {name : String}
    (asked : hop.key? = some name) (missing : entries.lookup name = none) (back : List Hop) :
    (writeThrough context (.present value) ((hop :: back).map Step.go) (mapping entries)).result =
      match back.findSome? Hop.attribute? with
      | none => .ok ()
      | some other => .error (.lookup (.attributeNotFound "mapping" other)) := by
  induction back generalizing hop entries name with
  | nil =>
    have selected : (mapping entries).select .itemAccess hop = .ok (.key name) :=
      select_mapping_eq_ok_iff.2 ⟨name, asked, rfl⟩
    exact result_of_assign (assign_of_accepts selected rfl value)
  | cons next rest ih =>
    have more : (next :: rest).map Step.go ≠ [] := List.cons_ne_nil _ _
    rw [List.map_cons, writeThrough_of_entered more (enter_of_missing asked missing), List.findSome?_cons]
    cases named : next.attribute? with
    | some other =>
      obtain rfl := Hop.attribute?_eq_some_iff.1 named
      cases rest <;> rfl
    | none =>
      -- The child that was made is an empty mapping, which lacks the next key too.
      obtain ⟨key, asks⟩ := Hop.exists_key_of_attribute? named
      exact ih asks rfl

/-- Another place without a child is taken by the last hop alone, and only where a new child is accepted. -/
theorem result_of_missing_place {node : Value} {hop : Hop} {place : Selector}
    (selected : node.select .itemAccess hop = .ok place) (noKey : ∀ name, place ≠ .key name)
    (missing : node.child? place = none) (back : List Hop) :
    (writeThrough context (.present value) ((hop :: back).map Step.go) node).result =
      if back = [] ∧ node.accepts place = true then .ok () else .error (.lookup (node.absence place)) := by
  cases back with
  | nil =>
    have chosen : node.select .itemAssignment hop = .ok place := select_eq_ok_iff.1 selected
    cases accepted : node.accepts place with
    | true => exact result_of_assign (assign_of_accepts selected accepted value)
    | false =>
      have refused : node.assign hop value = .error (node.absence place) := by simp [Value.assign, chosen, accepted]
      exact result_of_assign_refused refused
  | cons next rest =>
    have more : (next :: rest).map Step.go ≠ [] := List.cons_ne_nil _ _
    have refused : (Step.go hop).enter node = .error (.lookup (node.absence place)) := by
      simp only [Step.enter, Value.enter_eq, selected, missing]
      cases place with
      | key name => exact absurd rfl (noKey name)
      | index position => rfl
      | field name => rfl
    rw [List.map_cons, writeThrough_of_refused more refused]
    simp

/-- A hop that selects nothing fails a store as it fails a load, but for the wording when it is a last item. -/
theorem result_of_refused {node : Value} {hop : Hop} {failure : LookupFailure}
    (refused : node.select .itemAccess hop = .error failure) (back : List Hop) :
    (AsksLastItem node hop back → failure = .unsupported node.typeName .itemAccess ∧
      (writeThrough context (.present value) ((hop :: back).map Step.go) node).result =
        .error (.lookup (.unsupported node.typeName .itemAssignment))) ∧
    (¬ AsksLastItem node hop back →
      (writeThrough context (.present value) ((hop :: back).map Step.go) node).result = .error (.lookup failure)) := by
  cases back with
  | nil =>
    have stops {other : LookupFailure} (stopped : node.select .itemAssignment hop = .error other) :
        (writeThrough context (.present value) [.go hop] node).result = .error (.lookup other) :=
      result_of_assign_refused (by simp only [Value.assign, stopped])
    constructor
    · rintro ⟨-, item, noItems⟩
      have worded : failure = .unsupported node.typeName .itemAccess ∧
          node.select .itemAssignment hop = .error (.unsupported node.typeName .itemAssignment) := by
        cases hop <;> cases node <;> simp_all [select, selectItem, hasItems, Hop.isItem]
      exact ⟨worded.1, stops worded.2⟩
    · intro other
      have same : node.select .itemAssignment hop = .error failure := by
        cases hop <;> cases node <;> simp_all [AsksLastItem, select, selectItem, hasItems, Hop.isItem]
      exact stops same
  | cons next rest =>
    refine ⟨fun last => absurd last.1 (List.cons_ne_nil _ _), fun _ => ?_⟩
    have more : (next :: rest).map Step.go ≠ [] := List.cons_ne_nil _ _
    have stops : (Step.go hop).enter node = .error (.lookup failure) :=
      enter_go_of_error (by simp only [Value.enter_eq, refused])
    rw [List.map_cons, writeThrough_of_refused more stops]

/-- What a load finds can be replaced. -/
theorem result_of_found {data found : Value} {hops : List Hop} (nonempty : hops ≠ [])
    (reads : data.walk hops = .ok found) :
    (writeThrough context (.present value) (hops.map Step.go) data).result = .ok () := by
  have split := List.dropLast_concat_getLast nonempty
  rw [← split, walk_append] at reads
  cases reached : data.walk hops.dropLast with
  | error failure =>
    rw [reached] at reads
    contradiction
  | ok node =>
    simp only [reached, walk_singleton] at reads
    obtain ⟨place, selected, held⟩ := get_eq_ok_iff.1 reads
    have assigned := assign_of_accepts selected (accepts_of_child? held) value
    rw [← split, result_of_walk (List.cons_ne_nil _ _) reached]
    exact result_of_assign assigned

end Result

theorem makesKeys_iff {key : String} {back : List Hop} :
    MakesKeys (.missingKey key) back ↔ back.findSome? Hop.attribute? = none := by
  simp only [MakesKeys, LookupFailure.missingKey.injEq, exists_eq', true_and, List.findSome?_eq_none_iff]
  constructor
  · intro free hop member
    cases named : hop.attribute? with
    | none => rfl
    | some name =>
      rw [Hop.attribute?_eq_some_iff.1 named] at member
      exact absurd member (free name)
  · intro free name member
    exact absurd (free _ member) (by simp [Hop.attribute?])

/-- A place other than a key that is accepted without a child is a new field of an extensible record. -/
theorem makesField_iff {node : Value} {hop : Hop} {place : Selector}
    (selected : node.select .itemAccess hop = .ok place) (noKey : ∀ name, place ≠ .key name)
    (missing : node.child? place = none) (back : List Hop) :
    MakesField node hop back ↔ back = [] ∧ node.accepts place = true := by
  constructor
  · rintro ⟨last, ⟨name, rfl | rfl⟩, typeName, fields, rfl⟩ <;>
    · obtain rfl : Selector.field name = place := Except.ok.inj selected
      exact ⟨last, rfl⟩
  · rintro ⟨last, accepted⟩
    rcases gains_of_accepts accepted missing with ⟨entries, rfl⟩ | ⟨typeName, fields, rfl⟩
    · obtain ⟨name, -, isKey⟩ := select_mapping_eq_ok_iff.1 selected
      exact absurd isKey (noKey name)
    · refine ⟨last, ?_, typeName, fields, rfl⟩
      cases hop with
      | item key => simp [select, selectItem] at selected
      | attr name => exact ⟨name, .inl rfl⟩
      | segment name => exact ⟨name, .inr rfl⟩

theorem absence_ne_missingKey {node : Value} {place : Selector} (noKey : ∀ name, place ≠ .key name) (key : String) :
    node.absence place ≠ .missingKey key := by
  cases place with
  | key name => exact absurd rfl (noKey name)
  | index position => cases node <;> simp [absence]
  | field name => simp [absence]

theorem ne_missingKey_of_refused {node : Value} {hop : Hop} {failure : LookupFailure}
    (refused : node.select .itemAccess hop = .error failure) (key : String) : failure ≠ .missingKey key := by
  rintro rfl
  cases node <;> cases hop <;> simp [select, selectItem, selectAttribute, hasItems, hasAttributes] at refused <;>
    split at refused <;> simp at refused

/-- An item that is selected is asked of a container that has items. -/
theorem not_asksLastItem {node : Value} {hop : Hop} {place : Selector}
    (selected : node.select .itemAccess hop = .ok place) (back : List Hop) : ¬ AsksLastItem node hop back := by
  rintro ⟨-, item, noItems⟩
  cases hop <;> cases node <;> simp_all [select, selectItem, hasItems, Hop.isItem]

/-- What becomes of a store whose first hop finds nothing. -/
theorem result_of_miss {node value : Value} {hop : Hop} {failure : LookupFailure} {context : Option MergeContext}
    (misses : node.get hop = .error failure) (back : List Hop) :
    let result := (writeThrough context (.present value) ((hop :: back).map Step.go) node).result
    (result = .ok () ↔ MakesKeys failure back ∨ MakesField node hop back) ∧
      (∀ key, failure = .missingKey key → ¬ MakesKeys failure back →
        ∃ name, back.findSome? Hop.attribute? = some name ∧
          result = .error (.lookup (.attributeNotFound "mapping" name))) ∧
      ((∀ key, failure ≠ .missingKey key) → ¬ MakesField node hop back →
        (AsksLastItem node hop back → failure = .unsupported node.typeName .itemAccess ∧
          result = .error (.lookup (.unsupported node.typeName .itemAssignment))) ∧
        (¬ AsksLastItem node hop back → result = .error (.lookup failure))) := by
  intro result
  cases missed_of_get misses with
  | @key entries _ name asked missing =>
    have noField : ¬ MakesField (mapping entries) hop back := by
      rintro ⟨-, -, typeName, fields, same⟩
      contradiction
    have outcome : result = _ := result_of_missing_key asked missing back
    rw [outcome, makesKeys_iff]
    refine ⟨?_, ?_, fun noKey => absurd rfl (noKey name)⟩
    · cases back.findSome? Hop.attribute? <;> simp [noField]
    · intro key _ blocked
      obtain ⟨first, named⟩ := Option.ne_none_iff_exists'.1 blocked
      exact ⟨first, named, by rw [named]⟩
  | @place _ _ place selected noKey missing =>
    have otherwise : ∀ key, node.absence place ≠ .missingKey key := absence_ne_missingKey noKey
    have noKeys : ¬ MakesKeys (node.absence place) back := fun made => made.1.elim otherwise
    have outcome : result = _ := result_of_missing_place selected noKey missing back
    rw [outcome, makesField_iff selected noKey missing]
    refine ⟨?_, fun key isKey => absurd isKey (otherwise key), fun _ notField => ⟨?_, fun _ => if_neg notField⟩⟩
    · by_cases made : back = [] ∧ node.accepts place = true <;> simp [made, noKeys]
    · exact fun last => absurd last (not_asksLastItem selected back)
  | refused refused =>
    have otherwise := ne_missingKey_of_refused refused
    have noKeys : ¬ MakesKeys failure back := fun made => made.1.elim otherwise
    have noField : ¬ MakesField node hop back := by
      rintro ⟨-, ⟨name, rfl | rfl⟩, typeName, fields, rfl⟩ <;>
        simp [select, selectAttribute, hasItems, hasAttributes] at refused
    obtain ⟨reworded, plain⟩ := result_of_refused refused back
    refine ⟨?_, fun key isKey => absurd isKey (otherwise key), fun _ _ => ⟨reworded, plain⟩⟩
    simp only [noKeys, noField, or_self, iff_false]
    by_cases last : AsksLastItem node hop back
    · rw [show result = _ from (reworded last).2]
      simp
    · rw [show result = _ from plain last]
      simp

/-- A store through hops succeeds where the load finds a value. Where it does not, the first look-up that fails decides:
the store succeeds exactly if it can make what is missing, and else fails at an attribute of a mapping that it made, or
with the failure of the load. -/
theorem store_succeeds_iff {data value : Value} {hops : List Hop} {context : Option MergeContext}
    (nonempty : hops ≠ []) :
    let stored := (store data (.ofHops .target hops) (.present value) context).result
    let loaded := (load data (.ofHops .source hops)).result
    (∀ found, loaded = .ok (.present found) → stored = .ok ()) ∧
    ((∀ found, loaded ≠ .ok (.present found)) →
      ∃ front hop back node failure, hops = front ++ hop :: back ∧
        (load data (.ofHops .source front)).result = .ok (.present node) ∧
        (load data (.ofHops .source (front ++ [hop]))).result = .ok .notPresent ∧
        (load data ((Locator.ofHops .source hops).extend [.required])).result = .error (.lookup failure) ∧
        (stored = .ok () ↔ MakesKeys failure back ∨ MakesField node hop back) ∧
        (∀ key, failure = .missingKey key → ¬ MakesKeys failure back →
          ∃ name, back.findSome? Hop.attribute? = some name ∧
            stored = .error (.lookup (.attributeNotFound "mapping" name))) ∧
        ((∀ key, failure ≠ .missingKey key) → ¬ MakesField node hop back →
          (AsksLastItem node hop back → failure = .unsupported node.typeName .itemAccess ∧
            stored = .error (.lookup (.unsupported node.typeName .itemAssignment))) ∧
          (¬ AsksLastItem node hop back → stored = .error (.lookup failure)))) := by
  intro stored loaded
  have same : stored = (writeThrough context (.present value) (hops.map Step.go) data).result :=
    congrArg Outcome.result (store_ofHops nonempty data value)
  refine ⟨fun found reads => ?_, fun absent => ?_⟩
  · exact same.trans (result_of_found nonempty (load_ofHops_eq_present_iff.1 reads))
  · cases walked : data.walk hops with
    | ok found => exact absurd (load_ofHops_eq_present_iff.2 walked) (absent found)
    | error failure =>
      obtain ⟨front, hop, back, node, rfl, reached, misses⟩ := exists_miss_of_walk walked
      rw [result_of_walk (List.cons_ne_nil hop back) reached] at same
      have stops : data.walk (front ++ [hop]) = .error failure := by
        rw [walk_append, reached]
        exact (walk_singleton node hop).trans misses
      refine ⟨front, hop, back, node, failure, rfl, load_ofHops_eq_present_iff.2 reached,
        load_ofHops_eq_notPresent_iff.2 ⟨failure, stops⟩, load_ofHops_required walked, ?_⟩
      rw [same]
      exact result_of_miss misses back

/-- A field that an extensible record lacks is what a load misses and a store makes. -/
theorem store_succeeds_iff_new_field :
    let data : Value := .mapping [("server", .record "Server" .extensible [("host", .null)])]
    let hops : List Hop := [.segment "server", .segment "port"]
    let stored := (store data (.ofHops .target hops) (.present (.bool true)) none).result
    hops ≠ [] ∧ (∀ found, (load data (.ofHops .source hops)).result ≠ .ok (.present found)) ∧
      ∃ front hop back node failure, hops = front ++ hop :: back ∧
        (load data (.ofHops .source front)).result = .ok (.present node) ∧
        (stored = .ok () ↔ MakesKeys failure back ∨ MakesField node hop back) := by
  intro data hops stored
  have nonempty : hops ≠ [] := List.cons_ne_nil _ _
  have absent : ∀ found, (load data (.ofHops .source hops)).result ≠ .ok (.present found) := by
    intro found reads
    have nothing : (load data (.ofHops .source hops)).result = .ok .notPresent := rfl
    rw [nothing] at reads
    simp at reads
  obtain ⟨front, hop, back, node, failure, split, reached, -, -, decides, -⟩ :=
    (store_succeeds_iff nonempty).2 absent
  exact ⟨nonempty, absent, front, hop, back, node, failure, split, reached, decides⟩

end DataLocator
