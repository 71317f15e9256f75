/-! # Entries in key order

Mappings and the fields of records are lists of pairs in increasing order of their keys, and look-up is
core's `List.lookup`. `insert` replaces the value of a key that is there and otherwise puts a new pair in
front of the first greater key, so that an ordered list stays ordered (`Ordered.insert`). It changes what is
found at its own key alone (`lookup_insert_self`, `lookup_insert_of_ne`), and pairs with different keys can be inserted
in either order (`insert_comm`).
-/

namespace DataLocator.Entries

variable {α : Type}

/-- The entries with another value at a key they hold already. -/
def replace (key : String) (value : α) : List (String × α) → List (String × α)
  | [] => []
  | (name, old) :: rest => if key = name then (name, value) :: rest else (name, old) :: replace key value rest

/-- The entries with a new pair in front of the first greater key. -/
def place (key : String) (value : α) : List (String × α) → List (String × α)
  | [] => [(key, value)]
  | (name, old) :: rest =>
    if key < name then (key, value) :: (name, old) :: rest else (name, old) :: place key value rest

def insert (key : String) (value : α) (entries : List (String × α)) : List (String × α) :=
  match entries.lookup key with
  | some _ => replace key value entries
  | none => place key value entries

/-- The entries that the pairs leave when they are inserted one after the other. -/
def ofList (pairs : List (String × α)) : List (String × α) :=
  pairs.foldl (fun entries pair => insert pair.1 pair.2 entries) []

/-- Each key is less than every later one. -/
def Ordered (entries : List (String × α)) : Prop := (entries.map Prod.fst).Pairwise (· < ·)

instance (entries : List (String × α)) : Decidable (Ordered entries) :=
  inferInstanceAs (Decidable (List.Pairwise _ _))

/-- Look-up on a nonempty list as a choice between the first pair and the others. -/
theorem lookup_cons (key : String) (pair : String × α) (rest : List (String × α)) :
    (pair :: rest).lookup key = if key = pair.1 then some pair.2 else rest.lookup key := by
  obtain ⟨name, value⟩ := pair
  rw [List.lookup_cons]
  by_cases same : key = name
  · simp [same]
  · have differs : (key == name) = false := by simpa using same
    simp [differs, same]

theorem lookup_replace_self {key : String} {value old : α} {entries : List (String × α)}
    (held : entries.lookup key = some old) : (replace key value entries).lookup key = some value := by
  induction entries with
  | nil => simp at held
  | cons pair rest ih =>
    rw [lookup_cons] at held
    by_cases same : key = pair.1
    · simp [replace, same]
    · simp only [same, ↓reduceIte] at held
      simp [replace, same, lookup_cons, ih held]

theorem lookup_replace_of_ne {key other : String} (ne : other ≠ key) (value : α) (entries : List (String × α)) :
    (replace key value entries).lookup other = entries.lookup other := by
  induction entries with
  | nil => rfl
  | cons pair rest ih =>
    by_cases same : key = pair.1
    · subst same
      simp [replace, lookup_cons, ne]
    · simp [replace, same, lookup_cons, ih]

theorem lookup_place_self {key : String} {value : α} {entries : List (String × α)}
    (missing : entries.lookup key = none) : (place key value entries).lookup key = some value := by
  induction entries with
  | nil => simp [place]
  | cons pair rest ih =>
    rw [lookup_cons] at missing
    by_cases smaller : key < pair.1
    · simp [place, smaller]
    · by_cases same : key = pair.1
      · simp [same] at missing
      · simp only [same, ↓reduceIte] at missing
        simp [place, smaller, lookup_cons, same, ih missing]

theorem lookup_place_of_ne {key other : String} (ne : other ≠ key) (value : α) (entries : List (String × α)) :
    (place key value entries).lookup other = entries.lookup other := by
  induction entries with
  | nil => simp [place, lookup_cons, ne]
  | cons pair rest ih => by_cases smaller : key < pair.1 <;> simp [place, smaller, lookup_cons, ne, ih]

@[simp] theorem lookup_insert_self (key : String) (value : α) (entries : List (String × α)) :
    (insert key value entries).lookup key = some value := by
  unfold insert
  split
  · next held => exact lookup_replace_self held
  · next missing => exact lookup_place_self missing

theorem lookup_insert_of_ne {key other : String} (ne : other ≠ key) (value : α) (entries : List (String × α)) :
    (insert key value entries).lookup other = entries.lookup other := by
  unfold insert
  split
  · exact lookup_replace_of_ne ne value entries
  · exact lookup_place_of_ne ne value entries

theorem replace_of_lookup {key : String} {value : α} {entries : List (String × α)}
    (held : entries.lookup key = some value) : replace key value entries = entries := by
  induction entries with
  | nil => rfl
  | cons pair rest ih =>
    rw [lookup_cons] at held
    by_cases same : key = pair.1
    · simp only [same, ↓reduceIte, Option.some.injEq] at held
      simp [replace, same, ← held]
    · simp only [same, ↓reduceIte] at held
      simp [replace, same, ih held]

theorem replace_replace (key : String) (value old : α) (entries : List (String × α)) :
    replace key value (replace key old entries) = replace key value entries := by
  induction entries with
  | nil => rfl
  | cons pair rest ih => by_cases same : key = pair.1 <;> simp [replace, same, ih]

theorem replace_place {key : String} {entries : List (String × α)} (missing : entries.lookup key = none)
    (value old : α) : replace key value (place key old entries) = place key value entries := by
  induction entries with
  | nil => simp [place, replace]
  | cons pair rest ih =>
    rw [lookup_cons] at missing
    by_cases smaller : key < pair.1
    · simp [place, smaller, replace]
    · by_cases same : key = pair.1
      · simp [same] at missing
      · simp only [same, ↓reduceIte] at missing
        simp [place, smaller, replace, same, ih missing]

theorem insert_of_lookup {key : String} {value : α} {entries : List (String × α)}
    (held : entries.lookup key = some value) : insert key value entries = entries := by
  simp only [insert, held]
  exact replace_of_lookup held

/-- Of two insertions at one key the second counts. -/
theorem insert_insert (key : String) (value old : α) (entries : List (String × α)) :
    insert key value (insert key old entries) = insert key value entries := by
  have again : insert key value (insert key old entries) = replace key value (insert key old entries) := by
    rw [insert, lookup_insert_self]
  rw [again]
  unfold insert
  cases held : entries.lookup key with
  | some other => exact replace_replace key value old entries
  | none => exact replace_place held value old

theorem replace_comm {key other : String} (ne : key ≠ other) (value extra : α) (entries : List (String × α)) :
    replace key value (replace other extra entries) = replace other extra (replace key value entries) := by
  induction entries with
  | nil => rfl
  | cons pair rest ih =>
    by_cases first : key = pair.1
    · subst first
      simp [replace, ne.symm]
    · by_cases second : other = pair.1
      · subst second
        simp [replace, ne]
      · simp [replace, first, second, ih]

theorem replace_place_of_ne {key other : String} (ne : key ≠ other) (value extra : α) (entries : List (String × α)) :
    replace key value (place other extra entries) = place other extra (replace key value entries) := by
  induction entries with
  | nil => simp [replace, place, ne]
  | cons pair rest ih =>
    by_cases same : key = pair.1
    · subst same
      by_cases smaller : other < pair.1 <;> simp [place, replace, smaller, ne]
    · by_cases smaller : other < pair.1 <;> simp [place, replace, smaller, same, ne, ih]

private theorem place_place_of_lt {key other : String} (smaller : key < other) (value extra : α)
    (entries : List (String × α)) :
    place key value (place other extra entries) = place other extra (place key value entries) := by
  have behind : ¬ other < key := fun larger => String.lt_irrefl key (String.lt_trans smaller larger)
  induction entries with
  | nil => simp [place, smaller, behind]
  | cons pair rest ih =>
    by_cases upper : other < pair.1
    · have lower : key < pair.1 := String.lt_trans smaller upper
      simp [place, upper, lower, smaller, behind]
    · by_cases lower : key < pair.1 <;> simp [place, upper, lower, behind, ih]

theorem place_comm {key other : String} (ne : key ≠ other) (value extra : α) (entries : List (String × α)) :
    place key value (place other extra entries) = place other extra (place key value entries) := by
  by_cases smaller : key < other
  · exact place_place_of_lt smaller value extra entries
  · have larger : other < key := String.not_le.1 fun le => ne (String.le_antisymm le (String.not_lt.1 smaller))
    exact (place_place_of_lt larger extra value entries).symm

/-- Insertions at two keys can be made in either order. -/
theorem insert_comm {key other : String} (ne : key ≠ other) (value extra : α) (entries : List (String × α)) :
    insert key value (insert other extra entries) = insert other extra (insert key value entries) := by
  have atKey : (insert other extra entries).lookup key = entries.lookup key := lookup_insert_of_ne ne extra entries
  have atOther : (insert key value entries).lookup other = entries.lookup other :=
    lookup_insert_of_ne ne.symm value entries
  unfold insert at atKey atOther ⊢
  rw [atKey, atOther]
  cases entries.lookup key <;> cases entries.lookup other
  · exact place_comm ne value extra entries
  · exact (replace_place_of_ne ne.symm extra value entries).symm
  · exact replace_place_of_ne ne value extra entries
  · exact replace_comm ne value extra entries

theorem map_fst_replace (key : String) (value : α) (entries : List (String × α)) :
    (replace key value entries).map Prod.fst = entries.map Prod.fst := by
  induction entries with
  | nil => rfl
  | cons pair rest ih => by_cases same : key = pair.1 <;> simp [replace, same, ih]

/-- A key that is there already is not there again. -/
theorem map_fst_insert_of_lookup {key : String} {old : α} {entries : List (String × α)}
    (held : entries.lookup key = some old) (value : α) :
    (insert key value entries).map Prod.fst = entries.map Prod.fst := by
  simp only [insert, held]
  exact map_fst_replace key value entries

theorem mem_map_fst_place {key name : String} {value : α} {entries : List (String × α)} :
    name ∈ (place key value entries).map Prod.fst ↔ name = key ∨ name ∈ entries.map Prod.fst := by
  induction entries with
  | nil => simp [place]
  | cons pair rest ih =>
    by_cases smaller : key < pair.1
    · simp [place, smaller]
    · simp only [place, smaller, ↓reduceIte, List.map_cons, List.mem_cons, ih]
      exact or_left_comm

theorem Ordered.place {key : String} {entries : List (String × α)} (ordered : Ordered entries) (value : α)
    (missing : entries.lookup key = none) : Ordered (place key value entries) := by
  induction entries with
  | nil => simp [Ordered, Entries.place]
  | cons pair rest ih =>
    rw [lookup_cons] at missing
    obtain ⟨first, later⟩ := List.pairwise_cons.1 ordered
    by_cases smaller : key < pair.1
    · simp only [Entries.place, smaller, ↓reduceIte]
      refine List.pairwise_cons.2 ⟨fun name member => ?_, ordered⟩
      rcases List.mem_cons.1 member with rfl | member
      · exact smaller
      · exact String.lt_trans smaller (first name member)
    · by_cases same : key = pair.1
      · simp [same] at missing
      · simp only [same, ↓reduceIte] at missing
        simp only [Entries.place, smaller, ↓reduceIte]
        refine List.pairwise_cons.2 ⟨fun name member => ?_, ih later missing⟩
        rcases mem_map_fst_place.1 member with rfl | member
        · exact String.not_le.1 fun le => same (String.le_antisymm le (String.not_lt.1 smaller))
        · exact first name member

theorem Ordered.insert {entries : List (String × α)} (ordered : Ordered entries) (key : String) (value : α) :
    Ordered (insert key value entries) := by
  unfold Entries.insert
  split
  · simpa only [Ordered, map_fst_replace] using ordered
  · next missing => exact ordered.place value missing

theorem ordered_ofList (pairs : List (String × α)) : Ordered (ofList pairs) :=
  List.foldlRecOn pairs _ (by simp [Ordered]) fun _ ordered pair _ => ordered.insert pair.1 pair.2

theorem mem_of_lookup {key : String} {value : α} {entries : List (String × α)}
    (held : entries.lookup key = some value) : (key, value) ∈ entries := by
  obtain ⟨front, back, rfl, -⟩ := List.lookup_eq_some_iff.1 held
  simp

section Forall

variable {P : α → Prop} {key : String} {value : α} {entries : List (String × α)}

theorem forall_mem_replace (holds : P value) (each : ∀ pair ∈ entries, P pair.2) :
    ∀ pair ∈ replace key value entries, P pair.2 := by
  induction entries with
  | nil => exact each
  | cons first rest ih =>
    obtain ⟨atFirst, later⟩ := List.forall_mem_cons.1 each
    unfold replace
    split
    · exact List.forall_mem_cons.2 ⟨holds, later⟩
    · exact List.forall_mem_cons.2 ⟨atFirst, ih later⟩

theorem forall_mem_place (holds : P value) (each : ∀ pair ∈ entries, P pair.2) :
    ∀ pair ∈ place key value entries, P pair.2 := by
  induction entries with
  | nil => exact List.forall_mem_cons.2 ⟨holds, each⟩
  | cons first rest ih =>
    obtain ⟨atFirst, later⟩ := List.forall_mem_cons.1 each
    unfold place
    split
    · exact List.forall_mem_cons.2 ⟨holds, each⟩
    · exact List.forall_mem_cons.2 ⟨atFirst, ih later⟩

/-- What holds of all values holds of them after an insertion too, if it holds of the one inserted. -/
theorem forall_mem_insert (holds : P value) (each : ∀ pair ∈ entries, P pair.2) :
    ∀ pair ∈ insert key value entries, P pair.2 := by
  unfold insert
  split
  · exact forall_mem_replace holds each
  · exact forall_mem_place holds each

theorem forall_mem_ofList {pairs : List (String × α)} (each : ∀ pair ∈ pairs, P pair.2) :
    ∀ pair ∈ ofList pairs, P pair.2 := by
  have nothing : ∀ pair ∈ ([] : List (String × α)), P pair.2 := fun _ member => absurd member List.not_mem_nil
  exact List.foldlRecOn (motive := fun entries : List (String × α) => ∀ pair ∈ entries, P pair.2) pairs _ nothing
    fun _ inserted pair member => forall_mem_insert (each pair member) inserted

end Forall

/-- A key below all others is not there. -/
theorem lookup_of_forall_lt {key : String} {entries : List (String × α)}
    (below : ∀ name ∈ entries.map Prod.fst, key < name) : entries.lookup key = none := by
  rw [List.lookup_eq_none_iff]
  intro pair member
  have smaller : key < pair.1 := below pair.1 (List.mem_map_of_mem member)
  have differs : key ≠ pair.1 := fun same => String.lt_irrefl pair.1 (same ▸ smaller)
  simpa using differs

section Cons

variable {pair : String × α} {rest : List (String × α)}

theorem Ordered.tail (ordered : Ordered (pair :: rest)) : Ordered rest := (List.pairwise_cons.1 ordered).2

/-- The first key is not there again. -/
theorem Ordered.lookup_tail (ordered : Ordered (pair :: rest)) : rest.lookup pair.1 = none :=
  lookup_of_forall_lt (List.pairwise_cons.1 ordered).1

theorem Ordered.lookup_of_lt (ordered : Ordered (pair :: rest)) {key : String} (smaller : key < pair.1) :
    (pair :: rest).lookup key = none := by
  refine lookup_of_forall_lt fun name member => ?_
  rcases List.mem_cons.1 member with rfl | member
  · exact smaller
  · exact String.lt_trans smaller ((List.pairwise_cons.1 ordered).1 name member)

end Cons

theorem Ordered.lookup_of_mem {pair : String × α} {entries : List (String × α)} (ordered : Ordered entries)
    (member : pair ∈ entries) : entries.lookup pair.1 = some pair.2 := by
  induction entries with
  | nil => contradiction
  | cons first rest ih =>
    rcases List.mem_cons.1 member with rfl | later
    · rw [lookup_cons, if_pos rfl]
    · have held := ih ordered.tail later
      have other : pair.1 ≠ first.1 := by
        intro same
        rw [same, ordered.lookup_tail] at held
        contradiction
      rw [lookup_cons, if_neg other, held]

/-- Ordered entries are known by what is found at each key. -/
theorem Ordered.ext {entries others : List (String × α)} (ordered : Ordered entries) (also : Ordered others)
    (same : ∀ key, entries.lookup key = others.lookup key) : entries = others := by
  induction entries generalizing others with
  | nil =>
    cases others with
    | nil => rfl
    | cons pair rest => simpa [lookup_cons] using same pair.1
  | cons pair rest ih =>
    cases others with
    | nil => simpa [lookup_cons] using same pair.1
    | cons other more =>
      have atPair := same pair.1
      have atOther := same other.1
      -- Neither of the two first keys is below the other, for then the other list would not hold it.
      have notBelow : ¬ pair.1 < other.1 := by
        intro smaller
        rw [also.lookup_of_lt smaller] at atPair
        simp [lookup_cons] at atPair
      have notAbove : ¬ other.1 < pair.1 := by
        intro smaller
        rw [ordered.lookup_of_lt smaller] at atOther
        simp [lookup_cons] at atOther
      have keys : pair.1 = other.1 := String.le_antisymm (String.not_lt.1 notAbove) (String.not_lt.1 notBelow)
      have values : pair.2 = other.2 := by simpa [lookup_cons, keys] using atPair
      have rests : rest = more := by
        refine ih ordered.tail also.tail fun key => ?_
        by_cases first : key = pair.1
        · rw [first, ordered.lookup_tail, keys, also.lookup_tail]
        · have later := same key
          rw [lookup_cons, lookup_cons, if_neg first, if_neg (keys ▸ first)] at later
          exact later
      rw [rests, Prod.ext keys values]

theorem sizeOf_lt_of_mem [SizeOf α] {pair : String × α} {entries : List (String × α)} (member : pair ∈ entries) :
    sizeOf pair.2 < sizeOf entries := by
  have smaller : sizeOf pair.2 < sizeOf pair := by
    obtain ⟨name, value⟩ := pair
    simp only [Prod.mk.sizeOf_spec]
    omega
  exact Nat.lt_trans smaller (List.sizeOf_lt_of_mem member)

/-- Insertions of ordered pairs put each of them above what was there. -/
theorem lookup_foldl_insert {pairs : List (String × α)} (ordered : Ordered pairs) (entries : List (String × α))
    (key : String) :
    (pairs.foldl (fun entries pair => insert pair.1 pair.2 entries) entries).lookup key =
      (pairs.lookup key).or (entries.lookup key) := by
  induction pairs generalizing entries with
  | nil => rfl
  | cons pair rest ih =>
    rw [List.foldl_cons, ih ordered.tail, lookup_cons]
    by_cases first : key = pair.1
    · subst first
      rw [ordered.lookup_tail, lookup_insert_self, if_pos rfl]
      rfl
    · rw [lookup_insert_of_ne first, if_neg first]

/-- Ordered pairs are the entries that they leave. -/
theorem ofList_of_ordered {pairs : List (String × α)} (ordered : Ordered pairs) : ofList pairs = pairs := by
  refine (ordered_ofList pairs).ext ordered fun key => ?_
  rw [ofList, lookup_foldl_insert ordered, List.lookup_nil, Option.or_none]

section Map

variable {β : Type} (f : α → β) (key : String) (value : α) (entries : List (String × α))

theorem lookup_map_snd : (entries.map fun pair => (pair.1, f pair.2)).lookup key = (entries.lookup key).map f := by
  induction entries with
  | nil => rfl
  | cons pair rest ih =>
    rw [List.map_cons, lookup_cons, lookup_cons, ih]
    split <;> rfl

theorem replace_map_snd :
    replace key (f value) (entries.map fun pair => (pair.1, f pair.2)) =
      (replace key value entries).map fun pair => (pair.1, f pair.2) := by
  induction entries with
  | nil => rfl
  | cons pair rest ih => by_cases same : key = pair.1 <;> simp [replace, same, ih]

theorem place_map_snd :
    place key (f value) (entries.map fun pair => (pair.1, f pair.2)) =
      (place key value entries).map fun pair => (pair.1, f pair.2) := by
  induction entries with
  | nil => rfl
  | cons pair rest ih => by_cases smaller : key < pair.1 <;> simp [place, smaller, ih]

theorem insert_map_snd :
    insert key (f value) (entries.map fun pair => (pair.1, f pair.2)) =
      (insert key value entries).map fun pair => (pair.1, f pair.2) := by
  unfold insert
  rw [lookup_map_snd]
  cases entries.lookup key with
  | some old => exact replace_map_snd f key value entries
  | none => exact place_map_snd f key value entries

end Map

theorem Ordered.map_snd {β : Type} {entries : List (String × α)} (ordered : Ordered entries) (f : α → β) :
    Ordered (entries.map fun pair => (pair.1, f pair.2)) := by
  rw [Ordered, List.map_map]
  exact ordered

end DataLocator.Entries
