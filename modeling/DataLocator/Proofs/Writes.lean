import DataLocator.Proofs.Divergence

/-! # Writes in a row

Values are put at the ends of chains of hops, one after the other, as stores put them that all succeed
(`storeAll_of_takesAll`). A value stays where later chains diverge from its own (`walk_putAll`), and writes whose chains
all diverge from each other can be made in any order (`takesAll_iff_forall`, `putAll_perm`). Writes that are all made
once more have nothing left to change, however they overlap (`putAll_again`).
-/

namespace DataLocator

/-- A value, and the hops to the place where it goes. -/
structure Write where
  hops : List Hop
  value : Value

/-- The write with a hop in front. -/
def Write.behind (hop : Hop) (write : Write) : Write := { write with hops := hop :: write.hops }

/-- Stores the values of all writes, one after the other, up to the first store that fails. -/
def storeAll (context : Option MergeContext) (data : Value) : List Write → Except Failure Value
  | [] => .ok data
  | write :: rest =>
    let stored := store data (.ofHops .target write.hops) (.present write.value) context
    match stored.result with
    | .ok () => storeAll context stored.data rest
    | .error failure => .error failure

namespace Value

/-- The data with the values of all writes put into it. -/
def putAll (data : Value) (writes : List Write) : Value :=
  writes.foldl (fun node write => node.put write.hops write.value) data

/-- Each write is one that a store can make on what those before it left. -/
def TakesAll (data : Value) : List Write → Prop
  | [] => True
  | write :: rest => (write.hops ≠ [] ∧ data.Takes write.hops) ∧ (data.put write.hops write.value).TakesAll rest

variable {data : Value} {hops : List Hop} {writes others : List Write}

theorem putAll_cons (data : Value) (write : Write) (rest : List Write) :
    data.putAll (write :: rest) = (data.put write.hops write.value).putAll rest := rfl

theorem putAll_append (data : Value) (front back : List Write) :
    data.putAll (front ++ back) = (data.putAll front).putAll back :=
  List.foldl_append

theorem takesAll_append {front back : List Write} :
    data.TakesAll (front ++ back) ↔ data.TakesAll front ∧ (data.putAll front).TakesAll back := by
  induction front generalizing data with
  | nil => simp [TakesAll, putAll]
  | cons write rest ih => simp only [List.cons_append, TakesAll, ih, putAll_cons, and_assoc]

/-- Writes that the data takes are all stored, and leave what putting them leaves. -/
theorem storeAll_of_takesAll (taken : data.TakesAll writes) (context : Option MergeContext) :
    storeAll context data writes = .ok (data.putAll writes) := by
  induction writes generalizing data with
  | nil => rfl
  | cons write rest ih =>
    have stored : (store data (.ofHops .target write.hops) (.present write.value) context).result = .ok () :=
      store_ofHops_eq_ok_iff.2 taken.1
    simp only [storeAll, stored]
    rw [store_ofHops_data stored]
    exact ih taken.2

/-- Writes behind a hop go into the child that is set in its slot. -/
theorem putAll_setChild {node : Value} {hop : Hop} {place : Selector} (slot : node.slot? hop = some place)
    (child : Value) (writes : List Write) :
    (node.setChild place child).putAll (writes.map (Write.behind hop)) = node.setChild place (child.putAll writes) := by
  induction writes generalizing child with
  | nil => rfl
  | cons write rest ih =>
    rw [List.map_cons, putAll_cons, putAll_cons, ← ih]
    exact congrArg (putAll · (rest.map (Write.behind hop))) (put_setChild_self slot child write.hops write.value)

/-- Writes behind a hop go into the child in its slot, which the first of them makes if it is not there. -/
theorem putAll_behind {node : Value} {hop : Hop} {place : Selector} (slot : node.slot? hop = some place)
    (nonempty : writes ≠ []) :
    node.putAll (writes.map (Write.behind hop)) = node.setChild place ((node.childOrEmpty place).putAll writes) := by
  obtain ⟨write, rest, rfl⟩ := List.exists_cons_of_ne_nil nonempty
  rw [List.map_cons, putAll_cons, putAll_cons, ← putAll_setChild slot]
  exact congrArg (putAll · (rest.map (Write.behind hop))) (put_cons_of_slot slot write.hops write.value)

/-- What is found through a chain is found again after writes that diverge from it. -/
theorem walk_putAll {found : Value} (walked : data.walk hops = .ok found)
    (diverge : ∀ write ∈ writes, Diverge hops write.hops) : (data.putAll writes).walk hops = .ok found := by
  induction writes generalizing data with
  | nil => exact walked
  | cons write rest ih =>
    rw [List.forall_mem_cons] at diverge
    exact ih (walk_put_of_diverge diverge.1 walked write.value) diverge.2

/-- Two trees that a value makes the same are also made the same by it after other writes into both. -/
theorem put_putAll_congr {first second value : Value} (same : first.put hops value = second.put hops value)
    (writes : List Write) : (first.putAll writes).put hops value = (second.putAll writes).put hops value := by
  induction writes generalizing first second with
  | nil => exact same
  | cons write rest ih => exact ih (put_congr same write.hops write.value)

/-- A write in front of writes that make it too has no effect. -/
theorem putAll_put_of_mem {write : Write} (member : write ∈ writes) (data : Value) :
    (data.put write.hops write.value).putAll writes = data.putAll writes := by
  obtain ⟨front, back, rfl⟩ := List.append_of_mem member
  have once := put_putAll_congr (put_put data write.hops write.value write.value) front
  rw [putAll_append, putAll_cons, once, ← putAll_cons, ← putAll_append]

/-- Writes that were all made have nothing left to change. -/
theorem putAll_again (data : Value) (writes : List Write) :
    (data.putAll writes).putAll writes = data.putAll writes := by
  have absorbs (some : List Write) (subset : ∀ write ∈ some, write ∈ writes) :
      (data.putAll some).putAll writes = data.putAll writes := by
    induction some generalizing data with
    | nil => rfl
    | cons write rest ih =>
      rw [List.forall_mem_cons] at subset
      rw [putAll_cons, ih (data.put write.hops write.value) subset.2, putAll_put_of_mem subset.1]
  exact absorbs writes fun _ member => member

section Diverging

variable (diverging : writes.Pairwise fun first second => Diverge first.hops second.hops)

include diverging

/-- Writes that diverge are taken one after the other exactly if each of them is taken. -/
theorem takesAll_iff_forall : data.TakesAll writes ↔ ∀ write ∈ writes, write.hops ≠ [] ∧ data.Takes write.hops := by
  induction writes generalizing data with
  | nil => simp [TakesAll]
  | cons write rest ih =>
    obtain ⟨first, later⟩ := List.pairwise_cons.1 diverging
    rw [TakesAll, ih later, List.forall_mem_cons]
    refine and_congr_right fun taken => forall₂_congr fun other member => and_congr_right fun _ => ?_
    exact takes_put_iff (first other member).symm taken.2 write.value

theorem takesAll_perm (perm : writes.Perm others) : data.TakesAll writes ↔ data.TakesAll others := by
  rw [takesAll_iff_forall diverging, takesAll_iff_forall (perm.pairwise diverging Diverge.symm)]
  simp only [perm.mem_iff]

/-- Writes that diverge can be made in any order. -/
theorem putAll_perm (perm : writes.Perm others) (data : Value) : data.putAll writes = data.putAll others := by
  have commute (first second : Write) (diverge : Diverge second.hops first.hops) (node : Value) :
      (node.put first.hops first.value).put second.hops second.value =
        (node.put second.hops second.value).put first.hops first.value :=
    put_comm diverge node second.value first.value
  have commutes := List.Pairwise.forall_of_forall_of_flip (fun _ _ _ => rfl)
    (diverging.imp fun diverge => commute _ _ diverge.symm) (diverging.imp (commute _ _))
  exact perm.foldl_eq' (fun _ first _ second node => commutes first second node) data

end Diverging

end Value

end DataLocator
