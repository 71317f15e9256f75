import DataLocator.Proofs.PlanRuns
import DataLocator.Proofs.Writes

/-! # What plans through hops write

Where the targets of all rules consist of hops, a run makes one write for each rule that finds a value. It succeeds
exactly if all sources can be loaded and the data takes the writes in a row (`run_eq_ok_iff`), and it leaves the data
with the values put into it (`takesAll_of_run`). What is known about writes in a row then holds of runs: values stay
where they were stored unless a later rule goes there (`load_of_applied`), a plan that was applied changes nothing when
it is applied again (`apply_again`), and rules that diverge can stand in any order (`apply_perm`).
-/

namespace DataLocator

def Step.hop? : Step → Option Hop
  | go hop => some hop
  | _ => none

namespace MappingRule

/-- The hops of the target. -/
def hops (rule : MappingRule) : List Hop := rule.target.steps.filterMap Step.hop?

/-- The target consists of hops. -/
def ByHops (rule : MappingRule) : Prop := rule.target = .ofHops .target rule.hops

/-- What the rule writes, if its source leads to a value. -/
def write? (raw : Value) (rule : MappingRule) : Option Write :=
  match (load raw rule.source).result with
  | .ok (.present value) => some ⟨rule.hops, value⟩
  | _ => none

variable {raw data value : Value} {context : Option MergeContext} {rule : MappingRule}

theorem write?_eq_some_iff {write : Write} :
    rule.write? raw = some write ↔
      (load raw rule.source).result = .ok (.present write.value) ∧ write.hops = rule.hops := by
  obtain ⟨hops, value⟩ := write
  unfold write?
  split
  · next found => simp [found, and_comm, eq_comm]
  · next other =>
    simp only [reduceCtorEq, false_iff]
    exact fun both => other _ both.1

theorem ByHops.store_eq_ok_iff (byHops : rule.ByHops) :
    (store data rule.target (.present value) context).result = .ok () ↔ rule.hops ≠ [] ∧ data.Takes rule.hops := by
  rw [byHops]
  exact store_ofHops_eq_ok_iff

theorem ByHops.store_data (byHops : rule.ByHops)
    (stored : (store data rule.target (.present value) context).result = .ok ()) :
    (store data rule.target (.present value) context).data = data.put rule.hops value := by
  rw [byHops] at stored ⊢
  exact store_ofHops_data stored

end MappingRule

namespace MappingPlan

/-- What the rules write. -/
def writes (raw : Value) (rules : List MappingRule) : List Write := rules.filterMap (MappingRule.write? raw)

section Run

variable {raw data value : Value} {context : Option MergeContext} {rule : MappingRule} {rules others : List MappingRule}
  {report : MappingReport}

theorem writes_cons_of_absent (absent : (load raw rule.source).result = .ok .notPresent) (rest : List MappingRule) :
    writes raw (rule :: rest) = writes raw rest :=
  List.filterMap_cons_none (by simp only [MappingRule.write?, absent])

theorem writes_cons_of_found (found : (load raw rule.source).result = .ok (.present value)) (rest : List MappingRule) :
    writes raw (rule :: rest) = ⟨rule.hops, value⟩ :: writes raw rest :=
  List.filterMap_cons_some (by simp only [MappingRule.write?, found])

/-- A run that succeeds makes its writes, each of which could be made, and no others. -/
theorem takesAll_of_run (byHops : ∀ rule ∈ rules, rule.ByHops)
    (ran : (run raw context rules data).result = .ok report) :
    data.TakesAll (writes raw rules) ∧ (run raw context rules data).data = data.putAll (writes raw rules) := by
  induction rules generalizing data report with
  | nil => exact ⟨trivial, rfl⟩
  | cons rule rest ih =>
    rw [List.forall_mem_cons] at byHops
    obtain ⟨absent, later, goesOn, rfl⟩ | ⟨value, found, stored, later, goesOn, rfl⟩ := run_cons_eq_ok_iff.1 ran
    · rw [writes_cons_of_absent absent, run_cons_of_absent absent]
      exact ih byHops.2 goesOn
    · obtain ⟨takes, left⟩ := ih byHops.2 goesOn
      rw [byHops.1.store_data stored] at takes left
      rw [writes_cons_of_found found, run_cons_of_stored found stored]
      refine ⟨⟨byHops.1.store_eq_ok_iff.1 stored, takes⟩, ?_⟩
      rw [Value.putAll_cons, ← left, ← byHops.1.store_data stored]
      rfl

/-- A run whose sources can all be loaded and whose writes can be made succeeds. -/
theorem run_of_takesAll (byHops : ∀ rule ∈ rules, rule.ByHops)
    (loads : ∀ rule ∈ rules, rule.isFound raw ∨ rule.isAbsent raw) (takes : data.TakesAll (writes raw rules)) :
    ∃ report, (run raw context rules data).result = .ok report := by
  induction rules generalizing data with
  | nil => exact ⟨{}, rfl⟩
  | cons rule rest ih =>
    rw [List.forall_mem_cons] at byHops loads
    rcases loads.1 with finds | skips
    · obtain ⟨value, found⟩ := MappingRule.isFound_iff.1 finds
      rw [writes_cons_of_found found] at takes
      obtain ⟨fits, takes⟩ := takes
      have stored : (store data rule.target (.present value) context).result = .ok () :=
        byHops.1.store_eq_ok_iff.2 fits
      rw [← byHops.1.store_data stored] at takes
      obtain ⟨later, ran⟩ := ih byHops.2 loads.2 takes
      exact ⟨_, run_cons_eq_ok_iff.2 (.inr ⟨value, found, stored, later, ran, rfl⟩)⟩
    · have absent := MappingRule.isAbsent_iff.1 skips
      rw [writes_cons_of_absent absent] at takes
      obtain ⟨later, ran⟩ := ih byHops.2 loads.2 takes
      exact ⟨_, run_cons_eq_ok_iff.2 (.inl ⟨absent, later, ran, rfl⟩)⟩

/-- A run through hops succeeds exactly if every source can be loaded and every write can be made. -/
theorem run_eq_ok_iff (byHops : ∀ rule ∈ rules, rule.ByHops) :
    (run raw context rules data).result = .ok report ↔
      (∀ rule ∈ rules, rule.isFound raw ∨ rule.isAbsent raw) ∧ data.TakesAll (writes raw rules) ∧
        report = ⟨rules.countP (MappingRule.isFound raw), rules.countP (MappingRule.isAbsent raw)⟩ := by
  constructor
  · intro ran
    obtain ⟨counts, loads⟩ := report_of_run ran
    exact ⟨loads, (takesAll_of_run byHops ran).1, counts⟩
  · rintro ⟨loads, takes, rfl⟩
    obtain ⟨report, ran⟩ := run_of_takesAll byHops loads takes
    rw [ran, (report_of_run ran).1]

end Run

variable {plan : MappingPlan} {raw data : Value} {context : Option MergeContext}

/-- What a rule stored is found through its target, if the rules behind it that find a value diverge from it. -/
theorem load_of_applied (byHops : ∀ rule ∈ plan.rules, rule.ByHops) {report : MappingReport}
    (applied : (plan.apply raw data context).result = .ok report) {front back : List MappingRule} {rule : MappingRule}
    (parts : plan.rules = front ++ rule :: back) {value : Value}
    (found : (load raw rule.source).result = .ok (.present value))
    (diverge : ∀ later ∈ back, later.isFound raw = true → Diverge rule.hops later.hops) :
    (load (plan.apply raw data context).data (.ofSteps .source rule.target.steps)).result = .ok (.present value) := by
  have takes : data.TakesAll (writes raw plan.rules) := (takesAll_of_run byHops applied).1
  have left : (plan.apply raw data context).data = data.putAll (writes raw plan.rules) :=
    (takesAll_of_run byHops applied).2
  have wrote : writes raw plan.rules = writes raw front ++ ⟨rule.hops, value⟩ :: writes raw back := by
    rw [parts, ← writes_cons_of_found found]
    exact List.filterMap_append
  have apart : ∀ write ∈ writes raw back, Diverge rule.hops write.hops := by
    intro write member
    obtain ⟨later, behind, writes⟩ := List.mem_filterMap.1 member
    obtain ⟨finds, same⟩ := MappingRule.write?_eq_some_iff.1 writes
    rw [same]
    exact diverge later behind (MappingRule.isFound_iff.2 ⟨_, finds⟩)
  have target : Locator.ofSteps .source rule.target.steps = .ofHops .source rule.hops := by
    have byHop := byHops rule (by simp [parts])
    exact congrArg (Locator.ofSteps .source ·.steps) byHop
  rw [wrote, Value.takesAll_append] at takes
  rw [target, load_ofHops_eq_present_iff, left, wrote, Value.putAll_append, Value.putAll_cons]
  exact Value.walk_putAll (Value.walk_put takes.2.1.2 value) apart

/-- A field that was added to an open record is still there after another was added. -/
theorem load_of_applied_beside :
    let host : MappingRule :=
      ⟨.ofHops .source [.item (.name "HOST")], .ofHops .target [.item (.name "server"), .attr "host"]⟩
    let port : MappingRule :=
      ⟨.ofHops .source [.item (.name "PORT")], .ofHops .target [.item (.name "server"), .attr "port"]⟩
    let raw : Value := .mapping [("HOST", .string "local"), ("PORT", .integer 80)]
    let data : Value := .mapping [("server", .record "Server" .extensible [])]
    let applied := MappingPlan.apply ⟨[host, port]⟩ raw data none
    applied.result = .ok ⟨2, 0⟩ ∧
      (load applied.data (.ofSteps .source host.target.steps)).result = .ok (.present (.string "local")) := by
  intro host port raw data applied
  have ran : applied.result = .ok ⟨2, 0⟩ := rfl
  have byHops : ∀ rule ∈ [host, port], rule.ByHops :=
    List.forall_mem_cons.2 ⟨rfl, List.forall_mem_singleton.2 rfl⟩
  have differ : (Hop.attr "host").name ≠ (Hop.attr "port").name := by decide
  have diverge : ∀ later ∈ [port], later.isFound raw = true → Diverge host.hops later.hops :=
    List.forall_mem_singleton.2 fun _ => .later _ (.here differ [] [])
  have parts : [host, port] = [] ++ host :: [port] := rfl
  exact ⟨ran, load_of_applied byHops ran parts rfl diverge⟩

/-- A plan that was applied leaves the data alone when it is applied again, and reports the same. -/
theorem apply_again (byHops : ∀ rule ∈ plan.rules, rule.ByHops) {first second : MappingReport}
    (once : (plan.apply raw data context).result = .ok first)
    (again : (plan.apply raw (plan.apply raw data context).data context).result = .ok second) :
    (plan.apply raw (plan.apply raw data context).data context).data = (plan.apply raw data context).data ∧
      second = first := by
  have left : (plan.apply raw data context).data = data.putAll (writes raw plan.rules) :=
    (takesAll_of_run byHops once).2
  refine ⟨(takesAll_of_run byHops again).2.trans ?_, (report_of_run again).1.trans (report_of_run once).1.symm⟩
  rw [left, Value.putAll_again]

/-- A rule that puts a whole mapping is followed by one that changes an entry of it. -/
theorem apply_again_overlapping :
    let server : MappingRule := ⟨.ofHops .source [.item (.name "SERVER")], .ofHops .target [.item (.name "server")]⟩
    let port : MappingRule :=
      ⟨.ofHops .source [.item (.name "PORT")], .ofHops .target [.item (.name "server"), .item (.name "port")]⟩
    let raw : Value := .mapping [("PORT", .integer 80), ("SERVER", .mapping [("host", .string "local")])]
    let once := MappingPlan.apply ⟨[server, port]⟩ raw .emptyMapping none
    let again := MappingPlan.apply ⟨[server, port]⟩ raw once.data none
    once.data = .mapping [("server", .mapping [("host", .string "local"), ("port", .integer 80)])] ∧
      again.data = once.data ∧ again.result = once.result := by
  intro server port raw once again
  have ran : once.result = .ok ⟨2, 0⟩ := rfl
  have ranAgain : again.result = .ok ⟨2, 0⟩ := rfl
  have byHops : ∀ rule ∈ [server, port], rule.ByHops :=
    List.forall_mem_cons.2 ⟨rfl, List.forall_mem_singleton.2 rfl⟩
  exact ⟨rfl, (apply_again byHops ran ranAgain).1, ranAgain.trans ran.symm⟩

/-- Rules that diverge from each other succeed in one order exactly if they do in another, with the same report, and
then leave the same data. -/
theorem apply_perm (byHops : ∀ rule ∈ plan.rules, rule.ByHops)
    (diverging : plan.rules.Pairwise fun first second => Diverge first.hops second.hops) {others : List MappingRule}
    (perm : plan.rules.Perm others) (raw data : Value) (context : Option MergeContext) :
    let inOrder := plan.apply raw data context
    let reordered := MappingPlan.apply ⟨others⟩ raw data context
    ∀ report, (inOrder.result = .ok report ↔ reordered.result = .ok report) ∧
      (inOrder.result = .ok report → reordered.data = inOrder.data) := by
  intro inOrder reordered report
  have also : ∀ rule ∈ others, rule.ByHops := fun rule member => byHops rule (perm.mem_iff.2 member)
  have same := perm.filterMap (MappingRule.write? raw)
  have apart : (writes raw plan.rules).Pairwise fun first second => Diverge first.hops second.hops := by
    refine diverging.filterMap _ fun rule other diverge write wrote write' wrote' => ?_
    rw [(MappingRule.write?_eq_some_iff.1 wrote).2, (MappingRule.write?_eq_some_iff.1 wrote').2]
    exact diverge
  have succeeds : inOrder.result = .ok report ↔ reordered.result = .ok report := by
    refine (run_eq_ok_iff byHops).trans (Iff.trans ?_ (run_eq_ok_iff also).symm)
    simp only [perm.mem_iff, perm.countP_eq, Value.takesAll_perm apart same]
    rfl
  refine ⟨succeeds, fun ran => ?_⟩
  have left : inOrder.data = data.putAll (writes raw plan.rules) := (takesAll_of_run byHops ran).2
  have leftAlso : reordered.data = data.putAll (writes raw others) := (takesAll_of_run also (succeeds.1 ran)).2
  rw [left, leftAlso]
  exact (Value.putAll_perm apart same data).symm

/-- Two rules that make their mapping together can be swapped. -/
theorem apply_perm_swapped :
    let host : MappingRule :=
      ⟨.ofHops .source [.item (.name "HOST")], .ofHops .target [.item (.name "server"), .item (.name "host")]⟩
    let port : MappingRule :=
      ⟨.ofHops .source [.item (.name "PORT")], .ofHops .target [.item (.name "server"), .item (.name "port")]⟩
    let raw : Value := .mapping [("HOST", .string "local"), ("PORT", .integer 80)]
    let inOrder := MappingPlan.apply ⟨[host, port]⟩ raw .emptyMapping none
    let swapped := MappingPlan.apply ⟨[port, host]⟩ raw .emptyMapping none
    inOrder.result = .ok ⟨2, 0⟩ ∧ swapped.result = .ok ⟨2, 0⟩ ∧ swapped.data = inOrder.data := by
  intro host port raw inOrder swapped
  have ran : inOrder.result = .ok ⟨2, 0⟩ := rfl
  have byHops : ∀ rule ∈ [host, port], rule.ByHops :=
    List.forall_mem_cons.2 ⟨rfl, List.forall_mem_singleton.2 rfl⟩
  have differ : (Hop.item (.name "host")).name ≠ (Hop.item (.name "port")).name := by decide
  have diverging : [host, port].Pairwise fun first second => Diverge first.hops second.hops :=
    List.pairwise_pair.2 (.later _ (.here differ [] []))
  obtain ⟨succeeds, same⟩ := apply_perm byHops diverging (.swap port host []) raw .emptyMapping none ⟨2, 0⟩
  exact ⟨ran, succeeds.1 ran, same ran⟩

end MappingPlan

end DataLocator
