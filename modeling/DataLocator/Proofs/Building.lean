import DataLocator.Locator.Typed

/-! # Building locators

A locator is built call by call from a root. The checked builders accept the chains that the kind admits
(`build_of_admits`) and refuse at the first step that it does not admit (`firstRefused_of_build`). Typed builders and
dotted texts are not checked at all: they make what the checked builders make of the same calls (`make_eq_build`), for
all that they add fits its kind.
-/

namespace DataLocator

/-- The chains that locators of the kind may be: a source writes nothing, a target neither converts nor requires, and
nothing stands behind a merge. -/
structure Kind.Admits (kind : Kind) (steps : List Step) : Prop where
  reads : kind = .source → ∀ step ∈ steps, step ≠ .merge ∧ ∀ placement, step ≠ .place placement
  writes : kind = .target → ∀ step ∈ steps, step ≠ .required ∧ ∀ converter, step ≠ .convert converter
  mergeLast : ∀ front back, steps = front ++ .merge :: back → back = []

/-- A call of a checked builder; `push` takes a step of any sort. -/
inductive Call where
  | push (step : Step)
  | item (key : Key)
  | attr (name : String)
  | path (dotted : String)
  | convert (converter : Converter)
  | required
  | append
  | insert (index : UInt64)
  | merge

namespace Call

/-- The steps that a call is to add. -/
def steps : Call → List Step
  | push step => [step]
  | item key => [.go (.item key)]
  | attr name => [.go (.attr name)]
  | path dotted => (Text.segments dotted).map fun name => .go (.segment name)
  | convert converter => [.convert converter]
  | required => [.required]
  | append => [.place .append]
  | insert index => [.place (.insert index)]
  | merge => [.merge]

/-- The call of its builder on a locator. -/
def onLocator (locator : Locator) : Call → Except InvalidOperation Locator
  | push step => locator.push step
  | item key => locator.item key
  | attr name => locator.attr name
  | path dotted => locator.path dotted
  | convert converter => locator.convert converter
  | required => locator.required
  | append => locator.append
  | insert index => locator.insert index
  | merge => locator.merge

/-- The calls one after the other, up to the first that is refused. -/
def build (calls : List Call) (locator : Locator) : Except InvalidOperation Locator := calls.foldlM onLocator locator

end Call

/-- A call of a builder of sources. -/
inductive SourceCall where
  | item (key : Key)
  | attr (name : String)
  | path (dotted : String)
  | convert (converter : Converter)
  | required

namespace SourceCall

/-- The call of the checked builder of the same name. -/
def toCall : SourceCall → Call
  | item key => .item key
  | attr name => .attr name
  | path dotted => .path dotted
  | convert converter => .convert converter
  | required => .required

def onSource (source : Source) : SourceCall → Source
  | item key => source.item key
  | attr name => source.attr name
  | path dotted => source.path dotted
  | convert converter => source.convert converter
  | required => source.required

end SourceCall

/-- A call of a builder of targets, the merge apart. -/
inductive TargetCall where
  | item (key : Key)
  | attr (name : String)
  | path (dotted : String)
  | append
  | insert (index : UInt64)

namespace TargetCall

/-- The call of the checked builder of the same name. -/
def toCall : TargetCall → Call
  | item key => .item key
  | attr name => .attr name
  | path dotted => .path dotted
  | append => .append
  | insert index => .insert index

def onTarget (target : Target) : TargetCall → Target
  | item key => target.item key
  | attr name => target.attr name
  | path dotted => target.path dotted
  | append => target.append
  | insert index => target.insert index

end TargetCall

/-- The ways to come by a locator. To require or convert what a text leads to is a call on the text as a source. -/
inductive Construction where
  | root (kind : Kind)
  | text (kind : Kind) (dotted : String)
  | source (calls : List SourceCall)
  | target (calls : List TargetCall)
  | mergeTarget (calls : List TargetCall)
  | called (start : Construction) (call : Call)

namespace Construction

/-- The locator, or the first call that is refused. Only calls on a locator are checked. -/
def make : Construction → Except InvalidOperation Locator
  | root kind => .ok (.root kind)
  | text kind dotted => .ok (.ofPath kind dotted)
  | source calls => .ok (calls.foldl SourceCall.onSource {}).locator
  | target calls => .ok (calls.foldl TargetCall.onTarget {}).locator
  | mergeTarget calls => .ok (calls.foldl TargetCall.onTarget {}).merge.locator
  | called start call =>
    match start.make with
    | .ok locator => call.onLocator locator
    | .error cause => .error cause

def kind : Construction → Kind
  | root kind => kind
  | text kind _ => kind
  | source _ => .source
  | target _ => .target
  | mergeTarget _ => .target
  | called start _ => start.kind

/-- The checked calls that stand for the construction. -/
def calls : Construction → List Call
  | root _ => []
  | text _ dotted => [.path dotted]
  | source calls => calls.map SourceCall.toCall
  | target calls => calls.map TargetCall.toCall
  | mergeTarget calls => calls.map TargetCall.toCall ++ [.merge]
  | called start call => start.calls ++ [call]

end Construction

theorem fits_source_iff {step : Step} :
    step.fits .source = true ↔ step ≠ .merge ∧ ∀ placement, step ≠ .place placement := by
  cases step <;> simp [Step.fits]

theorem fits_target_iff {step : Step} :
    step.fits .target = true ↔ step ≠ .required ∧ ∀ converter, step ≠ .convert converter := by
  cases step <;> simp [Step.fits]

namespace Kind.Admits

variable {kind : Kind} {step : Step} {steps front back : List Step}

theorem fits (admits : kind.Admits steps) (member : step ∈ steps) : step.fits kind = true := by
  cases kind with
  | source => exact fits_source_iff.2 (admits.reads rfl step member)
  | target => exact fits_target_iff.2 (admits.writes rfl step member)

theorem of_fits (fits : ∀ step ∈ steps, step.fits kind = true)
    (mergeLast : ∀ front back, steps = front ++ .merge :: back → back = []) : kind.Admits steps := by
  refine ⟨?_, ?_, mergeLast⟩
  · rintro rfl step member
    exact fits_source_iff.1 (fits step member)
  · rintro rfl step member
    exact fits_target_iff.1 (fits step member)

theorem nil (kind : Kind) : kind.Admits [] := of_fits (by simp) (by simp)

theorem of_append (admits : kind.Admits (front ++ back)) : kind.Admits front := by
  refine of_fits (fun step member => admits.fits (List.mem_append_left back member)) fun earlier later same => ?_
  have whole : front ++ back = earlier ++ .merge :: (later ++ back) := by simp [same]
  exact (List.append_eq_nil_iff.1 (admits.mergeLast _ _ whole)).1

/-- A merge among admitted steps is the last of them. -/
theorem merge_mem_iff (admits : kind.Admits steps) : .merge ∈ steps ↔ ∃ earlier, steps = earlier ++ [.merge] := by
  constructor
  · intro member
    obtain ⟨earlier, later, same⟩ := List.append_of_mem member
    obtain rfl := admits.mergeLast earlier later same
    exact ⟨earlier, same⟩
  · rintro ⟨earlier, rfl⟩
    simp

/-- One more step is admitted if it fits the kind and no merge is in front of it. -/
theorem concat_iff (admits : kind.Admits steps) :
    kind.Admits (steps ++ [step]) ↔ (∀ earlier, steps ≠ earlier ++ [.merge]) ∧ step.fits kind = true := by
  constructor
  · intro longer
    refine ⟨?_, longer.fits (by simp)⟩
    rintro earlier rfl
    have whole : earlier ++ [.merge] ++ [step] = earlier ++ .merge :: [step] := by simp
    simpa using longer.mergeLast _ _ whole
  · rintro ⟨unmerged, fits⟩
    refine of_fits (fun other member => ?_) fun front back same => ?_
    · rcases List.mem_append.1 member with old | new
      · exact admits.fits old
      · obtain rfl := List.mem_singleton.1 new
        exact fits
    · cases back with
      | nil => rfl
      | cons next back =>
        -- What stands behind the merge ends with the new step, so the merge is one of the old steps.
        have shorter : steps = (front ++ .merge :: next :: back).dropLast := by rw [← same]; simp
        have old : .merge ∈ steps := by
          rw [shorter, List.dropLast_append_of_ne_nil (List.cons_ne_nil _ _)]
          simp
        obtain ⟨earlier, merges⟩ := admits.merge_mem_iff.1 old
        exact absurd merges (unmerged earlier)

end Kind.Admits

namespace Locator

variable {locator longer : Locator} {kind : Kind} {step : Step} {steps : List Step} {cause : InvalidOperation}

theorem isMerge_eq_true_iff : locator.isMerge = true ↔ ∃ earlier, locator.steps = earlier ++ [.merge] := by
  constructor
  · intro merges
    obtain ⟨last, isLast, merges⟩ := (Option.any_eq_true _ _).1 merges
    cases last with
    | merge => exact ⟨_, (List.getLast?_eq_some_iff.1 isLast).choose_spec⟩
    | _ => simp [Step.isMerge] at merges
  · rintro ⟨earlier, same⟩
    simp [isMerge, same, Step.isMerge]

/-- The legal locators are those of admitted chains. -/
theorem legal_iff_admits : (Locator.ofSteps kind steps).Legal ↔ kind.Admits steps := by
  constructor
  · rintro ⟨fits, merges⟩
    refine .of_fits fits ?_
    rintro front back rfl
    cases back with
    | nil => rfl
    | cons next back =>
      have early : .merge ∈ (front ++ .merge :: next :: back).dropLast := by
        rw [List.dropLast_append_of_ne_nil (List.cons_ne_nil _ _)]
        simp
      simpa [Step.isMerge] using merges .merge early
  · intro admits
    refine ⟨fun step member => admits.fits member, fun step member => ?_⟩
    cases step with
    | merge =>
      rw [steps_ofSteps] at member
      obtain ⟨front, back, same⟩ := List.append_of_mem member
      have nonempty : steps ≠ [] := List.ne_nil_of_mem (List.dropLast_subset _ member)
      have whole : steps = front ++ .merge :: (back ++ [steps.getLast nonempty]) := by
        rw [← List.cons_append, ← List.append_assoc, ← same, List.dropLast_concat_getLast]
      simpa using admits.mergeLast _ _ whole
    | _ => rfl

theorem extend_nil (locator : Locator) : locator.extend [] = locator := rfl

theorem extend_extend (locator : Locator) (front back : List Step) :
    (locator.extend front).extend back = locator.extend (front ++ back) := List.foldl_append.symm

/-- A step that nothing objects to is one that the kind admits behind the others. -/
theorem objection?_eq_none_iff (admits : locator.kind.Admits locator.steps) :
    locator.objection? step = none ↔ locator.kind.Admits (locator.steps ++ [step]) := by
  have unmerged : (∀ earlier, locator.steps ≠ earlier ++ [.merge]) ↔ locator.isMerge = false := by
    rw [Bool.eq_false_iff, ne_eq, isMerge_eq_true_iff]
    simp
  rw [admits.concat_iff, unmerged]
  unfold objection?
  cases locator.isMerge <;> cases step.fits locator.kind <;> cases locator.kind <;> simp

theorem push_of_objection (objects : locator.objection? step = some cause) : locator.push step = .error cause := by
  simp only [push, objects]

theorem push_of_unobjected (quiet : locator.objection? step = none) :
    locator.push step = .ok (locator.extend [step]) := by
  simp only [push, quiet]
  rfl

/-- Steps that are admitted behind the others are pushed one after the other. -/
theorem pushAll_of_admits (admits : locator.kind.Admits (locator.steps ++ steps)) :
    steps.foldlM push locator = .ok (locator.extend steps) := by
  induction steps generalizing locator with
  | nil => rw [extend_nil]; rfl
  | cons step rest ih =>
    have shorter : locator.kind.Admits (locator.steps ++ [step]) := by
      have regrouped : locator.steps ++ step :: rest = locator.steps ++ [step] ++ rest := by simp
      exact (regrouped ▸ admits).of_append
    have pushed := push_of_unobjected ((objection?_eq_none_iff shorter.of_append).2 shorter)
    have later : (locator.extend [step]).kind.Admits ((locator.extend [step]).steps ++ rest) := by
      simpa using admits
    rw [List.foldlM_cons, pushed]
    refine (ih later).trans ?_
    rw [extend_extend]
    rfl

/-- What was pushed is admitted behind the others. -/
theorem admits_of_pushAll (admits : locator.kind.Admits locator.steps)
    (pushed : steps.foldlM push locator = .ok longer) : locator.kind.Admits (locator.steps ++ steps) := by
  induction steps generalizing locator with
  | nil => simpa using admits
  | cons step rest ih =>
    rw [List.foldlM_cons] at pushed
    cases objects : locator.objection? step with
    | some objection =>
      rw [push_of_objection objects] at pushed
      contradiction
    | none =>
      rw [push_of_unobjected objects] at pushed
      simpa using ih ((objection?_eq_none_iff admits).1 objects) pushed

end Locator

namespace Text

theorem splitDots_ne_nil (text : List Char) : splitDots text ≠ [] := by
  cases text with
  | nil => simp [splitDots]
  | cons c rest =>
    unfold splitDots
    split
    · simp
    · split <;> simp

end Text

namespace Call

variable {locator : Locator} {kind : Kind} {calls : List Call} {cause : InvalidOperation}

theorem pushAll_hops (unmerged : locator.isMerge = false) (hops : List Hop) :
    (hops.map Step.go).foldlM Locator.push locator = .ok (locator.extend (hops.map Step.go)) := by
  induction hops generalizing locator with
  | nil => rw [List.map_nil, Locator.extend_nil]; rfl
  | cons hop rest ih =>
    have pushed : locator.push (.go hop) = .ok (locator.extend [.go hop]) :=
      Locator.push_of_unobjected (by simp [Locator.objection?, unmerged, Step.fits])
    have later : (locator.extend [.go hop]).isMerge = false := by
      simp [Locator.isMerge, Step.isMerge]
    rw [List.map_cons, List.foldlM_cons, pushed]
    refine (ih later).trans ?_
    rw [Locator.extend_extend]
    rfl

/-- The one check of a path does for all its segments: there is a first one, and behind it stands no merge. -/
theorem path_eq_pushAll (locator : Locator) (dotted : String) :
    locator.path dotted = (path dotted).steps.foldlM Locator.push locator := by
  have same : (path dotted).steps = (Locator.hops dotted).map Step.go := by simp [steps, Locator.hops]
  rw [same]
  cases merges : locator.isMerge with
  | true =>
    have segments : Locator.hops dotted ≠ [] := by
      simpa [Locator.hops, Text.segments] using Text.splitDots_ne_nil dotted.toList
    obtain ⟨first, rest, cut⟩ := List.exists_cons_of_ne_nil segments
    have objects (step : Step) : locator.objection? step = some .mergeNotFinal := by simp [Locator.objection?, merges]
    rw [cut, List.map_cons, List.foldlM_cons]
    simp only [Locator.path, Locator.push, objects]
    rfl
  | false =>
    rw [pushAll_hops merges]
    simp [Locator.path, Locator.objection?, merges, Step.fits]

/-- A call adds its steps one after the other. -/
theorem onLocator_eq_pushAll (call : Call) (locator : Locator) :
    call.onLocator locator = call.steps.foldlM Locator.push locator := by
  have single (step : Step) : locator.push step = [step].foldlM Locator.push locator := by
    rw [List.foldlM_cons]
    cases locator.push step <;> rfl
  cases call with
  | path dotted => exact path_eq_pushAll locator dotted
  | _ => exact single _

theorem build_eq_pushAll (calls : List Call) (locator : Locator) :
    build calls locator = (calls.flatMap steps).foldlM Locator.push locator := by
  induction calls generalizing locator with
  | nil => rfl
  | cons call rest ih =>
    rw [build, List.foldlM_cons, List.flatMap_cons, List.foldlM_append, onLocator_eq_pushAll]
    exact bind_congr ih

theorem build_singleton (call : Call) (locator : Locator) : build [call] locator = call.onLocator locator :=
  bind_pure (call.onLocator locator)

theorem build_append (front back : List Call) (locator : Locator) :
    build (front ++ back) locator = build front locator >>= build back := List.foldlM_append

theorem build_of_admits (admits : kind.Admits (calls.flatMap steps)) :
    build calls (.root kind) = .ok (.ofSteps kind (calls.flatMap steps)) := by
  have behindRoot : (Locator.root kind).kind.Admits ((Locator.root kind).steps ++ calls.flatMap steps) := admits
  rw [build_eq_pushAll, ← Locator.extend_root]
  exact Locator.pushAll_of_admits behindRoot

theorem build_eq_ok_iff {locator : Locator} :
    build calls (.root kind) = .ok locator ↔
      kind.Admits (calls.flatMap steps) ∧ locator = .ofSteps kind (calls.flatMap steps) := by
  constructor
  · intro built
    have pushed := built
    rw [build_eq_pushAll] at pushed
    have admits : kind.Admits (calls.flatMap steps) := Locator.admits_of_pushAll (.nil kind) pushed
    rw [build_of_admits admits] at built
    exact ⟨admits, (Except.ok.inj built).symm⟩
  · rintro ⟨admits, rfl⟩
    exact build_of_admits admits

end Call

section Unchecked

/-- A locator that is made without a check is what the checked call makes, if it has the steps of the call behind
those of the locator and the kind admits them. -/
theorem Call.onLocator_of_admits {locator longer : Locator} {call : Call} (added : longer = locator.extend call.steps)
    (admits : longer.kind.Admits longer.steps) : call.onLocator locator = .ok longer := by
  subst added
  rw [Locator.kind_extend, Locator.steps_extend] at admits
  rw [Call.onLocator_eq_pushAll]
  exact Locator.pushAll_of_admits admits

/-- Calls that are never refused are built by the checked calls that do the same one by one. -/
theorem Call.build_of_unchecked {Typed TypedCall : Type} {view : Typed → Locator} {toCall : TypedCall → Call}
    {after : Typed → TypedCall → Typed}
    (same : ∀ typed call, (toCall call).onLocator (view typed) = .ok (view (after typed call)))
    (calls : List TypedCall) (typed : Typed) :
    Call.build (calls.map toCall) (view typed) = .ok (view (calls.foldl after typed)) := by
  induction calls generalizing typed with
  | nil => rfl
  | cons call rest ih =>
    rw [Call.build, List.map_cons, List.foldlM_cons, same]
    exact ih (after typed call)

theorem Source.admits (source : Source) : Kind.source.Admits source.locator.steps := by
  refine .of_fits (fun step member => ?_) fun front back same => ?_
  · obtain ⟨inner, -, rfl⟩ := List.mem_map.1 member
    cases inner <;> rfl
  · have member : Step.merge ∈ source.locator.steps := by simp [same]
    obtain ⟨inner, -, merges⟩ := List.mem_map.1 member
    cases inner <;> contradiction

theorem Target.merge_not_mem (target : Target) : Step.merge ∉ target.locator.steps := by
  intro member
  obtain ⟨inner, -, merges⟩ := List.mem_map.1 member
  cases inner <;> contradiction

theorem Target.admits (target : Target) : Kind.target.Admits target.locator.steps := by
  refine .of_fits (fun step member => ?_) fun front back same => ?_
  · obtain ⟨inner, -, rfl⟩ := List.mem_map.1 member
    cases inner <;> rfl
  · exact absurd (by simp [same]) target.merge_not_mem

theorem MergeTarget.admits (merged : MergeTarget) : Kind.target.Admits merged.locator.steps := by
  refine merged.target.admits.concat_iff.2 ⟨?_, rfl⟩
  intro earlier same
  exact absurd (by simp [same]) merged.target.merge_not_mem

theorem Kind.admits_hops (kind : Kind) (hops : List Hop) : kind.Admits (hops.map Step.go) := by
  refine .of_fits (fun step member => ?_) fun front back same => ?_
  · obtain ⟨hop, -, rfl⟩ := List.mem_map.1 member
    rfl
  · have member : Step.merge ∈ hops.map Step.go := by simp [same]
    simp at member

theorem SourceCall.onLocator_toCall (source : Source) (call : SourceCall) :
    call.toCall.onLocator source.locator = .ok (call.onSource source).locator := by
  refine Call.onLocator_of_admits ?_ (call.onSource source).admits
  cases call <;>
    simp [onSource, toCall, Call.steps, Source.locator, Source.item, Source.attr, Source.path,
      Source.convert, Source.required, Source.push, SourceStep.toStep, Locator.hops, Function.comp_def]

theorem TargetCall.onLocator_toCall (target : Target) (call : TargetCall) :
    call.toCall.onLocator target.locator = .ok (call.onTarget target).locator := by
  refine Call.onLocator_of_admits ?_ (call.onTarget target).admits
  cases call <;>
    simp [onTarget, toCall, Call.steps, Target.locator, Target.item, Target.attr, Target.path,
      Target.append, Target.insert, Target.push, TargetStep.toStep, Locator.hops, Function.comp_def]

theorem Locator.path_root (kind : Kind) (dotted : String) : (root kind).path dotted = .ok (ofPath kind dotted) := by
  have added : ofPath kind dotted = (root kind).extend (Call.path dotted).steps := by
    simp [ofPath, hops, Call.steps, Function.comp_def]
  refine Call.onLocator_of_admits added ?_
  rw [ofPath_eq]
  exact kind.admits_hops (hops dotted)

end Unchecked

namespace Construction

/-- What is made without a check is what the checked builders make. -/
theorem make_eq_build (construction : Construction) :
    construction.make = Call.build construction.calls (.root construction.kind) := by
  induction construction with
  | root kind => rfl
  | text kind dotted =>
    rw [calls, Call.build_singleton]
    exact (Locator.path_root kind dotted).symm
  | source calls => exact (Call.build_of_unchecked SourceCall.onLocator_toCall calls {}).symm
  | target calls => exact (Call.build_of_unchecked TargetCall.onLocator_toCall calls {}).symm
  | mergeTarget inner =>
    have front := Call.build_of_unchecked TargetCall.onLocator_toCall inner {}
    have added : (inner.foldl TargetCall.onTarget {}).merge.locator =
        (inner.foldl TargetCall.onTarget {}).locator.extend Call.merge.steps := rfl
    have merges := Call.onLocator_of_admits added (MergeTarget.admits _)
    have built : Call.build (inner.map TargetCall.toCall) (.root .target) = _ := front
    rw [calls, Call.build_append, Construction.kind, built]
    exact (merges.symm.trans (Call.build_singleton ..).symm)
  | called start call ih =>
    rw [calls, Call.build_append, Construction.kind, ← ih, make]
    cases start.make with
    | ok locator => exact (Call.build_singleton ..).symm
    | error cause => rfl

theorem make_eq_ok_iff {construction : Construction} {locator : Locator} :
    construction.make = .ok locator ↔
      construction.kind.Admits (construction.calls.flatMap Call.steps) ∧
        locator = .ofSteps construction.kind (construction.calls.flatMap Call.steps) := by
  rw [make_eq_build]
  exact Call.build_eq_ok_iff

end Construction

/-- What is behind a merge is refused for that, though a requirement may not stand in a target at all. -/
example : Call.build [.item (.name "a"), .merge, .required] (.root .target) = .error .mergeNotFinal := rfl

end DataLocator
