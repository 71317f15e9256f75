import DataLocator.Proofs.Loading
import DataLocator.Proofs.Places

/-! # Loading through hops

A chain of hops is walked from child to child and stops at the first look-up that fails. A load through such a
chain is that walk (`follow_hops`): the failure is absence at the end, or the error of a requirement there
(`load_ofHops`, `load_ofHops_required`).
-/

namespace DataLocator

/-- The locator of a chain of hops. -/
def Locator.ofHops (kind : Kind) (hops : List Hop) : Locator := .ofSteps kind (hops.map Step.go)

/-- The node that a chain of hops leads to, or the first look-up that failed. -/
def Value.walk : Value → List Hop → Finding
  | root, [] => .ok root
  | root, hop :: rest =>
    match root.get hop with
    | .ok child => child.walk rest
    | .error failure => .error failure

namespace Value

theorem walk_cons_of_ok {root child : Value} {hop : Hop} (found : root.get hop = .ok child) (rest : List Hop) :
    root.walk (hop :: rest) = child.walk rest := by
  simp only [walk, found]

theorem walk_cons_of_error {root : Value} {hop : Hop} {failure : LookupFailure}
    (missed : root.get hop = .error failure) (rest : List Hop) : root.walk (hop :: rest) = .error failure := by
  simp only [walk, missed]

theorem toOption_walk_cons (root : Value) (hop : Hop) (rest : List Hop) :
    (root.walk (hop :: rest)).toOption = (root.get hop).toOption.bind fun child => (child.walk rest).toOption := by
  cases found : root.get hop with
  | ok child => rw [walk_cons_of_ok found]; rfl
  | error failure => rw [walk_cons_of_error found]; rfl

/-- A walk through two chains is the second from where the first one leads. -/
theorem walk_append (root : Value) (front back : List Hop) :
    root.walk (front ++ back) =
      match root.walk front with
      | .ok node => node.walk back
      | .error failure => .error failure := by
  induction front generalizing root with
  | nil => rfl
  | cons hop rest ih =>
    simp only [List.cons_append, walk]
    cases root.get hop with
    | ok child => exact ih child
    | error failure => rfl

@[simp] theorem walk_singleton (root : Value) (hop : Hop) : root.walk [hop] = root.get hop := by
  cases found : root.get hop <;> simp [walk, found]

/-- A hop finds the child that is at its selector. -/
theorem get_eq_ok_iff {container child : Value} {hop : Hop} :
    container.get hop = .ok child ↔
      ∃ place, container.select .itemAccess hop = .ok place ∧ container.child? place = some child := by
  rw [get_eq, visit]
  cases selected : container.select .itemAccess hop with
  | error failure => simp [Except.map]
  | ok place => cases found : container.child? place <;> simp [Except.map, found]

/-- A hop without a child of its own fails with the selector's absence. -/
theorem get_of_child?_eq_none {container : Value} {hop : Hop} {place : Selector}
    (selected : container.select .itemAccess hop = .ok place) (missing : container.child? place = none) :
    container.get hop = .error (container.absence place) := by
  simp [get_eq, visit, selected, missing, Except.map]

theorem get_of_select_eq_error {container : Value} {hop : Hop} {failure : LookupFailure}
    (refused : container.select .itemAccess hop = .error failure) : container.get hop = .error failure := by
  simp [get_eq, visit, refused, Except.map]

end Value

theorem any_isRequired_hops (hops : List Hop) : (hops.map Step.go).any Step.isRequired = false := by
  simp [Step.isRequired]

/-- Following hops is walking them, and never fails. -/
theorem follow_hops (hops : List Hop) (root : Value) :
    follow (hops.map Step.go) (.ok root) = .ok (root.walk hops) := by
  induction hops generalizing root with
  | nil => rfl
  | cons hop rest ih =>
    change follow (rest.map Step.go) (root.get hop) = .ok (root.walk (hop :: rest))
    cases found : root.get hop with
    | ok child => rw [Value.walk_cons_of_ok found, ih]
    | error failure => rw [Value.walk_cons_of_error found, follow_error, any_isRequired_hops]; rfl

/-- A load through hops finds what the walk finds, and nothing where the walk fails. -/
theorem load_ofHops (data : Value) (hops : List Hop) :
    (load data (.ofHops .source hops)).result = .ok (.ofOption (data.walk hops).toOption) := by
  have followed := follow_hops hops data
  cases walked : data.walk hops with
  | ok value =>
    rw [walked] at followed
    rw [load_of_found rfl followed]
    rfl
  | error failure =>
    rw [walked] at followed
    rw [load_of_missed rfl followed]
    rfl

theorem load_ofHops_eq_present_iff {data value : Value} {hops : List Hop} :
    (load data (.ofHops .source hops)).result = .ok (.present value) ↔ data.walk hops = .ok value := by
  rw [load_ofHops]
  cases data.walk hops <;> simp [Except.toOption, Presence.ofOption]

theorem load_ofHops_eq_notPresent_iff {data : Value} {hops : List Hop} :
    (load data (.ofHops .source hops)).result = .ok .notPresent ↔ ∃ failure, data.walk hops = .error failure := by
  rw [load_ofHops]
  cases data.walk hops <;> simp [Except.toOption, Presence.ofOption]

/-- A requirement at the end raises the failure of the walk. -/
theorem load_ofHops_required {data : Value} {hops : List Hop} {failure : LookupFailure}
    (missed : data.walk hops = .error failure) :
    (load data ((Locator.ofHops .source hops).extend [.required])).result = .error (.lookup failure) := by
  have followed := follow_hops hops data
  rw [missed] at followed
  exact load_extend_of_missed rfl followed [.required]

end DataLocator
