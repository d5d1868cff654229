import RoutingPlane.Proofs.Sequence

/-!
Failures: with which fault a computation in several parts fails. A part is reached only if all
parts before it succeed, so a traversal fails as the first of its steps that does.
-/

namespace RoutingPlane

universe u v w

variable {ε φ : Type u}

section Parts

variable {α β : Type v}

theorem bind_eq_error_iff {first : Except ε α} {second : α → Except ε β} {fault : ε} :
    (first >>= second) = .error fault ↔
      first = .error fault ∨ ∃ middle, first = .ok middle ∧ second middle = .error fault := by
  cases first <;> simp [bind, Except.bind]

theorem mapError_eq_error_iff {outcome : Except ε α} {report : ε → φ} {fault : φ} :
    outcome.mapError report = .error fault ↔
      ∃ cause, outcome = .error cause ∧ report cause = fault := by
  cases outcome <;> simp [Except.mapError]

def faultOf? : Except ε α → Option ε
  | .ok _ => none
  | .error fault => some fault

theorem faultOf?_eq_some_iff {outcome : Except ε α} {fault : ε} :
    faultOf? outcome = some fault ↔ outcome = .error fault := by
  cases outcome <;> simp [faultOf?]

theorem faultOf?_eq_none_iff {outcome : Except ε α} :
    faultOf? outcome = none ↔ ∃ result, outcome = .ok result := by
  cases outcome <;> simp [faultOf?]

theorem faultOf?_bind_pure (outcome : Except ε α) (finish : α → β) :
    faultOf? (outcome >>= fun result => pure (finish result)) = faultOf? outcome := by
  cases outcome <;> rfl

end Parts

section Allowed

variable {α β : Type v} {allowed : ε → Prop}

/-- Every fault with which a computation may fail is allowed. -/
def FailsWithin (allowed : ε → Prop) (outcome : Except ε α) : Prop :=
  ∀ fault, outcome = .error fault → allowed fault

namespace FailsWithin

theorem ok (result : α) : FailsWithin allowed (.ok result) :=
  nofun

theorem error {fault : ε} (isAllowed : allowed fault) :
    FailsWithin allowed (.error fault : Except ε α) := by
  intro other same
  cases same
  exact isAllowed

theorem imp {more : ε → Prop} {outcome : Except ε α} (within : FailsWithin allowed outcome)
    (included : ∀ fault, allowed fault → more fault) : FailsWithin more outcome :=
  fun fault fails => included fault (within fault fails)

theorem bind {first : Except ε α} {second : α → Except ε β}
    (firstWithin : FailsWithin allowed first)
    (secondWithin : ∀ middle, first = .ok middle → FailsWithin allowed (second middle)) :
    FailsWithin allowed (first >>= second) := by
  intro fault fails
  rcases bind_eq_error_iff.1 fails with firstFails | ⟨middle, succeeds, secondFails⟩
  · exact firstWithin fault firstFails
  · exact secondWithin middle succeeds fault secondFails

theorem map {outcome : Except ε α} (within : FailsWithin allowed outcome) (change : α → β) :
    FailsWithin allowed (change <$> outcome) := by
  cases outcome with
  | ok result => exact ok _
  | error fault => exact error (within fault rfl)

theorem mapError {report : ε → φ} {allowed : φ → Prop} {outcome : Except ε α}
    (within : FailsWithin (fun fault => allowed (report fault)) outcome) :
    FailsWithin allowed (outcome.mapError report) := by
  cases outcome with
  | ok result => exact ok _
  | error fault => exact error (within fault rfl)

theorem mapM {step : α → Except ε β} {items : List α}
    (steps : ∀ item ∈ items, FailsWithin allowed (step item)) :
    FailsWithin allowed (items.mapM step) := by
  induction items with
  | nil => exact ok []
  | cons item rest inductionHypothesis =>
      rw [List.forall_mem_cons] at steps
      rw [List.mapM_cons]
      refine bind steps.1 fun result _ => bind (inductionHypothesis steps.2) fun results _ => ?_
      exact ok (result :: results)

end FailsWithin

end Allowed

section Traversal

variable {α : Type v} {β σ : Type w}

theorem faultOf?_mapM (step : α → Except ε β) (items : List α) :
    faultOf? (items.mapM step) = items.findSome? fun item => faultOf? (step item) := by
  induction items with
  | nil => rfl
  | cons item rest inductionHypothesis =>
      rw [List.mapM_cons, List.findSome?_cons, ← inductionHypothesis]
      cases step item with
      | error fault => rfl
      | ok result => cases rest.mapM step <;> rfl

/-- The fault of a run does not depend on its state if the faults of its steps do not. -/
theorem faultOf?_foldlM {step : σ → α → Except ε σ} {fault? : α → Option ε}
    (stepFault : ∀ state item, faultOf? (step state item) = fault? item) (items : List α)
    (start : σ) : faultOf? (items.foldlM step start) = items.findSome? fault? := by
  induction items generalizing start with
  | nil => rfl
  | cons item rest inductionHypothesis =>
      rw [List.foldlM_cons, List.findSome?_cons, ← stepFault start item]
      cases step start item with
      | error fault => rfl
      | ok state => exact inductionHypothesis state

/-- A traversal fails with the fault of a step before which all steps succeed. -/
theorem mapM_eq_error_iff {step : α → Except ε β} {items : List α} {fault : ε} :
    items.mapM step = .error fault ↔
      ∃ before item after, items = before ++ item :: after ∧
        step item = .error fault ∧ ∀ earlier ∈ before, ∃ result, step earlier = .ok result := by
  rw [← faultOf?_eq_some_iff, faultOf?_mapM, List.findSome?_eq_some_iff]
  simp only [faultOf?_eq_some_iff, faultOf?_eq_none_iff]

end Traversal

section First

variable {α : Type u} {β : Type v} {γ : Type w}

theorem findSome?_congr {left right : α → Option β} {items : List α}
    (same : ∀ item ∈ items, left item = right item) :
    items.findSome? left = items.findSome? right := by
  induction items with
  | nil => rfl
  | cons item rest inductionHypothesis =>
      rw [List.forall_mem_cons] at same
      rw [List.findSome?_cons, List.findSome?_cons, same.1, inductionHypothesis same.2]

theorem findSome?_flatMap (found? : β → Option γ) (partsOf : α → List β) (items : List α) :
    (items.flatMap partsOf).findSome? found? =
      items.findSome? fun item => (partsOf item).findSome? found? := by
  induction items with
  | nil => rfl
  | cons item rest inductionHypothesis =>
      rw [List.flatMap_cons, List.findSome?_append, inductionHypothesis, List.findSome?_cons]
      cases (partsOf item).findSome? found? <;> rfl

theorem findSome?_filter (found? : α → Option β) (keep : α → Bool) (items : List α) :
    (items.filter keep).findSome? found? =
      items.findSome? fun item => if keep item then found? item else none := by
  induction items with
  | nil => rfl
  | cons item rest inductionHypothesis =>
      by_cases kept : keep item = true
      · rw [List.filter_cons_of_pos kept, List.findSome?_cons, List.findSome?_cons, if_pos kept,
          inductionHypothesis]
      · rw [List.filter_cons_of_neg kept, List.findSome?_cons, if_neg kept, inductionHypothesis]

/-- A search that finds something at the items with a property, and nothing before them, finds
what it finds at the first of them. -/
theorem findSome?_eq_map_find? {found? : α → Option β} {result : α → β} {holds : α → Bool}
    {items : List α} (finds : ∀ item ∈ items, holds item = true → found? item = some (result item))
    (passes : ∀ item ∈ items.takeWhile fun item => !holds item, found? item = none) :
    items.findSome? found? = (items.find? holds).map result := by
  induction items with
  | nil => rfl
  | cons item rest inductionHypothesis =>
      rw [List.forall_mem_cons] at finds
      rw [List.findSome?_cons, List.find?_cons]
      cases isFirst : holds item with
      | true => rw [finds.1 isFirst, Option.map_some]
      | false =>
          rw [List.takeWhile_cons_of_pos (by simp [isFirst]), List.forall_mem_cons] at passes
          rw [passes.1]
          exact inductionHypothesis finds.2 passes.2

end First

end RoutingPlane
