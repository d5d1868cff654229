import Mathlib.Data.List.Forall2
import Mathlib.Data.List.Induction
import Mathlib.Data.List.Perm.Lattice

/-!
Lists that are gone through: what dropping repeats leaves, what a search finds first,
and what a traversal gives whose steps may fail. Two computations come out alike if both fail, or if
both succeed and their results are related.
-/

namespace RoutingPlane

universe u v w

section Distinct

variable {α : Type u} [BEq α] [LawfulBEq α]

theorem nodup_eraseDups : ∀ items : List α, items.eraseDups.Nodup
  | [] => by simp
  | head :: tail => by
      rw [List.eraseDups_cons, List.nodup_cons]
      refine ⟨?_, nodup_eraseDups _⟩
      simp [List.mem_eraseDups]
termination_by items => items.length
decreasing_by
  exact Nat.lt_succ_of_le (List.length_filter_le _ _)

variable {items : List α}

theorem eraseDups_of_nodup (nodup : items.Nodup) : items.eraseDups = items := by
  induction items with
  | nil => rfl
  | cons head tail inductionHypothesis =>
      rw [List.nodup_cons] at nodup
      have noRepeat : (tail.filter fun other => !other == head) = tail := by
        rw [List.filter_eq_self]
        intro other isOther
        have differs : other ≠ head := fun same => nodup.1 (same ▸ isOther)
        rw [beq_eq_false_iff_ne.2 differs, Bool.not_false]
      rw [List.eraseDups_cons, noRepeat, inductionHypothesis nodup.2]

theorem eraseDups_append_of_mem {last : α} (isThere : last ∈ items) :
    (items ++ [last]).eraseDups = items.eraseDups := by
  rw [List.eraseDups_append]
  simp [List.removeAll, isThere]

theorem eraseDups_append_of_not_mem {last : α} (isNew : last ∉ items) :
    (items ++ [last]).eraseDups = items.eraseDups ++ [last] := by
  rw [List.eraseDups_append]
  simp [List.removeAll, isNew, List.eraseDups_cons]

theorem eraseDups_eraseDups_append (front back : List α) :
    (front.eraseDups ++ back).eraseDups = (front ++ back).eraseDups := by
  have sameRest : back.removeAll front.eraseDups = back.removeAll front := by
    rw [List.removeAll, List.removeAll]
    apply List.filter_congr
    intro item _
    simp [List.mem_eraseDups]
  rw [List.eraseDups_append, List.eraseDups_append, eraseDups_of_nodup (nodup_eraseDups front),
    sameRest]

/-- What remains without repeats stands in the order in which it first appeared. -/
theorem pairwise_idxOf_eraseDups (items : List α) :
    items.eraseDups.Pairwise fun left right => items.idxOf left < items.idxOf right := by
  induction items using List.reverseRecOn with
  | nil => simp
  | append_singleton front last inductionHypothesis =>
      have samePlace : ∀ item ∈ front.eraseDups,
          (front ++ [last]).idxOf item = front.idxOf item := by
        intro item isItem
        exact List.idxOf_append_of_mem (List.mem_eraseDups.1 isItem)
      have frontOrdered : front.eraseDups.Pairwise fun left right =>
          (front ++ [last]).idxOf left < (front ++ [last]).idxOf right := by
        refine inductionHypothesis.imp_of_mem fun isLeft isRight isBefore => ?_
        rw [samePlace _ isLeft, samePlace _ isRight]
        exact isBefore
      by_cases isThere : last ∈ front
      · rw [eraseDups_append_of_mem isThere]
        exact frontOrdered
      · rw [eraseDups_append_of_not_mem isThere, List.pairwise_append]
        refine ⟨frontOrdered, List.pairwise_singleton _ _, ?_⟩
        intro item isItem other isLast
        rw [List.mem_singleton.1 isLast, samePlace item isItem,
          List.idxOf_append_of_notMem isThere]
        have isInside := List.idxOf_lt_length_of_mem (List.mem_eraseDups.1 isItem)
        omega

/-- In a list that is ordered by a rank, a member comes earlier exactly if its rank is less. -/
theorem idxOf_lt_idxOf_iff_of_pairwise {rank : α → Nat}
    (ordered : items.Pairwise fun left right => rank left ≤ rank right)
    (ranksDiffer : ∀ left ∈ items, ∀ right ∈ items, rank left = rank right → left = right)
    {left right : α} (isLeft : left ∈ items) (isRight : right ∈ items) :
    items.idxOf left < items.idxOf right ↔ rank left < rank right := by
  have rankOfPlace : ∀ first ∈ items, ∀ second ∈ items,
      items.idxOf first < items.idxOf second → rank first ≤ rank second := by
    intro first isFirst second isSecond isBefore
    have ranked := List.pairwise_iff_getElem.1 ordered (items.idxOf first) (items.idxOf second)
      (List.idxOf_lt_length_of_mem isFirst) (List.idxOf_lt_length_of_mem isSecond) isBefore
    rw [List.getElem_idxOf, List.getElem_idxOf] at ranked
    exact ranked
  constructor
  · intro isBefore
    have ranked := rankOfPlace left isLeft right isRight isBefore
    refine Nat.lt_of_le_of_ne ranked fun sameRank => ?_
    rw [ranksDiffer left isLeft right isRight sameRank] at isBefore
    exact Nat.lt_irrefl _ isBefore
  · intro ranked
    by_contra notBefore
    rcases Nat.eq_or_lt_of_not_lt notBefore with samePlace | isAfter
    · have same := (List.idxOf_inj isLeft).1 samePlace
      rw [same] at ranked
      exact Nat.lt_irrefl _ ranked
    · exact absurd ranked (Nat.not_lt.2 (rankOfPlace right isRight left isLeft isAfter))

theorem idxOf_eraseDups_lt_iff {left right : α} (isLeft : left ∈ items) (isRight : right ∈ items) :
    items.eraseDups.idxOf left < items.eraseDups.idxOf right ↔
      items.idxOf left < items.idxOf right := by
  apply idxOf_lt_idxOf_iff_of_pairwise
  · exact (pairwise_idxOf_eraseDups items).imp fun isBefore => Nat.le_of_lt isBefore
  · intro first isFirst second _ samePlace
    exact (List.idxOf_inj (List.mem_eraseDups.1 isFirst)).1 samePlace
  · exact List.mem_eraseDups.2 isLeft
  · exact List.mem_eraseDups.2 isRight

end Distinct

section First

variable {α : Type u} {item : α} {items : List α}

/-- An item of a list has a property, and no item in front of it has the property. -/
def IsFirst (holds : α → Prop) (items : List α) (item : α) : Prop :=
  holds item ∧ ∃ before after, items = before ++ item :: after ∧
    ∀ earlier ∈ before, ¬holds earlier

/-- A search finds the first item with the property that it tests. -/
theorem find?_eq_some_iff_isFirst {test : α → Bool} {holds : α → Prop}
    (tests : ∀ item ∈ items, test item = true ↔ holds item) :
    items.find? test = some item ↔ IsFirst holds items item := by
  rw [List.find?_eq_some_iff_append, IsFirst]
  constructor
  · intro isFound
    obtain ⟨passes, before, after, rfl, fails⟩ := isFound
    rw [List.forall_mem_append, List.forall_mem_cons] at tests
    refine ⟨tests.2.1.1 passes, before, after, rfl, ?_⟩
    intro earlier isBefore holdsEarlier
    have failsEarlier := fails earlier isBefore
    rw [(tests.1 earlier isBefore).2 holdsEarlier] at failsEarlier
    cases failsEarlier
  · intro isFirst
    obtain ⟨holdsItem, before, after, rfl, noneBefore⟩ := isFirst
    rw [List.forall_mem_append, List.forall_mem_cons] at tests
    refine ⟨tests.2.1.2 holdsItem, before, after, rfl, ?_⟩
    intro earlier isBefore
    rw [Bool.not_eq_true', ← Bool.not_eq_true]
    exact mt (tests.1 earlier isBefore).1 (noneBefore earlier isBefore)

/-- If any item has a property, one of them is the first. -/
theorem exists_isFirst_iff {holds : α → Prop} :
    (∃ item, IsFirst holds items item) ↔ ∃ item ∈ items, holds item := by
  classical
  have tests : ∀ item ∈ items, decide (holds item) = true ↔ holds item :=
    fun _ _ => decide_eq_true_iff
  simp only [← find?_eq_some_iff_isFirst tests, ← Option.isSome_iff_exists, List.find?_isSome,
    decide_eq_true_eq]

end First

section Outcome

variable {ε : Type u} {φ : Type u} {α β γ δ : Type v}

/-- A computation in two parts succeeds if the first part does and then the second. -/
theorem bind_eq_ok_iff {first : Except ε α} {second : α → Except ε β} {result : β} :
    (first >>= second) = .ok result ↔
      ∃ middle, first = .ok middle ∧ second middle = .ok result := by
  cases first <;> simp [bind, Except.bind]

theorem pure_eq_ok_iff {given result : α} :
    (pure given : Except ε α) = .ok result ↔ given = result := by
  simp [pure, Except.pure]

theorem mapError_eq_ok_iff {outcome : Except ε α} {report : ε → φ} {result : α} :
    outcome.mapError report = .ok result ↔ outcome = .ok result := by
  cases outcome <;> simp [Except.mapError]

theorem isOk_iff_exists {outcome : Except ε α} :
    outcome.isOk = true ↔ ∃ result, outcome = .ok result := by
  cases outcome <;> simp [Except.isOk, Except.toBool]

theorem toOption_eq_some_iff {outcome : Except ε α} {result : α} :
    outcome.toOption = some result ↔ outcome = .ok result := by
  cases outcome <;> simp [Except.toOption]

/-- Where a result can be tested, there is one. -/
theorem exists_ok_of_any {outcome : Except ε α} {test : α → Bool}
    (tested : outcome.toOption.any test = true) :
    ∃ result, outcome = .ok result ∧ test result = true := by
  obtain ⟨result, isResult, passes⟩ := (Option.any_eq_true _ _).1 tested
  exact ⟨result, toOption_eq_some_iff.1 isResult, passes⟩

/-- Two computations fail both, or succeed both with related results. -/
def Alike (related : α → β → Prop) : Except ε α → Except φ β → Prop
  | .ok left, .ok right => related left right
  | .error _, .error _ => True
  | _, _ => False

theorem Alike.of_ok {related : α → β → Prop} {left : Except ε α} {right : Except φ β}
    (alike : Alike related left right) {leftResult : α} {rightResult : β}
    (leftOk : left = .ok leftResult) (rightOk : right = .ok rightResult) :
    related leftResult rightResult := by
  subst leftOk rightOk
  exact alike

theorem Alike.exists_right {related : α → β → Prop} {left : Except ε α}
    {right : Except φ β} (alike : Alike related left right) {leftResult : α}
    (leftOk : left = .ok leftResult) :
    ∃ rightResult, right = .ok rightResult ∧ related leftResult rightResult := by
  subst leftOk
  cases right with
  | error rightFault => exact alike.elim
  | ok rightResult => exact ⟨rightResult, rfl, alike⟩

/-- Two computations are alike if they succeed together with related results. -/
theorem Alike.of_exists_iff {related : α → β → Prop} {left : Except ε α}
    {right : Except φ β}
    (bothSucceed : (∃ result, left = .ok result) ↔ ∃ result, right = .ok result)
    (results : ∀ leftResult rightResult, left = .ok leftResult → right = .ok rightResult →
      related leftResult rightResult) :
    Alike related left right := by
  cases left with
  | error leftFault =>
      cases right with
      | error rightFault => exact trivial
      | ok rightResult =>
          obtain ⟨leftResult, leftOk⟩ := bothSucceed.2 ⟨rightResult, rfl⟩
          cases leftOk
  | ok leftResult =>
      cases right with
      | error rightFault =>
          obtain ⟨rightResult, rightOk⟩ := bothSucceed.1 ⟨leftResult, rfl⟩
          cases rightOk
      | ok rightResult => exact results leftResult rightResult rfl rfl

/-- The parts of two computations that come out alike can be replaced one by one. -/
theorem Alike.bind {related : α → β → Prop} {after : γ → δ → Prop}
    {left : Except ε α} {right : Except φ β}
    {leftNext : α → Except ε γ} {rightNext : β → Except φ δ}
    (alike : Alike related left right)
    (next : ∀ leftResult rightResult, left = .ok leftResult → right = .ok rightResult →
      related leftResult rightResult →
        Alike after (leftNext leftResult) (rightNext rightResult)) :
    Alike after (left >>= leftNext) (right >>= rightNext) := by
  cases left with
  | error leftFault =>
      cases right with
      | error rightFault => exact alike
      | ok rightResult => exact alike.elim
  | ok leftResult =>
      cases right with
      | error rightFault => exact alike.elim
      | ok rightResult => exact next leftResult rightResult rfl rfl alike

theorem Alike.mapError {left right : Except ε α}
    {related : α → α → Prop} (alike : Alike related left right) (report : ε → φ) :
    Alike related (left.mapError report) (right.mapError report) := by
  cases left <;> cases right <;> exact alike

end Outcome

section Traversal

variable {ε : Type u} {α : Type v} {β : Type w}

/-- A traversal succeeds exactly with the results of all its steps. -/
theorem mapM_eq_ok_iff {step : α → Except ε β} {items : List α} {results : List β} :
    items.mapM step = .ok results ↔
      List.Forall₂ (fun item result => step item = .ok result) items results := by
  induction items generalizing results with
  | nil =>
      cases results <;> simp [pure, Except.pure]
  | cons item rest inductionHypothesis =>
      rw [List.mapM_cons]
      cases stepped : step item with
      | error fault =>
          simp only [bind, Except.bind, reduceCtorEq, false_iff]
          intro pointwise
          cases pointwise with
          | cons headStep _ => simp [stepped] at headStep
      | ok result =>
          cases results with
          | nil =>
              cases traversed : rest.mapM step <;>
                simp [bind, Except.bind, pure, Except.pure]
          | cons first others =>
              rw [List.forall₂_cons, ← inductionHypothesis]
              cases traversed : rest.mapM step <;>
                simp [bind, Except.bind, pure, Except.pure, stepped]

/-- What a traversal gives, one of its steps gives. -/
theorem exists_of_mem_mapM {step : α → Except ε β} {items : List α} {results : List β}
    (traversed : items.mapM step = .ok results) {result : β} (isResult : result ∈ results) :
    ∃ item ∈ items, step item = .ok result := by
  have pointwise := mapM_eq_ok_iff.1 traversed
  clear traversed
  induction pointwise with
  | nil =>
      simp at isResult
  | cons headStep _ inductionHypothesis =>
      rcases List.mem_cons.1 isResult with isHead | inTail
      · exact ⟨_, List.mem_cons_self, isHead ▸ headStep⟩
      · obtain ⟨item, isItem, itemStep⟩ := inductionHypothesis inTail
        exact ⟨item, List.mem_cons_of_mem _ isItem, itemStep⟩

/-- A traversal gives exactly what its steps give. -/
theorem mem_mapM_iff {step : α → Except ε β} {items : List α} {results : List β}
    (traversed : items.mapM step = .ok results) {result : β} :
    result ∈ results ↔ ∃ item ∈ items, step item = .ok result := by
  refine ⟨exists_of_mem_mapM traversed, ?_⟩
  rintro ⟨item, isItem, itemStep⟩
  have pointwise := mapM_eq_ok_iff.1 traversed
  clear traversed
  induction pointwise with
  | nil => cases isItem
  | cons headStep _ inductionHypothesis =>
      rcases List.mem_cons.1 isItem with rfl | inTail
      · rw [headStep, Except.ok.injEq] at itemStep
        exact List.mem_cons.2 (.inl itemStep.symm)
      · exact List.mem_cons_of_mem _ (inductionHypothesis inTail)

/-- A traversal succeeds if each of its steps does. -/
theorem exists_mapM_iff {step : α → Except ε β} {items : List α} :
    (∃ results, items.mapM step = .ok results) ↔
      ∀ item ∈ items, ∃ result, step item = .ok result := by
  simp only [mapM_eq_ok_iff]
  induction items with
  | nil =>
      simp
  | cons item rest inductionHypothesis =>
      rw [List.forall_mem_cons, ← inductionHypothesis]
      constructor
      · intro traversed
        obtain ⟨results, pointwise⟩ := traversed
        cases pointwise with
        | cons headStep tailSteps => exact ⟨⟨_, headStep⟩, _, tailSteps⟩
      · intro stepped
        obtain ⟨⟨result, headStep⟩, results, tailSteps⟩ := stepped
        exact ⟨result :: results, .cons headStep tailSteps⟩

/-- What is kept of a list, item by item beside what is made of it. -/
theorem forall₂_filter_filterMap {related : α → β → Prop} {keep : α → Bool}
    {make : α → Option β} {items : List α}
    (kept : ∀ item ∈ items, keep item = true → ∃ made, make item = some made ∧ related item made)
    (dropped : ∀ item ∈ items, keep item = false → make item = none) :
    List.Forall₂ related (items.filter keep) (items.filterMap make) := by
  induction items with
  | nil => exact .nil
  | cons item rest inductionHypothesis =>
      rw [List.forall_mem_cons] at kept dropped
      have fromRest := inductionHypothesis kept.2 dropped.2
      cases keeps : keep item with
      | true =>
          obtain ⟨made, isMade, isRelated⟩ := kept.1 keeps
          rw [List.filter_cons_of_pos keeps, List.filterMap_cons_some isMade]
          exact .cons isRelated fromRest
      | false =>
          rw [List.filter_cons_of_neg (by simp [keeps]),
            List.filterMap_cons_none (dropped.1 keeps)]
          exact fromRest

end Traversal

end RoutingPlane
