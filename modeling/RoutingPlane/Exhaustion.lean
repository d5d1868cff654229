/-!
Lists that run out: a search that never takes the same member of a list twice
comes to an end. The number of members left, those outside the taken ones, falls
whenever a further member is taken.
-/

namespace RoutingPlane

variable {α : Type} [DecidableEq α]

/-- The members of a list that are not among the taken ones. -/
def leftOver (members taken : List α) : List α :=
  members.filter fun member => decide (member ∉ taken)

theorem mem_leftOver {members taken : List α} {member : α} :
    member ∈ leftOver members taken ↔ member ∈ members ∧ member ∉ taken := by
  simp [leftOver]

theorem leftOver_sublist (members : List α) {taken more : List α}
    (included : ∀ member ∈ taken, member ∈ more) :
    (leftOver members more).Sublist (leftOver members taken) := by
  have again : leftOver members more =
      (leftOver members taken).filter fun member => decide (member ∉ more) := by
    rw [leftOver, leftOver, List.filter_filter]
    congr 1
    funext member
    by_cases isTaken : member ∈ taken
    · simp [isTaken, included member isTaken]
    · simp [isTaken]
  rw [again]
  exact List.filter_sublist

/-- Taking a member that is left makes fewer members left. -/
theorem length_leftOver_lt {members taken more : List α} (member : α)
    (included : ∀ other ∈ taken, other ∈ more) (isLeft : member ∈ leftOver members taken)
    (isTaken : member ∈ more) :
    (leftOver members more).length < (leftOver members taken).length := by
  have within := leftOver_sublist members included
  rcases Nat.lt_or_ge (leftOver members more).length (leftOver members taken).length with
    smaller | notSmaller
  · exact smaller
  · have equal := within.eq_of_length_le notSmaller
    rw [← equal] at isLeft
    exact absurd isTaken (mem_leftOver.1 isLeft).2

end RoutingPlane
