import Mathlib.Logic.Relation
import RoutingPlane.Domains
import RoutingPlane.Proofs.Sequence

/-!
How one domain grows. A domain that grows from a device while the assigned
devices are closed under the links holds exactly the devices that are reached
from it and are not assigned: a device that is passed over because it belongs to
an earlier domain leads only to devices that belong to earlier domains.
-/

namespace RoutingPlane.DomainLinks

variable {links : DomainLinks} {assigned waiting : List String}

/-- A device leads to another one that domains may hold. -/
def LeadsTo (links : DomainLinks) (here there : String) : Prop :=
  there ∈ links.onward here ∧ there ∈ links.devices

/-- A device is reached from another one by any number of steps. -/
def Reaches (links : DomainLinks) : String → String → Prop :=
  Relation.ReflTransGen links.LeadsTo

/-- No device outside a list is reached from one inside it. -/
def Closed (links : DomainLinks) (assigned : List String) : Prop :=
  ∀ here ∈ assigned, ∀ there, links.LeadsTo here there → there ∈ assigned

theorem Closed.mem_of_reaches (closed : links.Closed assigned) {here there : String}
    (member : here ∈ assigned) (reached : links.Reaches here there) :
    there ∈ assigned := by
  induction reached with
  | refl =>
      exact member
  | tail _ lastStep inductionHypothesis =>
      exact closed _ inductionHypothesis _ lastStep

theorem nodup_newcomers {device : String} :
    (links.newcomers assigned device).Nodup :=
  nodup_eraseDups _

/-! ## What growth keeps -/

/-- Induction along the growth of a domain, one waiting device after the other. -/
@[elab_as_elim]
theorem growInduction (links : DomainLinks) {motive : List String → List String → Prop}
    (done : ∀ assigned, motive assigned [])
    (enter : ∀ assigned device rest,
      motive (assigned ++ links.newcomers assigned device)
          (rest ++ links.newcomers assigned device) →
        motive assigned (device :: rest))
    (assigned waiting : List String) : motive assigned waiting :=
  grow.induct links motive done enter assigned waiting

theorem waiting_subset_grow (links : DomainLinks) (assigned waiting : List String) :
    waiting ⊆ links.grow assigned waiting := by
  induction assigned, waiting using growInduction links with
  | done assigned =>
      simp
  | enter assigned device rest inductionHypothesis =>
      rw [grow]
      intro member isMember
      rcases List.mem_cons.1 isMember with atHead | inRest
      · exact atHead ▸ List.mem_cons_self
      · exact List.mem_cons_of_mem _
          (inductionHypothesis (List.mem_append_left _ inRest))

/-- What a domain gains is reached from a waiting device, and was neither assigned
nor outside the devices. -/
theorem reached_of_mem_grow {member : String}
    (isMember : member ∈ links.grow assigned waiting) :
    (∃ source ∈ waiting, links.Reaches source member) ∧
      (member ∈ waiting ∨ member ∈ links.devices ∧ member ∉ assigned) := by
  induction assigned, waiting using growInduction links with
  | done assigned =>
      simp [grow] at isMember
  | enter assigned device rest inductionHypothesis =>
      rw [grow, List.mem_cons] at isMember
      rcases isMember with atHead | inTail
      · subst atHead
        exact ⟨⟨member, List.mem_cons_self, .refl⟩, .inl List.mem_cons_self⟩
      · obtain ⟨⟨source, isWaiting, reached⟩, kept⟩ := inductionHypothesis inTail
        constructor
        · rcases List.mem_append.1 isWaiting with inRest | isNew
          · exact ⟨source, List.mem_cons_of_mem _ inRest, reached⟩
          · obtain ⟨isOnward, isListed, _⟩ := mem_newcomers.1 isNew
            exact ⟨device, List.mem_cons_self, reached.head ⟨isOnward, isListed⟩⟩
        · rcases kept with isWaiting | ⟨isListed, notAssigned⟩
          · rcases List.mem_append.1 isWaiting with inRest | isNew
            · exact .inl (List.mem_cons_of_mem _ inRest)
            · exact .inr (mem_newcomers.1 isNew).2
          · exact .inr ⟨isListed, fun old => notAssigned (List.mem_append_left _ old)⟩

/-- A step from a member of a domain stays among its members and the assigned
devices. -/
theorem mem_grow_or_assigned_of_leadsTo {here there : String}
    (isMember : here ∈ links.grow assigned waiting) (step : links.LeadsTo here there) :
    there ∈ links.grow assigned waiting ∨ there ∈ assigned := by
  induction assigned, waiting using growInduction links with
  | done assigned =>
      simp [grow] at isMember
  | enter assigned device rest inductionHypothesis =>
      rw [grow, List.mem_cons] at isMember ⊢
      have entersDomain :
          there ∈ links.newcomers assigned device →
            there ∈ links.grow (assigned ++ links.newcomers assigned device)
              (rest ++ links.newcomers assigned device) :=
        fun isNew => waiting_subset_grow links _ _ (List.mem_append_right _ isNew)
      rcases isMember with atHead | inTail
      · subst atHead
        by_cases old : there ∈ assigned
        · exact .inr old
        · exact .inl (.inr (entersDomain (mem_newcomers.2 ⟨step.1, step.2, old⟩)))
      · rcases inductionHypothesis inTail with inDomain | isAssigned
        · exact .inl (.inr inDomain)
        · rcases List.mem_append.1 isAssigned with old | isNew
          · exact .inr old
          · exact .inl (.inr (entersDomain isNew))

/-- No device is visited twice while a domain grows: it is assigned when it starts to wait, so it
never waits again. -/
theorem nodup_grow (waitingNodup : waiting.Nodup) (waitingAssigned : waiting ⊆ assigned) :
    (links.grow assigned waiting).Nodup := by
  induction assigned, waiting using growInduction links with
  | done assigned =>
      simp [grow]
  | enter assigned device rest inductionHypothesis =>
      obtain ⟨deviceNotRest, restNodup⟩ := List.nodup_cons.1 waitingNodup
      have isAssigned : device ∈ assigned := waitingAssigned List.mem_cons_self
      have restAssigned : rest ⊆ assigned := fun _ inRest =>
        waitingAssigned (List.mem_cons_of_mem _ inRest)
      have newNotAssigned :
          ∀ other ∈ links.newcomers assigned device, other ∉ assigned :=
        fun _ isNew => (mem_newcomers.1 isNew).2.2
      rw [grow, List.nodup_cons]
      refine ⟨fun inTail => ?_, inductionHypothesis ?_ ?_⟩
      · rcases (reached_of_mem_grow inTail).2 with isWaiting | ⟨_, notAssigned⟩
        · rcases List.mem_append.1 isWaiting with inRest | isNew
          · exact deviceNotRest inRest
          · exact newNotAssigned device isNew isAssigned
        · exact notAssigned (List.mem_append_left _ isAssigned)
      · exact List.nodup_append.2 ⟨restNodup, nodup_newcomers, fun _ inRest _ isNew same =>
          newNotAssigned _ isNew (same ▸ restAssigned inRest)⟩
      · exact List.append_subset.2
          ⟨fun _ inRest => List.mem_append_left _ (restAssigned inRest),
            fun _ isNew => List.mem_append_right _ isNew⟩

/-! ## The domain of a device -/

/-- The domain that grows from a device when some devices are assigned already. -/
abbrev domainOf (links : DomainLinks) (assigned : List String) (device : String) :
    List String :=
  links.grow (assigned ++ [device]) [device]

/-- A domain grows over all that its first device reaches and that is not assigned yet. The assigned
devices are closed, so a way to one that is not has not entered them before. -/
theorem mem_domainOf {device member : String} (closed : links.Closed assigned)
    (notAssigned : device ∉ assigned) :
    member ∈ links.domainOf assigned device ↔
      links.Reaches device member ∧ member ∉ assigned := by
  constructor
  · intro isMember
    obtain ⟨⟨source, isWaiting, reached⟩, kept⟩ := reached_of_mem_grow isMember
    rw [List.mem_singleton] at isWaiting
    subst isWaiting
    refine ⟨reached, fun old => ?_⟩
    rcases kept with isStart | ⟨_, notTaken⟩
    · rw [List.mem_singleton] at isStart
      exact notAssigned (isStart ▸ old)
    · exact notTaken (List.mem_append_left _ old)
  · intro isReached
    obtain ⟨reached, memberNotAssigned⟩ := isReached
    induction reached with
    | refl =>
        exact waiting_subset_grow links _ _ List.mem_cons_self
    | @tail middle member reachedMiddle lastStep inductionHypothesis =>
        have middleNotAssigned : middle ∉ assigned := fun old =>
          memberNotAssigned (closed middle old member lastStep)
        rcases mem_grow_or_assigned_of_leadsTo
            (inductionHypothesis middleNotAssigned) lastStep with inDomain | taken
        · exact inDomain
        · rcases List.mem_append.1 taken with old | isStart
          · exact absurd old memberNotAssigned
          · rw [List.mem_singleton] at isStart
            exact isStart ▸ waiting_subset_grow links _ _ List.mem_cons_self

theorem nodup_domainOf (links : DomainLinks) (assigned : List String) (device : String) :
    (links.domainOf assigned device).Nodup :=
  nodup_grow (List.nodup_singleton device) (List.subset_append_right _ _)

end RoutingPlane.DomainLinks
