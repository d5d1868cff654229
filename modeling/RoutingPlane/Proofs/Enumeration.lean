import Mathlib.Data.List.Nodup
import Mathlib.Data.List.Perm.Basic

/-!
Enumerations: lists that go through all places of some kind, each exactly once, and
tell what stands there. What is enumerated group by group is enumerated as a whole,
and the order in which it is gone through does not matter.
-/

namespace RoutingPlane

universe u v w x

variable {α : Type u} {β : Type v} {ι : Type w} {κ : Type x}

/-- Some items are what stands at some places, place by place, and these are all
places where an item stands, each listed once. -/
structure Enumerates (standsAt : α → β → Prop) (places : List α) (items : List β) : Prop where
  distinct : places.Nodup
  complete : ∀ place item, standsAt place item → place ∈ places
  found : List.Forall₂ standsAt places items

namespace Enumerates

variable {standsAt other : α → β → Prop} {places : List α} {items : List β}

theorem congr (same : ∀ place item, standsAt place item ↔ other place item)
    (enumerates : Enumerates standsAt places items) : Enumerates other places items where
  distinct := enumerates.distinct
  complete place item stands := enumerates.complete place item ((same place item).2 stands)
  found := enumerates.found.imp fun place item => (same place item).1

/-- If one item at most stands at a place, then the items are those that stand at one. -/
theorem mem_iff (enumerates : Enumerates standsAt places items)
    (unique : ∀ place item second, standsAt place item → standsAt place second → item = second)
    {item : β} : item ∈ items ↔ ∃ place, standsAt place item := by
  constructor
  · intro isItem
    have found := enumerates.found
    clear enumerates
    induction found with
    | nil => cases isItem
    | @cons place first _ _ stands _ inductionHypothesis =>
        rcases List.mem_cons.1 isItem with rfl | inRest
        · exact ⟨place, stands⟩
        · exact inductionHypothesis inRest
  · rintro ⟨place, stands⟩
    have isPlace := enumerates.complete place item stands
    have found := enumerates.found
    clear enumerates
    induction found with
    | nil => cases isPlace
    | @cons other first _ _ firstStands _ inductionHypothesis =>
        rcases List.mem_cons.1 isPlace with rfl | inRest
        · rw [unique place item first stands firstStands]
          exact List.mem_cons_self
        · exact List.mem_cons_of_mem _ (inductionHypothesis inRest)

/-- Items in another order are enumerated by their places in that order. -/
theorem exists_of_perm {shuffled : List β} (enumerates : Enumerates standsAt places items)
    (permuted : items.Perm shuffled) : ∃ reordered, Enumerates standsAt reordered shuffled := by
  obtain ⟨reordered, foundBack, permutedPlaces⟩ :=
    List.perm_comp_forall₂ permuted.symm enumerates.found.flip
  have distinct : reordered.Nodup := permutedPlaces.nodup_iff.2 enumerates.distinct
  have complete : ∀ place item, standsAt place item → place ∈ reordered := by
    intro place item stands
    exact permutedPlaces.mem_iff.2 (enumerates.complete place item stands)
  exact ⟨reordered, distinct, complete, foundBack.flip⟩

/-- The places of several groups, each with the key of its group. What stands at them is found by
induction on a part of the groups. -/
theorem groups (groups : List ι) (key : ι → κ) (within : ι → α → β → Prop)
    (placesOf : ι → List α) (itemsOf : ι → List β) (distinct : (groups.map key).Nodup)
    (each : ∀ group ∈ groups, Enumerates (within group) (placesOf group) (itemsOf group)) :
    Enumerates (fun place item => ∃ group ∈ groups, key group = place.1 ∧ within group place.2 item)
      (groups.flatMap fun group => (placesOf group).map fun place => (key group, place))
      (groups.flatMap itemsOf) where
  distinct := by
    rw [List.nodup_flatMap]
    constructor
    · intro group isGroup
      have keyed : Function.Injective fun place : α => (key group, place) :=
        fun _ _ same => (Prod.mk.inj same).2
      exact (each group isGroup).distinct.map keyed
    · have keysDiffer : groups.Pairwise fun group later => key group ≠ key later :=
        List.pairwise_map.1 distinct
      refine keysDiffer.imp fun {group later} different place inGroup inLater => ?_
      obtain ⟨_, _, rfl⟩ := List.mem_map.1 inGroup
      obtain ⟨_, _, same⟩ := List.mem_map.1 inLater
      exact different (Prod.mk.inj same).1.symm
  complete := by
    rintro ⟨_, place⟩ item ⟨group, isGroup, rfl, stands⟩
    have isPlace := (each group isGroup).complete place item stands
    exact List.mem_flatMap.2 ⟨group, isGroup, List.mem_map.2 ⟨place, isPlace, rfl⟩⟩
  found := by
    have onPart : ∀ part : List ι, part ⊆ groups →
        List.Forall₂
          (fun place item => ∃ group ∈ groups, key group = place.1 ∧ within group place.2 item)
          (part.flatMap fun group => (placesOf group).map fun place => (key group, place))
          (part.flatMap itemsOf) := by
      intro part included
      induction part with
      | nil => exact .nil
      | cons group rest inductionHypothesis =>
          obtain ⟨isGroup, restIncluded⟩ := List.cons_subset.1 included
          have fromGroup := (each group isGroup).found.imp fun place item stands =>
            (⟨group, isGroup, rfl, stands⟩ :
              ∃ other ∈ groups, key other = key group ∧ within other place item)
          rw [List.flatMap_cons, List.flatMap_cons]
          exact List.rel_append (List.forall₂_map_left_iff.2 fromGroup)
            (inductionHypothesis restIncluded)
    exact onPart groups (List.Subset.refl groups)

/-- The places of the members of a list, each with the number of its member. -/
theorem exists_numbered (members : List ι) (within : ι → α → β → Prop) (itemsOf : ι → List β)
    (each : ∀ member ∈ members, ∃ places, Enumerates (within member) places (itemsOf member)) :
    ∃ places, Enumerates
      (fun (place : Nat × α) item =>
        ∃ member, members[place.1]? = some member ∧ within member place.2 item)
      places (members.flatMap itemsOf) := by
  choose! placesOf enumerates using each
  have numbersDiffer : (members.zipIdx.map Prod.snd).Nodup := by
    rw [List.zipIdx_map_snd]
    exact List.nodup_range'
  have grouped := groups members.zipIdx Prod.snd (fun entry => within entry.1)
    (fun entry => placesOf entry.1) (fun entry => itemsOf entry.1) numbersDiffer
    fun entry isEntry => enumerates entry.1 (List.fst_mem_of_mem_zipIdx isEntry)
  have sameItems :
      (members.zipIdx.flatMap fun entry => itemsOf entry.1) = members.flatMap itemsOf := by
    rw [← List.flatMap_map, List.zipIdx_map_fst]
  rw [sameItems] at grouped
  refine ⟨_, grouped.congr fun place item => ?_⟩
  simp only [List.mem_zipIdx_iff_getElem?, Prod.exists]
  constructor
  · rintro ⟨member, number, isMember, rfl, stands⟩
    exact ⟨member, isMember, stands⟩
  · rintro ⟨member, isMember, stands⟩
    exact ⟨member, place.1, isMember, rfl, stands⟩

end Enumerates

end RoutingPlane
