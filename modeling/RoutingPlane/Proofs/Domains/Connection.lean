import Mathlib.Order.WellFounded
import RoutingPlane.Proofs.Domains.Sources

/-!
When the first sources of devices tell which devices are connected. Sources follow
steps in their own direction, connections follow them in either one. The two agree
exactly if every step can be taken back.
-/

namespace RoutingPlane

variable {step : String → String → Prop} {devices : List String}
  {here there left right head : String}

/-- Two devices are joined by a chain of steps, each taken in either direction. -/
abbrev Joined (step : String → String → Prop) : String → String → Prop :=
  Relation.EqvGen step

/-- From the device where a step leads there is a way back. -/
def Returns (step : String → String → Prop) : Prop :=
  ∀ here there, step here there → Relation.ReflTransGen step there here

/-- Two devices are reached first from the same device of a list. -/
def ShareSource (step : String → String → Prop) (devices : List String)
    (left right : String) : Prop :=
  ∃ source, IsFirstSource step devices source left ∧ IsFirstSource step devices source right

theorem Returns.reaches_of_joined (returns : Returns step) (joined : Joined step here there) :
    Relation.ReflTransGen step here there ∧ Relation.ReflTransGen step there here := by
  induction joined with
  | rel here there isStep => exact ⟨.single isStep, returns here there isStep⟩
  | refl here => exact ⟨.refl, .refl⟩
  | symm here there _ inductionHypothesis => exact inductionHypothesis.symm
  | trans here middle there _ _ first second =>
      exact ⟨first.1.trans second.1, second.2.trans first.2⟩

theorem joined_of_reaches (reached : Relation.ReflTransGen step here there) :
    Joined step here there := by
  induction reached with
  | refl => exact .refl _
  | tail _ lastStep inductionHypothesis =>
      exact inductionHypothesis.trans _ _ _ (.rel _ _ lastStep)

theorem ShareSource.joined (share : ShareSource step devices left right) :
    Joined step left right := by
  obtain ⟨source, isLeft, isRight⟩ := share
  exact ((joined_of_reaches isLeft.reaches).symm _ _).trans _ _ _
    (joined_of_reaches isRight.reaches)

/-! ## First sources -/

theorem exists_isFirstSource {device : String} (isListed : device ∈ devices) :
    ∃ source, IsFirstSource step devices source device := by
  obtain ⟨source, ⟨isSource, reached⟩, earliest⟩ :=
    (measure devices.idxOf).wf.has_min
      {source | source ∈ devices ∧ Relation.ReflTransGen step source device}
      ⟨device, isListed, .refl⟩
  exact ⟨source, isSource, reached, fun other isOther otherReaches =>
    Nat.le_of_not_lt (earliest other ⟨isOther, otherReaches⟩)⟩

/-- The first device of a list is the first source of what it reaches. -/
theorem isFirstSource_of_head (isHead : devices.head? = some head)
    (reached : Relation.ReflTransGen step head there) :
    IsFirstSource step devices head there := by
  obtain ⟨rest, rfl⟩ := List.head?_eq_some_iff.1 isHead
  refine ⟨List.mem_cons_self, reached, fun other _ _ => ?_⟩
  rw [List.idxOf_cons_self]
  exact Nat.zero_le _

theorem shareSource_of_head (isHead : devices.head? = some here) (isStep : step here there) :
    ShareSource step devices here there :=
  ⟨here, isFirstSource_of_head isHead .refl, isFirstSource_of_head isHead (.single isStep)⟩

/-- If the device where a step leads is the first of a list, then it shares its
source only with devices that it reaches. -/
theorem ShareSource.reaches_of_head (share : ShareSource step devices here there)
    (isHead : devices.head? = some there) : Relation.ReflTransGen step there here := by
  obtain ⟨source, isHere, isThere⟩ := share
  rw [(isFirstSource_of_head isHead .refl).unique isThere]
  exact isHere.reaches

theorem Returns.shareSource_iff_joined (returns : Returns step) (isLeft : left ∈ devices) :
    ShareSource step devices left right ↔ Joined step left right := by
  refine ⟨ShareSource.joined, fun joined => ?_⟩
  obtain ⟨onward, back⟩ := returns.reaches_of_joined joined
  obtain ⟨source, isFirst⟩ := exists_isFirstSource isLeft
  refine ⟨source, isFirst, isFirst.listed, isFirst.reaches.trans onward, ?_⟩
  intro other isOther reached
  exact isFirst.earliest other isOther (reached.trans back)

end RoutingPlane
