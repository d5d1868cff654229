import Mathlib.Data.List.Nodup
import RoutingPlane.Proofs.Sequence
import RoutingPlane.Snapshot

/-!
The adjacency of the interfaces that are named on links. Every list of an adjacency is
extended link by link and looks at itself before it takes an interface in, so it holds each
interface once, and two interfaces are adjacent exactly if they are different endpoints of
a link.
-/

namespace RoutingPlane.Link

variable {ref other : InterfaceRef} {link : Link} {links : List Link}
  {others endpoints : List InterfaceRef} {start : Adjacency}

/-! ## The interfaces that an interface meets -/

/-- An interface meets the others on a link, and not itself. -/
theorem mem_meet_iff :
    other ∈ meet ref link others ↔ other ∈ others ∨ other ∈ link ∧ other ≠ ref := by
  unfold meet
  induction link generalizing others with
  | nil => simp
  | cons head rest inductionHypothesis =>
      rw [List.foldl_cons, inductionHypothesis, List.mem_cons]
      by_cases isNew : head ≠ ref ∧ head ∉ others
      · rw [if_pos isNew, List.mem_append, List.mem_singleton]
        by_cases same : other = head
        · simp [same, isNew.1]
        · simp [same]
      · rw [if_neg isNew]
        by_cases same : other = head
        · have isOld : other = ref ∨ other ∈ others := by
            rw [same]
            by_contra neither
            exact isNew (not_or.1 neither)
          rcases isOld with isRef | isOld
          · simp [isRef]
          · simp [isOld]
        · simp [same]

theorem nodup_meet (nodup : others.Nodup) : (meet ref link others).Nodup := by
  unfold meet
  induction link generalizing others with
  | nil => exact nodup
  | cons head rest inductionHypothesis =>
      rw [List.foldl_cons]
      apply inductionHypothesis
      by_cases isNew : head ≠ ref ∧ head ∉ others
      · rw [if_pos isNew, ← List.concat_eq_append]
        exact nodup.concat isNew.2
      · rw [if_neg isNew]
        exact nodup

/-! ## The adjacency of a list of links -/

abbrev listed (start : Adjacency) (ref : InterfaceRef) : List InterfaceRef :=
  (start.get? ref).getD []

/-- No interface is listed twice for another one. -/
def ListsOnce (start : Adjacency) : Prop :=
  ∀ ref, (listed start ref).Nodup

abbrev enterAt (link : Link) (start : Adjacency) (endpoints : List InterfaceRef) : Adjacency :=
  endpoints.foldl (fun entered ref => entered.put ref (meet ref link (listed entered ref))) start

theorem listed_put (start : Adjacency) (place ref : InterfaceRef) (others : List InterfaceRef) :
    listed (start.put place others) ref = if ref = place then others else listed start ref := by
  rw [listed, Table.get?_put]
  split <;> rfl

/-- A link is listed at the endpoints at which it was entered. -/
theorem mem_listed_enterAt_iff :
    other ∈ listed (enterAt link start endpoints) ref ↔
      other ∈ listed start ref ∨ ref ∈ endpoints ∧ other ∈ link ∧ other ≠ ref := by
  induction endpoints generalizing start with
  | nil => simp
  | cons head rest inductionHypothesis =>
      have headFirst : enterAt link start (head :: rest) =
          enterAt link (start.put head (meet head link (listed start head))) rest := rfl
      rw [headFirst, inductionHypothesis, listed_put, List.mem_cons]
      by_cases same : ref = head
      · subst same
        rw [if_pos rfl, mem_meet_iff]
        tauto
      · rw [if_neg same, or_iff_right same]

theorem ListsOnce.enterAt (once : ListsOnce start) : ListsOnce (enterAt link start endpoints) := by
  induction endpoints generalizing start with
  | nil => exact once
  | cons head rest inductionHypothesis =>
      apply inductionHypothesis
      intro ref
      rw [listed_put]
      by_cases same : ref = head
      · rw [if_pos same]
        exact nodup_meet (once head)
      · rw [if_neg same]
        exact once ref

theorem mem_listed_enterAll_iff :
    other ∈ listed (links.foldl enter start) ref ↔
      other ∈ listed start ref ∨ other ≠ ref ∧ ∃ link ∈ links, ref ∈ link ∧ other ∈ link := by
  induction links generalizing start with
  | nil => simp
  | cons link rest inductionHypothesis =>
      have entered : other ∈ listed (enter start link) ref ↔
          other ∈ listed start ref ∨ ref ∈ link ∧ other ∈ link ∧ other ≠ ref :=
        mem_listed_enterAt_iff
      rw [List.foldl_cons, inductionHypothesis, entered, List.exists_mem_cons_iff, and_or_left,
        or_assoc, ← and_assoc, and_comm]

/-- Two interfaces are adjacent exactly if they are different endpoints of a link. -/
theorem mem_listed_adjacency_iff :
    other ∈ listed (adjacency links) ref ↔
      other ≠ ref ∧ ∃ link ∈ links, ref ∈ link ∧ other ∈ link :=
  mem_listed_enterAll_iff.trans (or_iff_right List.not_mem_nil)

theorem listsOnce_adjacency (links : List Link) : ListsOnce (adjacency links) := by
  have entered : ∀ start, ListsOnce start → ListsOnce (links.foldl enter start) := by
    induction links with
    | nil => exact fun _ once => once
    | cons link rest inductionHypothesis =>
        intro start once
        exact inductionHypothesis _ once.enterAt
  exact entered Table.empty fun _ => List.nodup_nil

/-! ## The interfaces that have a list -/

theorem mem_keys_enterAt_iff :
    ref ∈ (enterAt link start endpoints).keys ↔ ref ∈ start.keys ∨ ref ∈ endpoints := by
  induction endpoints generalizing start with
  | nil => simp
  | cons head rest inductionHypothesis =>
      have headFirst : enterAt link start (head :: rest) =
          enterAt link (start.put head (meet head link (listed start head))) rest := rfl
      rw [headFirst, inductionHypothesis, Table.mem_keys_put, List.mem_cons, or_right_comm, or_comm]

theorem mem_keys_enterAll_iff :
    ref ∈ (links.foldl enter start).keys ↔ ref ∈ start.keys ∨ ∃ link ∈ links, ref ∈ link := by
  induction links generalizing start with
  | nil => simp
  | cons link rest inductionHypothesis =>
      have entered : ref ∈ (enter start link).keys ↔ ref ∈ start.keys ∨ ref ∈ link :=
        mem_keys_enterAt_iff
      rw [List.foldl_cons, inductionHypothesis, entered, List.exists_mem_cons_iff, or_assoc]

/-- An interface has a list exactly if it is an endpoint of a link. -/
theorem mem_keys_adjacency_iff :
    ref ∈ (adjacency links).keys ↔ ∃ link ∈ links, ref ∈ link :=
  mem_keys_enterAll_iff.trans (or_iff_right List.not_mem_nil)

end RoutingPlane.Link
