import Mathlib.Data.List.Induction
import RoutingPlane.EdgeMap
import RoutingPlane.Proofs.Table.Lookup

/-!
Mappings in which every edge stands under its own key, as in those that are filled
and not refreshed. Under a key, what was entered last for an edge with that key is
found, whatever the edges are that share it.
-/

namespace RoutingPlane

namespace EdgeMap

variable {β : Type} {map : EdgeMap β} {entries : List (Edge × β)} {key : EdgeKey} {value : β}

/-- Every edge stands under the key that it has. -/
def Keyed (map : EdgeMap β) : Prop :=
  ∀ key found, map.table.get? key = some found → found.1.key = key

theorem keyed_empty : ({} : EdgeMap β).Keyed := by
  intro key found isFound
  cases isFound

theorem Keyed.get?_eq (keyed : map.Keyed) (key : EdgeKey) :
    map.get? key = (map.table.get? key).map Prod.snd := by
  cases found : map.table.get? key with
  | none => simp [EdgeMap.get?, found]
  | some present =>
      have isKey := keyed key present found
      simp [EdgeMap.get?, found, isKey]

theorem Keyed.get?_eq_some_iff (keyed : map.Keyed) :
    map.get? key = some value ↔ ∃ edge, (edge, value) ∈ map.entries ∧ edge.key = key := by
  simp only [keyed.get?_eq, Option.map_eq_some_iff, Prod.exists, exists_eq_right, entries,
    Table.mem_values_iff]
  constructor
  · intro isFound
    obtain ⟨edge, isFound⟩ := isFound
    exact ⟨edge, ⟨key, isFound⟩, keyed key _ isFound⟩
  · intro isEntry
    obtain ⟨edge, ⟨place, isFound⟩, isKey⟩ := isEntry
    have isPlace := keyed place _ isFound
    exact ⟨edge, by rw [← isKey, isPlace, isFound]⟩

theorem Keyed.keys_entries (keyed : map.Keyed) :
    map.entries.map (fun entry => entry.1.key) = map.table.keys := by
  rw [entries, Table.values, Table.keys, List.map_map]
  apply List.map_congr_left
  intro entry isEntry
  exact keyed entry.1 entry.2 (Table.get?_eq_some_iff.2 isEntry)

theorem Keyed.contains_of_mem (keyed : map.Keyed) {entry : Edge × β}
    (isEntry : entry ∈ map.entries) : map.contains entry.1.key = true := by
  rw [contains, keyed.get?_eq_some_iff.2 ⟨entry.1, isEntry, rfl⟩, Option.isSome_some]

/-- Entering an edge keeps every edge under its own key. -/
theorem Keyed.put (keyed : map.Keyed) (edge : Edge) (value : β) : (map.put edge value).Keyed := by
  intro key found isFound
  cases present : map.table.get? edge.key with
  | none =>
      simp only [EdgeMap.put, present, Table.get?_put] at isFound
      split at isFound
      · rw [← Option.some.inj isFound]
        exact Eq.symm ‹_›
      · exact keyed key found isFound
  | some earlier =>
      simp only [EdgeMap.put, present, Table.get?_put] at isFound
      split at isFound
      next same =>
        rw [← Option.some.inj isFound, same]
        exact keyed edge.key earlier present
      · exact keyed key found isFound

theorem Keyed.get?_put (keyed : map.Keyed) (edge : Edge) (value : β) (key : EdgeKey) :
    (map.put edge value).get? key = if key = edge.key then some value else map.get? key := by
  by_cases same : key = edge.key
  · rw [if_pos same, (keyed.put edge value).get?_eq, EdgeMap.put]
    cases map.table.get? edge.key <;> simp [same]
  · rw [if_neg same, get?_put_of_ne map value same]

theorem Keyed.putAll (keyed : map.Keyed) (entries : List (Edge × β)) :
    (map.putAll entries).Keyed := by
  induction entries generalizing map with
  | nil => exact keyed
  | cons entry rest inductionHypothesis => exact inductionHypothesis (keyed.put entry.1 entry.2)

theorem keyed_ofList (entries : List (Edge × β)) : (ofList entries).Keyed :=
  keyed_empty.putAll entries

abbrev byKey (entries : List (Edge × β)) : List (EdgeKey × β) :=
  entries.map fun entry => (entry.1.key, entry.2)

/-- The last entry of an edge with a key counts. -/
theorem Keyed.get?_putAll (keyed : map.Keyed) (entries : List (Edge × β)) (key : EdgeKey) :
    (map.putAll entries).get? key =
      (Table.find? key (byKey entries).reverse).or (map.get? key) := by
  induction entries generalizing map with
  | nil =>
      rfl
  | cons entry rest inductionHypothesis =>
      have unfolded :
          map.putAll (entry :: rest) = (map.put entry.1 entry.2).putAll rest :=
        rfl
      have keyedFirst : byKey (entry :: rest) = (entry.1.key, entry.2) :: byKey rest :=
        rfl
      rw [unfolded, inductionHypothesis (keyed.put entry.1 entry.2), keyed.get?_put, keyedFirst,
        List.reverse_cons, Table.find?_append, Option.or_assoc]
      by_cases same : key = entry.1.key
      · simp [Table.find?, same]
      · simp [Table.find?, same, Ne.symm same]

theorem get?_ofList (entries : List (Edge × β)) (key : EdgeKey) :
    (ofList entries).get? key = Table.find? key (byKey entries).reverse := by
  rw [ofList, keyed_empty.get?_putAll, get?_empty, Option.or_none]

theorem exists_of_get?_ofList (found : (ofList entries).get? key = some value) :
    ∃ edge, (edge, value) ∈ entries ∧ edge.key = key := by
  rw [get?_ofList] at found
  obtain ⟨entry, isEntry, same⟩ := List.mem_map.1 (List.mem_reverse.1 (Table.mem_of_find? found))
  obtain ⟨isKey, rfl⟩ := Prod.mk.inj same
  exact ⟨entry.1, isEntry, isKey⟩

theorem contains_ofList_iff :
    (ofList entries).contains key ↔ ∃ entry ∈ entries, entry.1.key = key := by
  rw [contains, ← Option.ne_none_iff_isSome, get?_ofList, ne_eq, Table.find?_eq_none_iff,
    not_not, List.map_reverse, List.mem_reverse, List.map_map, List.mem_map]
  rfl

theorem putAll_append (map : EdgeMap β) (front back : List (Edge × β)) :
    map.putAll (front ++ back) = (map.putAll front).putAll back :=
  List.foldl_append

/-- Edges whose keys are all different are entered one after the other. The induction is from the
end, because what is entered first decides where an edge stands. -/
theorem entries_ofList (keysDiffer : (entries.map fun entry => entry.1.key).Nodup) :
    (ofList entries).entries = entries := by
  have asEntered : (ofList entries).table.entries =
      entries.map fun entry => (entry.1.key, entry) := by
    induction entries using List.reverseRecOn with
    | nil =>
        rfl
    | append_singleton front last inductionHypothesis =>
        rw [List.map_append, List.nodup_append] at keysDiffer
        obtain ⟨frontDiffers, _, apart⟩ := keysDiffer
        have frontEntered := inductionHypothesis frontDiffers
        have isNew : last.1.key ∉ (ofList front).table.keys := by
          rw [Table.keys, frontEntered, List.map_map]
          intro isOld
          exact apart _ isOld _ (List.mem_singleton_self _) rfl
        have notFound : (ofList front).table.get? last.1.key = none :=
          Table.get?_eq_none_iff.2 isNew
        have entered : ofList (front ++ [last]) = (ofList front).put last.1 last.2 :=
          putAll_append {} front [last]
        have appended := Table.putEntry_of_not_mem last isNew
        rw [entered, put, notFound, List.map_append, ← frontEntered]
        exact appended
  rw [EdgeMap.entries, Table.values, asEntered, List.map_map]
  exact List.map_id entries

end EdgeMap

end RoutingPlane
