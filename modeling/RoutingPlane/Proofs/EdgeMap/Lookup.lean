import RoutingPlane.EdgeMap
import RoutingPlane.Proofs.Table.Lookup

/-!
What is found in mappings whose keys are edges. If edges with equal keys are
entered only with the same value and with the same ends, then the mapping does
not depend on the order in which they were entered.
-/

namespace RoutingPlane.EdgeMap

variable {β : Type} {map : EdgeMap β} {entries : List (Edge × β)}

/-- Entries of edges with equal keys are the same. -/
def Consistent (entries : List (Edge × β)) : Prop :=
  ∀ left ∈ entries, ∀ right ∈ entries, left.1.key = right.1.key → left = right

/-- What is found under the keys of some entries is these entries. -/
def Admits (map : EdgeMap β) (entries : List (Edge × β)) : Prop :=
  ∀ entry ∈ entries, ∀ present,
    map.table.get? entry.1.key = some present → present = entry

/-- Two mappings with the same edges and values, whatever their order. -/
def SameMap (left right : EdgeMap β) : Prop :=
  left.table.SameMap right.table

theorem SameMap.get? {left right : EdgeMap β} (same : left.SameMap right)
    (key : EdgeKey) : left.get? key = right.get? key := by
  simp only [EdgeMap.get?, same key]

theorem SameMap.contains {left right : EdgeMap β} (same : left.SameMap right)
    (key : EdgeKey) : left.contains key = right.contains key := by
  simp only [EdgeMap.contains, same.get? key]

theorem admits_empty (entries : List (Edge × β)) : ({} : EdgeMap β).Admits entries := by
  intro entry _ present found
  simp at found

theorem table_get?_put {edge : Edge} {value : β} (admits : map.Admits [(edge, value)])
    (key : EdgeKey) :
    (map.put edge value).table.get? key =
      if key = edge.key then some (edge, value) else map.table.get? key := by
  cases found : map.table.get? edge.key with
  | none =>
      simp only [put, found, Table.get?_put]
  | some present =>
      have same := admits _ (List.mem_singleton_self _) present found
      subst same
      simp only [put, found, Table.get?_put]

theorem Consistent.tail {entry : Edge × β} (consistent : Consistent (entry :: entries)) :
    Consistent entries :=
  fun left inLeft right inRight =>
    consistent left (List.mem_cons_of_mem _ inLeft) right (List.mem_cons_of_mem _ inRight)

theorem Admits.head {entry : Edge × β} (admits : map.Admits (entry :: entries)) :
    map.Admits [entry] := by
  intro other isHead
  have same := List.mem_singleton.1 isHead
  exact same ▸ admits entry List.mem_cons_self

/-- An entry is found beside those that are consistent with it. -/
theorem Admits.put {edge : Edge} {value : β} (consistent : Consistent ((edge, value) :: entries))
    (admits : map.Admits ((edge, value) :: entries)) : (map.put edge value).Admits entries := by
  intro entry inRest present isPresent
  rw [table_get?_put admits.head] at isPresent
  by_cases sameKey : entry.1.key = edge.key
  · rw [if_pos sameKey, Option.some.injEq] at isPresent
    have sameEntry := consistent _ (List.mem_cons_of_mem _ inRest) _ List.mem_cons_self sameKey
    exact isPresent ▸ sameEntry.symm
  · rw [if_neg sameKey] at isPresent
    exact admits entry (List.mem_cons_of_mem _ inRest) present isPresent

/-- Consistent entries are found under their keys once they are entered. The mapping changes with
every entry, and it goes on admitting the rest. -/
theorem table_get?_putAll (consistent : Consistent entries) (admits : map.Admits entries)
    {key : EdgeKey} {found : Edge × β} :
    (map.putAll entries).table.get? key = some found ↔
      (found ∈ entries ∧ found.1.key = key) ∨ map.table.get? key = some found := by
  induction entries generalizing map with
  | nil =>
      simp [putAll]
  | cons entry rest inductionHypothesis =>
      obtain ⟨edge, value⟩ := entry
      have unfolded :
          map.putAll ((edge, value) :: rest) = (map.put edge value).putAll rest :=
        rfl
      rw [unfolded, inductionHypothesis consistent.tail (Admits.put consistent admits),
        table_get?_put admits.head, List.mem_cons]
      by_cases sameKey : key = edge.key
      · rw [if_pos sameKey, Option.some.injEq]
        subst sameKey
        constructor
        · intro isFound
          rcases isFound with ⟨inRest, keyOfFound⟩ | isHead
          · exact .inl ⟨.inr inRest, keyOfFound⟩
          · exact .inl ⟨.inl isHead.symm, isHead ▸ rfl⟩
        · intro isFound
          rcases isFound with ⟨isHead | inRest, keyOfFound⟩ | isPresent
          · exact .inr isHead.symm
          · exact .inl ⟨inRest, keyOfFound⟩
          · exact .inr (admits.head _ (List.mem_singleton_self _) found isPresent).symm
      · rw [if_neg sameKey]
        constructor
        · intro isFound
          rcases isFound with ⟨inRest, keyOfFound⟩ | isPresent
          · exact .inl ⟨.inr inRest, keyOfFound⟩
          · exact .inr isPresent
        · intro isFound
          rcases isFound with ⟨isHead | inRest, keyOfFound⟩ | isPresent
          · exact absurd (isHead ▸ keyOfFound).symm sameKey
          · exact .inl ⟨inRest, keyOfFound⟩
          · exact .inr isPresent

theorem table_get?_ofList (consistent : Consistent entries) {key : EdgeKey}
    {found : Edge × β} :
    (ofList entries).table.get? key = some found ↔
      found ∈ entries ∧ found.1.key = key := by
  rw [ofList, table_get?_putAll consistent (admits_empty entries)]
  simp

theorem mem_entries_ofList (consistent : Consistent entries) {entry : Edge × β} :
    entry ∈ (ofList entries).entries ↔ entry ∈ entries := by
  rw [EdgeMap.entries, Table.mem_values_iff]
  simp only [table_get?_ofList consistent]
  constructor
  · intro isPresent
    obtain ⟨_, isEntry, _⟩ := isPresent
    exact isEntry
  · intro isEntry
    exact ⟨entry.1.key, isEntry, rfl⟩

theorem Consistent.of_subset {fewer : List (Edge × β)} (consistent : Consistent entries)
    (included : fewer ⊆ entries) : Consistent fewer :=
  fun left inLeft right inRight =>
    consistent left (included inLeft) right (included inRight)

/-- The order in which consistent entries are entered does not matter. -/
theorem sameMap_putAll {left right : EdgeMap β} {leftEntries rightEntries : List (Edge × β)}
    (same : left.SameMap right) (consistent : Consistent leftEntries)
    (admits : left.Admits leftEntries)
    (sameMembers : ∀ entry, entry ∈ leftEntries ↔ entry ∈ rightEntries) :
    (left.putAll leftEntries).SameMap (right.putAll rightEntries) := by
  have rightConsistent : Consistent rightEntries :=
    consistent.of_subset fun entry inRight => (sameMembers entry).2 inRight
  have rightAdmits : right.Admits rightEntries := by
    intro entry inRight present isPresent
    rw [← same] at isPresent
    exact admits entry ((sameMembers entry).2 inRight) present isPresent
  intro key
  apply Option.ext
  intro found
  rw [table_get?_putAll consistent admits, table_get?_putAll rightConsistent rightAdmits,
    sameMembers, same]

theorem sameMap_ofList {left right : List (Edge × β)} (consistent : Consistent left)
    (sameMembers : ∀ entry, entry ∈ left ↔ entry ∈ right) :
    (ofList left).SameMap (ofList right) :=
  sameMap_putAll (Table.SameMap.refl _) consistent (admits_empty left) sameMembers

end RoutingPlane.EdgeMap
