import Mathlib.Data.List.Induction
import Mathlib.Data.List.Nodup
import Mathlib.Data.List.Perm.Basic
import RoutingPlane.Proofs.Sequence
import RoutingPlane.Table

/-!
What is found in tables. A table that is written from a list of entries holds the
last value of every key, and the list itself if no key is repeated. Two tables
are equal as maps if every key has the same value in both; then they differ only
in the order of their entries.
-/

namespace RoutingPlane.Table

universe u v w

variable {κ : Type u} {β : Type v} {γ : Type w}

@[simp]
theorem keys_mapValues (transform : κ → β → γ) (table : Table κ β) :
    (table.mapValues transform).keys = table.keys := by
  simp [keys, mapValues]

theorem keys_filterKeys (keep : κ → Bool) (table : Table κ β) :
    (table.filterKeys keep).keys = table.keys.filter keep := by
  rw [keys, keys, filterKeys, List.filter_map]
  rfl

variable [DecidableEq κ]

theorem find?_eq_none_iff {key : κ} {entries : List (κ × β)} :
    find? key entries = none ↔ key ∉ entries.map Prod.fst := by
  induction entries with
  | nil =>
      simp [find?]
  | cons entry rest inductionHypothesis =>
      by_cases same : entry.1 = key
      · simp [find?, same]
      · simp [find?, same, Ne.symm same, inductionHypothesis]

theorem mem_of_find? {key : κ} {value : β} {entries : List (κ × β)}
    (found : find? key entries = some value) : (key, value) ∈ entries := by
  induction entries with
  | nil =>
      simp [find?] at found
  | cons entry rest inductionHypothesis =>
      by_cases same : entry.1 = key
      · simp only [find?, same, if_true, Option.some.injEq] at found
        exact List.mem_cons.2 (.inl (Prod.ext same.symm found.symm))
      · simp only [find?, same, if_false] at found
        exact List.mem_cons_of_mem _ (inductionHypothesis found)

theorem get?_eq_none_iff {table : Table κ β} {key : κ} :
    table.get? key = none ↔ key ∉ table.keys :=
  find?_eq_none_iff

theorem mem_keys_iff_exists {table : Table κ β} {key : κ} :
    key ∈ table.keys ↔ ∃ value, table.get? key = some value := by
  rw [← Option.ne_none_iff_exists', ne_eq, get?_eq_none_iff, not_not]

theorem contains_iff_mem_keys {table : Table κ β} {key : κ} :
    table.contains key = true ↔ key ∈ table.keys := by
  rw [contains, Option.isSome_iff_exists, mem_keys_iff_exists]

theorem mem_values_iff {table : Table κ β} {value : β} :
    value ∈ table.values ↔ ∃ key, table.get? key = some value := by
  simp only [values, List.mem_map, Prod.exists, exists_eq_right, get?_eq_some_iff]

theorem get?_mapValues (transform : κ → β → γ) (table : Table κ β) (key : κ) :
    (table.mapValues transform).get? key = (table.get? key).map (transform key) := by
  simp only [get?, mapValues]
  induction table.entries with
  | nil =>
      rfl
  | cons entry rest inductionHypothesis =>
      by_cases same : entry.1 = key
      · simp [find?, same]
      · simp [find?, same, inductionHypothesis]

theorem mapValues_congr {left right : κ → β → γ} {table : Table κ β}
    (same : ∀ key value, table.get? key = some value → left key value = right key value) :
    table.mapValues left = table.mapValues right := by
  apply ext_entries
  apply List.map_congr_left
  intro entry isEntry
  rw [same entry.1 entry.2 (get?_eq_some_iff.2 isEntry)]

theorem get?_filterKeys (keep : κ → Bool) (table : Table κ β) (key : κ) :
    (table.filterKeys keep).get? key = if keep key then table.get? key else none := by
  apply Option.ext
  intro value
  rw [get?_eq_some_iff, filterKeys, List.mem_filter, ← get?_eq_some_iff]
  by_cases kept : keep key
  · simp [kept]
  · simp [kept]

/-! ## Tables written from lists -/

theorem find?_append (key : κ) (front back : List (κ × β)) :
    find? key (front ++ back) = (find? key front).or (find? key back) := by
  induction front with
  | nil =>
      rfl
  | cons entry rest inductionHypothesis =>
      by_cases same : entry.1 = key
      · simp [find?, same]
      · simp [find?, same, inductionHypothesis]

/-- Writing entries gives every key its last value among them. -/
theorem get?_putAll (table : Table κ β) (entries : List (κ × β)) (key : κ) :
    (table.putAll entries).get? key =
      (find? key entries.reverse).or (table.get? key) := by
  induction entries generalizing table with
  | nil =>
      rfl
  | cons entry rest inductionHypothesis =>
      obtain ⟨first, value⟩ := entry
      have unfolded :
          table.putAll ((first, value) :: rest) = (table.put first value).putAll rest :=
        rfl
      rw [unfolded, inductionHypothesis, get?_put, List.reverse_cons, find?_append,
        Option.or_assoc]
      by_cases same : key = first
      · simp [find?, same]
      · simp [find?, same, Ne.symm same]

theorem get?_ofList (entries : List (κ × β)) (key : κ) :
    (ofList entries).get? key = find? key entries.reverse := by
  rw [ofList, get?_putAll, get?_empty, Option.or_none]

/-- A list that repeats no key is the table that is written from it. -/
theorem get?_ofList_eq_some_iff {entries : List (κ × β)} {key : κ} {value : β}
    (nodup : (entries.map Prod.fst).Nodup) :
    (ofList entries).get? key = some value ↔ (key, value) ∈ entries := by
  have reversedNodup : (entries.reverse.map Prod.fst).Nodup := by
    rw [List.map_reverse, List.nodup_reverse]
    exact nodup
  rw [get?_ofList, ← List.mem_reverse]
  exact ⟨mem_of_find?, find?_eq_some_of_mem reversedNodup⟩

theorem mem_of_get?_ofList {entries : List (κ × β)} {key : κ} {value : β}
    (found : (ofList entries).get? key = some value) : (key, value) ∈ entries :=
  mem_of_mem_ofList (mem_entries_of_get? found)

theorem mem_keys_ofList_iff {entries : List (κ × β)} {key : κ} :
    key ∈ (ofList entries).keys ↔ key ∈ entries.map Prod.fst := by
  rw [← not_iff_not, ← get?_eq_none_iff, get?_ofList, find?_eq_none_iff, List.map_reverse,
    List.mem_reverse]

/-- A table that is written from names gives each of them its value. -/
theorem get?_ofList_map {names : List κ} (nodup : names.Nodup) (valueOf : κ → β) (key : κ) :
    (ofList (names.map fun name => (name, valueOf name))).get? key =
      if key ∈ names then some (valueOf key) else none := by
  have nodupKeys :
      ((names.map fun name => (name, valueOf name)).map Prod.fst).Nodup := by
    rw [List.map_map]
    exact (List.map_id names).symm ▸ nodup
  apply Option.ext
  intro value
  rw [get?_ofList_eq_some_iff nodupKeys, List.mem_map]
  constructor
  · intro isWritten
    obtain ⟨name, isName, same⟩ := isWritten
    obtain ⟨rfl, rfl⟩ := Prod.mk.inj same
    rw [if_pos isName]
  · intro found
    by_cases isName : key ∈ names
    · rw [if_pos isName, Option.some.injEq] at found
      exact ⟨key, isName, by rw [found]⟩
    · simp [isName] at found

theorem putEntry_of_not_mem {entries : List (κ × β)} {key : κ} (value : β)
    (isNew : key ∉ entries.map Prod.fst) : putEntry key value entries = entries ++ [(key, value)] := by
  induction entries with
  | nil =>
      rfl
  | cons entry rest inductionHypothesis =>
      rw [List.map_cons, List.mem_cons, not_or] at isNew
      obtain ⟨differs, notInRest⟩ := isNew
      rw [putEntry, if_neg (Ne.symm differs), inductionHypothesis notInRest, List.cons_append]

theorem entries_put_of_not_mem {table : Table κ β} {key : κ} (value : β)
    (isNew : key ∉ table.keys) : (table.put key value).entries = table.entries ++ [(key, value)] :=
  putEntry_of_not_mem value isNew

theorem entries_ofList_map {names : List κ} (nodup : names.Nodup) (valueOf : κ → β) :
    (ofList (names.map fun name => (name, valueOf name))).entries =
      names.map fun name => (name, valueOf name) := by
  induction names using List.reverseRecOn with
  | nil =>
      rfl
  | append_singleton front last inductionHypothesis =>
      rw [List.nodup_append] at nodup
      obtain ⟨frontNodup, _, apart⟩ := nodup
      have frontEntered := inductionHypothesis frontNodup
      have isNew : last ∉ (ofList (front.map fun name => (name, valueOf name))).keys := by
        rw [keys, frontEntered, List.map_map]
        intro isOld
        obtain ⟨name, isName, same⟩ := List.mem_map.1 isOld
        exact apart name isName last (List.mem_singleton_self _) same
      have lastPut : ofList ((front ++ [last]).map fun name => (name, valueOf name)) =
          (ofList (front.map fun name => (name, valueOf name))).put last (valueOf last) := by
        rw [List.map_append, ofList, putAll, List.foldl_append]
        rfl
      rw [lastPut, entries_put_of_not_mem _ isNew, frontEntered, List.map_append]
      rfl

/-! ## Entries in another order -/

def reordered (table : Table κ β) (entries : List (κ × β))
    (permuted : entries.Perm table.entries) : Table κ β where
  entries := entries
  keysNodup := (permuted.map Prod.fst).nodup_iff.2 table.keysNodup

def reversed (table : Table κ β) : Table κ β :=
  table.reordered table.entries.reverse (List.reverse_perm _)

/-- The table with the entry of a key first, and the others in their order. -/
def movedFirst (table : Table κ β) (key : κ) : Table κ β :=
  table.reordered
    (table.entries.filter (fun entry => decide (entry.1 = key)) ++
      table.entries.filter fun entry => !decide (entry.1 = key))
    (List.filter_append_perm _ _)

/-- The key that was moved comes first. -/
theorem head?_keys_movedFirst {table : Table κ β} {key : κ} (isKey : key ∈ table.keys) :
    (table.movedFirst key).keys.head? = some key := by
  obtain ⟨entry, isEntry, rfl⟩ := List.mem_map.1 isKey
  have isKept : entry ∈ table.entries.filter fun other => decide (other.1 = entry.1) :=
    List.mem_filter.2 ⟨isEntry, decide_eq_true rfl⟩
  have keysAre : (table.movedFirst entry.1).keys =
      (table.entries.filter (fun other => decide (other.1 = entry.1)) ++
        table.entries.filter fun other => !decide (other.1 = entry.1)).map Prod.fst :=
    rfl
  rw [keysAre]
  cases moved : table.entries.filter fun other => decide (other.1 = entry.1) with
  | nil =>
      rw [moved] at isKept
      cases isKept
  | cons first rest =>
      have isFirst : first ∈ table.entries.filter fun other => decide (other.1 = entry.1) :=
        moved ▸ List.mem_cons_self
      have sameKey := of_decide_eq_true (List.mem_filter.1 isFirst).2
      simp [sameKey]

/-! ## Equality as maps -/

/-- Every key has the same value in two tables. -/
def SameMap (left right : Table κ β) : Prop :=
  ∀ key, left.get? key = right.get? key

namespace SameMap

variable {left right : Table κ β}

theorem refl (table : Table κ β) : table.SameMap table :=
  fun _ => rfl

theorem of_perm (permuted : left.entries.Perm right.entries) : left.SameMap right := by
  intro key
  apply Option.ext
  intro value
  rw [get?_eq_some_iff, get?_eq_some_iff, permuted.mem_iff]

theorem mem_keys (same : left.SameMap right) {key : κ} :
    key ∈ left.keys ↔ key ∈ right.keys := by
  rw [mem_keys_iff_exists, mem_keys_iff_exists, same]

theorem mapValues (same : left.SameMap right) (transform : κ → β → γ) :
    (left.mapValues transform).SameMap (right.mapValues transform) := by
  intro key
  rw [get?_mapValues, get?_mapValues, same]

theorem filterKeys (same : left.SameMap right) (keep : κ → Bool) :
    (left.filterKeys keep).SameMap (right.filterKeys keep) := by
  intro key
  rw [get?_filterKeys, get?_filterKeys, same]

end SameMap

end RoutingPlane.Table
