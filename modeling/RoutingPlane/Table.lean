/-!
Tables: finite maps that remember the order in which their keys were first
entered. Writing a key a second time keeps its place and replaces its value;
no key occurs twice. The view of a table is its list of entries.
-/

namespace RoutingPlane

universe u v w

/-- A finite map from keys to values, in order of first entry. -/
structure Table (κ : Type u) (β : Type v) where
  /-- The entries, oldest first. -/
  entries : List (κ × β)
  keysNodup : (entries.map Prod.fst).Nodup

namespace Table

variable {κ : Type u} {β : Type v} {γ : Type w}

/-- Two tables with the same entries are equal. -/
theorem ext_entries {left right : Table κ β}
    (sameEntries : left.entries = right.entries) : left = right := by
  cases left
  cases right
  simp only at sameEntries
  subst sameEntries
  rfl

def empty : Table κ β where
  entries := []
  keysNodup := List.nodup_nil

instance : Inhabited (Table κ β) := ⟨empty⟩

instance : EmptyCollection (Table κ β) := ⟨empty⟩

def keys (table : Table κ β) : List κ :=
  table.entries.map Prod.fst

def values (table : Table κ β) : List β :=
  table.entries.map Prod.snd

def size (table : Table κ β) : Nat :=
  table.entries.length

/-- The table with every value replaced by a function of its key and value. -/
def mapValues (transform : κ → β → γ) (table : Table κ β) : Table κ γ where
  entries := table.entries.map fun entry => (entry.1, transform entry.1 entry.2)
  keysNodup := by
    rw [List.map_map]
    exact table.keysNodup

/-- The entries whose key passes a test. -/
def filterKeys (keep : κ → Bool) (table : Table κ β) : Table κ β where
  entries := table.entries.filter fun entry => keep entry.1
  keysNodup :=
    table.keysNodup.sublist (List.filter_sublist.map Prod.fst)

section Lookup

variable [DecidableEq κ]

/-- The first value that a list of entries gives for a key. -/
def find? (key : κ) : List (κ × β) → Option β
  | [] => none
  | (other, value) :: rest => if other = key then some value else find? key rest

/-- The value of a key. -/
def get? (table : Table κ β) (key : κ) : Option β :=
  find? key table.entries

def contains (table : Table κ β) (key : κ) : Bool :=
  (table.get? key).isSome

/-- Writes a key into a list of entries: in its place if it is there, else at
the end. -/
def putEntry (key : κ) (value : β) : List (κ × β) → List (κ × β)
  | [] => [(key, value)]
  | (other, current) :: rest =>
      if other = key then (other, value) :: rest
      else (other, current) :: putEntry key value rest

theorem mem_keys_putEntry {key other : κ} {value : β} {entries : List (κ × β)} :
    other ∈ (putEntry key value entries).map Prod.fst ↔
      other = key ∨ other ∈ entries.map Prod.fst := by
  induction entries with
  | nil => simp [putEntry]
  | cons entry rest inductionHypothesis =>
      obtain ⟨first, current⟩ := entry
      by_cases same : first = key
      · subst same
        simp [putEntry]
      · simp only [putEntry, same, if_false, List.map_cons, List.mem_cons,
          inductionHypothesis]
        exact or_left_comm

theorem nodup_keys_putEntry {key : κ} {value : β} {entries : List (κ × β)}
    (nodup : (entries.map Prod.fst).Nodup) :
    ((putEntry key value entries).map Prod.fst).Nodup := by
  induction entries with
  | nil => simp [putEntry]
  | cons entry rest inductionHypothesis =>
      obtain ⟨first, current⟩ := entry
      rw [List.map_cons, List.nodup_cons] at nodup
      by_cases same : first = key
      · simpa only [putEntry, same, if_true, List.map_cons, List.nodup_cons]
          using same ▸ nodup
      · simp only [putEntry, same, if_false, List.map_cons, List.nodup_cons]
        refine ⟨fun member => ?_, inductionHypothesis nodup.2⟩
        rcases mem_keys_putEntry.1 member with equal | old
        · exact same equal
        · exact nodup.1 old

/-- The table with a key written: in its old place if it had one, else last. -/
def put (table : Table κ β) (key : κ) (value : β) : Table κ β where
  entries := putEntry key value table.entries
  keysNodup := nodup_keys_putEntry table.keysNodup

def erase (table : Table κ β) (key : κ) : Table κ β :=
  table.filterKeys fun other => !decide (other = key)

/-- Writes a list of entries into a table, from first to last. -/
def putAll (table : Table κ β) (entries : List (κ × β)) : Table κ β :=
  entries.foldl (fun partialTable entry => partialTable.put entry.1 entry.2) table

/-- The table that a list of entries describes when written from first to last:
a repeated key keeps its first place and takes its last value. -/
def ofList (entries : List (κ × β)) : Table κ β :=
  empty.putAll entries

theorem mem_of_mem_putEntry {key : κ} {value : β} {entries : List (κ × β)} {entry : κ × β}
    (isEntry : entry ∈ putEntry key value entries) : entry = (key, value) ∨ entry ∈ entries := by
  induction entries with
  | nil => exact .inl (List.mem_singleton.1 isEntry)
  | cons first rest inductionHypothesis =>
      obtain ⟨other, current⟩ := first
      rw [putEntry] at isEntry
      split at isEntry
      · rename_i same
        rcases List.mem_cons.1 isEntry with rfl | old
        · exact .inl (congrArg (·, value) same)
        · exact .inr (List.mem_cons_of_mem _ old)
      · rcases List.mem_cons.1 isEntry with rfl | later
        · exact .inr List.mem_cons_self
        · exact (inductionHypothesis later).imp_right (List.mem_cons_of_mem _)

theorem mem_of_mem_putAll {table : Table κ β} {entries : List (κ × β)} {entry : κ × β}
    (isEntry : entry ∈ (table.putAll entries).entries) :
    entry ∈ entries ∨ entry ∈ table.entries := by
  induction entries generalizing table with
  | nil => exact .inr isEntry
  | cons first rest inductionHypothesis =>
      rcases inductionHypothesis isEntry with later | written
      · exact .inl (List.mem_cons_of_mem _ later)
      · rcases mem_of_mem_putEntry written with rfl | old
        · exact .inl List.mem_cons_self
        · exact .inr old

theorem mem_of_mem_ofList {entries : List (κ × β)} {entry : κ × β}
    (isEntry : entry ∈ (ofList entries).entries) : entry ∈ entries :=
  (mem_of_mem_putAll isEntry).resolve_right nofun

/-- The table with the value of one key changed, if the key has a value. -/
def modify (table : Table κ β) (key : κ) (change : β → β) : Table κ β :=
  table.mapValues fun other value => if other = key then change value else value

/-! ## Lookup after each operation -/

theorem find?_putEntry_self {key : κ} {value : β} {entries : List (κ × β)} :
    find? key (putEntry key value entries) = some value := by
  induction entries with
  | nil => simp [putEntry, find?]
  | cons entry rest inductionHypothesis =>
      obtain ⟨first, current⟩ := entry
      by_cases same : first = key
      · simp [putEntry, find?, same]
      · simp [putEntry, find?, same, inductionHypothesis]

theorem find?_putEntry_of_ne {key other : κ} {value : β} {entries : List (κ × β)}
    (different : other ≠ key) :
    find? other (putEntry key value entries) = find? other entries := by
  induction entries with
  | nil => simp [putEntry, find?, Ne.symm different]
  | cons entry rest inductionHypothesis =>
      obtain ⟨first, current⟩ := entry
      by_cases same : first = key
      · subst same
        simp [putEntry, find?, Ne.symm different]
      · by_cases found : first = other
        · subst found
          simp [putEntry, find?, same]
        · simp [putEntry, find?, same, found, inductionHypothesis]

@[simp]
theorem get?_empty (key : κ) : (empty : Table κ β).get? key = none := rfl

@[simp]
theorem get?_put_self (table : Table κ β) (key : κ) (value : β) :
    (table.put key value).get? key = some value :=
  find?_putEntry_self

theorem get?_put_of_ne (table : Table κ β) {key other : κ} (value : β)
    (different : other ≠ key) :
    (table.put key value).get? other = table.get? other :=
  find?_putEntry_of_ne different

theorem get?_put (table : Table κ β) (key other : κ) (value : β) :
    (table.put key value).get? other =
      if other = key then some value else table.get? other := by
  by_cases same : other = key
  · subst same
    simp
  · simp [same, get?_put_of_ne table value same]

theorem mem_entries_of_get? {table : Table κ β} {key : κ} {value : β}
    (found : table.get? key = some value) : (key, value) ∈ table.entries := by
  unfold get? at found
  revert found
  induction table.entries with
  | nil => simp [find?]
  | cons entry rest inductionHypothesis =>
      obtain ⟨first, current⟩ := entry
      by_cases same : first = key
      · simp +contextual [find?, same]
      · intro found
        simp only [find?, same, if_false] at found
        exact List.mem_cons_of_mem _ (inductionHypothesis found)

theorem find?_eq_some_of_mem {key : κ} {value : β} {entries : List (κ × β)}
    (nodup : (entries.map Prod.fst).Nodup) (member : (key, value) ∈ entries) :
    find? key entries = some value := by
  induction entries with
  | nil => simp at member
  | cons entry rest inductionHypothesis =>
      obtain ⟨first, current⟩ := entry
      rw [List.map_cons, List.nodup_cons] at nodup
      rcases List.mem_cons.1 member with equal | old
      · cases equal
        simp [find?]
      · have different : first ≠ key := by
          intro same
          exact nodup.1 (same ▸ List.mem_map.2 ⟨(key, value), old, rfl⟩)
        simp [find?, different, inductionHypothesis nodup.2 old]

/-- A table gives a value for a key exactly if it holds that entry. -/
theorem get?_eq_some_iff {table : Table κ β} {key : κ} {value : β} :
    table.get? key = some value ↔ (key, value) ∈ table.entries :=
  ⟨mem_entries_of_get?, find?_eq_some_of_mem table.keysNodup⟩

theorem mem_keys_put {table : Table κ β} {key other : κ} {value : β} :
    other ∈ (table.put key value).keys ↔ other = key ∨ other ∈ table.keys :=
  mem_keys_putEntry

end Lookup

end Table

end RoutingPlane
