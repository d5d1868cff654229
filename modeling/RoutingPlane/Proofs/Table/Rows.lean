import RoutingPlane.Proofs.Table.Lookup

/-!
Computations over all entries of a table that may fail. They succeed if they do
for every entry, so the order of the entries decides neither whether they succeed
nor what they give for a key.
-/

namespace RoutingPlane.Table

universe u v w x

variable {κ : Type u} {β : Type v} {ε : Type x} {γ : Type u}

def rows (table : Table κ β) (resolve : κ → β → Except ε γ) : Except ε (List (κ × γ)) :=
  table.entries.mapM fun entry => do
    let resolved ← resolve entry.1 entry.2
    return (entry.1, resolved)

variable {table left right : Table κ β} {resolve : κ → β → Except ε γ}
  {resolved : List (κ × γ)}

theorem forall₂_rows (succeeded : table.rows resolve = .ok resolved) :
    List.Forall₂ (fun entry row => entry.1 = row.1 ∧ resolve entry.1 entry.2 = .ok row.2)
      table.entries resolved := by
  refine (mapM_eq_ok_iff.1 succeeded).imp fun entry row isRow => ?_
  obtain ⟨value, isResolved, isRow⟩ := bind_eq_ok_iff.1 isRow
  rw [← pure_eq_ok_iff.1 isRow]
  exact ⟨rfl, isResolved⟩

theorem keys_of_rows (succeeded : table.rows resolve = .ok resolved) :
    resolved.map Prod.fst = table.keys := by
  have sameKeys := (forall₂_rows succeeded).imp fun _ _ related => related.1
  rw [keys, ← List.forall₂_eq_eq_eq, List.forall₂_map_left_iff,
    List.forall₂_map_right_iff]
  exact sameKeys.flip.imp fun _ _ same => same.symm

theorem nodup_of_rows (succeeded : table.rows resolve = .ok resolved) :
    (resolved.map Prod.fst).Nodup := by
  rw [keys_of_rows succeeded]
  exact table.keysNodup

/-- The results of the rows of a table, each beside the value it is from. -/
theorem mem_zip_rows_iff (succeeded : table.rows resolve = .ok resolved) {result : γ}
    {source : β} :
    (result, source) ∈ (resolved.map Prod.snd).zip table.values ↔
      ∃ key, (key, source) ∈ table.entries ∧ resolve key source = .ok result := by
  have pointwise := forall₂_rows succeeded
  clear succeeded
  rw [values]
  generalize table.entries = entries at pointwise
  induction pointwise with
  | nil =>
      simp
  | @cons entry row _ _ headRow _ inductionHypothesis =>
      simp only [List.map_cons, List.zip_cons_cons, List.mem_cons, or_and_right, exists_or,
        inductionHypothesis]
      refine or_congr_left ⟨?_, ?_⟩
      · intro isHead
        obtain ⟨rfl, rfl⟩ := Prod.mk.inj isHead
        exact ⟨entry.1, rfl, headRow.2⟩
      · intro fromHead
        obtain ⟨key, rfl, isResolved⟩ := fromHead
        rw [Except.ok.inj (isResolved.symm.trans headRow.2)]

variable [DecidableEq κ]

/-- The rows of a table are its keys with what is computed for their values. -/
theorem mem_rows_iff (succeeded : table.rows resolve = .ok resolved) {key : κ} {value : γ} :
    (key, value) ∈ resolved ↔
      ∃ source, table.get? key = some source ∧ resolve key source = .ok value := by
  constructor
  · intro isRow
    obtain ⟨entry, isEntry, isRow⟩ := exists_of_mem_mapM succeeded isRow
    obtain ⟨value, isResolved, isRow⟩ := bind_eq_ok_iff.1 isRow
    obtain ⟨rfl, rfl⟩ := Prod.mk.inj (pure_eq_ok_iff.1 isRow)
    exact ⟨entry.2, get?_eq_some_iff.2 isEntry, isResolved⟩
  · intro fromSource
    obtain ⟨source, found, isResolved⟩ := fromSource
    have isKey : key ∈ resolved.map Prod.fst := by
      rw [keys_of_rows succeeded, mem_keys_iff_exists]
      exact ⟨source, found⟩
    obtain ⟨row, isRow, rfl⟩ := List.mem_map.1 isKey
    obtain ⟨entry, isEntry, rowStep⟩ := exists_of_mem_mapM succeeded isRow
    obtain ⟨other, otherResolved, rowStep⟩ := bind_eq_ok_iff.1 rowStep
    have sameRow := pure_eq_ok_iff.1 rowStep
    subst sameRow
    have sameSource : entry.2 = source :=
      Option.some.inj ((get?_eq_some_iff.2 isEntry).symm.trans found)
    subst sameSource
    have sameValue : other = value :=
      Except.ok.inj (otherResolved.symm.trans isResolved)
    exact sameValue ▸ isRow

theorem get?_ofList_rows_iff (succeeded : table.rows resolve = .ok resolved) {key : κ}
    {value : γ} : (ofList resolved).get? key = some value ↔
      ∃ source, table.get? key = some source ∧ resolve key source = .ok value := by
  rw [get?_ofList_eq_some_iff (nodup_of_rows succeeded), mem_rows_iff succeeded]

/-- Rows are computed exactly if each of them is. -/
theorem exists_rows_iff :
    (∃ resolved, table.rows resolve = .ok resolved) ↔
      ∀ key source, table.get? key = some source →
        ∃ value, resolve key source = .ok value := by
  rw [rows, exists_mapM_iff]
  constructor
  · intro everyRow key source found
    obtain ⟨row, isRow⟩ := everyRow _ (get?_eq_some_iff.1 found)
    obtain ⟨value, isResolved, _⟩ := bind_eq_ok_iff.1 isRow
    exact ⟨value, isResolved⟩
  · intro everyValue entry isEntry
    obtain ⟨value, isResolved⟩ := everyValue entry.1 entry.2 (get?_eq_some_iff.2 isEntry)
    exact ⟨(entry.1, value), bind_eq_ok_iff.2 ⟨value, isResolved, rfl⟩⟩

/-- Over tables that are equal as maps, a computation fails for both or gives the
same rows. -/
theorem SameMap.rows (same : left.SameMap right) (resolve : κ → β → Except ε γ) :
    Alike (fun leftRows rightRows => ∀ row, row ∈ leftRows ↔ row ∈ rightRows)
      (left.rows resolve) (right.rows resolve) := by
  have bothSucceed :
      (∃ resolved, left.rows resolve = .ok resolved) ↔
        ∃ resolved, right.rows resolve = .ok resolved := by
    rw [exists_rows_iff, exists_rows_iff]
    simp only [same _]
  apply Alike.of_exists_iff bothSucceed
  intro leftRows rightRows leftSucceeded rightSucceeded row
  obtain ⟨key, value⟩ := row
  rw [mem_rows_iff leftSucceeded, mem_rows_iff rightSucceeded]
  simp only [same _]

theorem sameMap_ofList {leftEntries rightEntries : List (κ × γ)}
    (leftNodup : (leftEntries.map Prod.fst).Nodup)
    (rightNodup : (rightEntries.map Prod.fst).Nodup)
    (sameMembers : ∀ entry, entry ∈ leftEntries ↔ entry ∈ rightEntries) :
    (ofList leftEntries).SameMap (ofList rightEntries) := by
  intro key
  apply Option.ext
  intro value
  rw [get?_ofList_eq_some_iff leftNodup, get?_ofList_eq_some_iff rightNodup, sameMembers]

/-- Over tables that are equal as maps, a computation fails for both or gives tables
that are equal as maps. -/
theorem SameMap.ofList_rows (same : left.SameMap right) (resolve : κ → β → Except ε γ) :
    Alike SameMap (left.rows resolve >>= fun resolved => return ofList resolved)
      (right.rows resolve >>= fun resolved => return ofList resolved) :=
  (same.rows resolve).bind fun _ _ leftSucceeded rightSucceeded sameMembers =>
    sameMap_ofList (nodup_of_rows leftSucceeded) (nodup_of_rows rightSucceeded) sameMembers

end RoutingPlane.Table
