import DispatchStore.Proofs.Database.Found
import DispatchStore.Proofs.Database.Frame
import DispatchStore.Schema.Ledger

/-!
# Reading the ledger of versions

`Ledger.onRecord` is the view of a database that the ledger of versions gives: the versions in the
order of their recording, none without a ledger. For a table that is laid out as the engine keeps a
ledger (`Ledger.IsLedger`), reading gives the versions on record in ascending order (`recorded_eq`)
and the highest one, or zero (`highest_eq`).
-/

namespace DispatchStore

namespace Ledger

/-- The columns of the ledger. -/
def layout : List Column :=
  [⟨"version", "INTEGER", false, true⟩, ⟨"applied_at", "TEXT", true, false⟩]

/-- A table that is laid out as a ledger. The version of a row is its number. -/
structure IsLedger (t : Table) : Prop where
  columns : t.columns = layout
  numbered : ∀ row ∈ t.rows, row.cell 0 = .int row.number

instance (t : Table) : Decidable (IsLedger t) :=
  decidable_of_iff (t.columns = layout ∧ ∀ row ∈ t.rows, row.cell 0 = .int row.number)
    ⟨fun h => ⟨h.1, h.2⟩, fun h => ⟨h.columns, h.numbered⟩⟩

/-- The ledger of a database is missing or laid out as a ledger. -/
def IsKept (db : Database) : Prop := ∀ t ∈ db.tablesNamed tableName, IsLedger t

instance (db : Database) : Decidable (IsKept db) :=
  inferInstanceAs (Decidable (∀ t ∈ db.tablesNamed tableName, IsLedger t))

/-- The versions on record, in the order of their recording. -/
def onRecord (db : Database) : List Int :=
  (db.find? tableName).elim [] fun t => t.rows.map Row.number

/-! ## The layout -/

namespace IsLedger

variable {t : Table} (h : IsLedger t)
include h

/-- The key of the ledger is its first column. -/
theorem keyIndices : t.keyIndices = [0] := by
  unfold Table.keyIndices
  rw [h.columns]
  decide

/-- The versions number the rows of the ledger. -/
theorem rowNumberIndex? : t.rowNumberIndex? = some 0 := by
  unfold Table.rowNumberIndex?
  rw [h.keyIndices, h.columns]
  decide

/-- The ledger has no index, since its key numbers the rows. -/
theorem indexed : t.indexed = [] := by
  unfold Table.indexed
  rw [h.rowNumberIndex?]
  rfl

/-- No name is taken by an index of the ledger. -/
theorem indexName? : t.indexName? = none := by
  unfold Table.indexName?
  rw [h.indexed]
  rfl

/-- The versions stand in the first column. -/
theorem columnIndex?_version : t.columnIndex? "version" = some 0 := by
  unfold Table.columnIndex?
  rw [h.columns]
  decide

/-- The times stand in the second column. -/
theorem columnIndex?_appliedAt : t.columnIndex? "applied_at" = some 1 := by
  unfold Table.columnIndex?
  rw [h.columns]
  decide

end IsLedger

/-- Nothing is known about a ledger that is not there. -/
theorem isKept_of_find?_eq_none {db : Database} (h : db.find? tableName = none) : IsKept db := by
  intro t ht
  rw [Database.tablesNamed_eq_nil h] at ht
  cases ht

/-- A ledger that is kept is laid out as one, once it is found. -/
theorem IsKept.of_find? {db : Database} {t : Table} (h : IsKept db)
    (ht : db.find? tableName = some t) : IsLedger t :=
  h t (Database.mem_tablesNamed_of_find? ht)

/-- The versions on record are the numbers of the rows of the ledger. -/
theorem onRecord_of_find? {db : Database} {t : Table} (ht : db.find? tableName = some t) :
    onRecord db = t.rows.map Row.number := by
  unfold onRecord
  rw [ht]
  rfl

/-! ## Reading -/

/-- Numbers in ascending order. -/
def sorted (l : List Int) : List Int := l.mergeSort fun a b => decide (a ≤ b)

/-- Sorting versions neither adds nor loses any. -/
@[simp] theorem mem_sorted {l : List Int} {v : Int} : v ∈ sorted l ↔ v ∈ l := List.mem_mergeSort

/-- Sorted versions are the same ones, each as often as before. -/
theorem sorted_perm (l : List Int) : (sorted l).Perm l := List.mergeSort_perm l _

/-- Sorted versions ascend. -/
theorem pairwise_sorted (l : List Int) : (sorted l).Pairwise (· ≤ ·) := by
  have htrans : ∀ a b c : Int, decide (a ≤ b) → decide (b ≤ c) → decide (a ≤ c) := by
    intro a b c hab hbc
    simp only [decide_eq_true_eq] at *
    omega
  have htotal : ∀ a b : Int, decide (a ≤ b) || decide (b ≤ a) := by
    intro a b
    simp only [Bool.or_eq_true, decide_eq_true_eq]
    omega
  exact (List.pairwise_mergeSort htrans htotal l).imp fun hab => by simpa using hab

/-- Versions that ascend are left as they are. -/
theorem sorted_of_pairwise {l : List Int} (h : l.Pairwise (· ≤ ·)) : sorted l = l :=
  List.mergeSort_of_pairwise (h.imp fun hab => by simpa using hab)

/-- The rows of a ledger sorted by version are its rows sorted by number. -/
theorem rows_versions {t : Table} (h : IsLedger t) :
    (versions.rows t).map Row.number = sorted (t.rows.map Row.number) := by
  have hscan : t.scan.map Row.number = sorted (t.rows.map Row.number) :=
    List.map_mergeSort fun _ _ _ _ => rfl
  have hpassage : versions.passage t = t.scan := by
    unfold Query.passage
    rw [h.indexed]
  have hall : t.scan.filter (t.satisfies versions.criteria) = t.scan :=
    List.filter_eq_self.2 fun _ _ => rfl
  have hprecedes : ∀ a ∈ t.scan, ∀ b ∈ t.scan,
      t.precedes versions.order a b = decide (a.number ≤ b.number) := by
    intro a ha b hb
    have ha' := h.numbered a (List.mem_mergeSort.1 ha)
    have hb' := h.numbered b (List.mem_mergeSort.1 hb)
    simp only [versions, Table.precedes, h.columnIndex?_version, ha', hb', Value.le, Value.same]
    by_cases hab : a.number = b.number <;> simp [hab]
  unfold Query.rows
  rw [hpassage, hall]
  calc (t.scan.mergeSort (t.precedes versions.order)).map Row.number
      = sorted (t.scan.map Row.number) := List.map_mergeSort hprecedes
    _ = sorted (sorted (t.rows.map Row.number)) := by rw [hscan]
    _ = sorted (t.rows.map Row.number) := sorted_of_pairwise (pairwise_sorted _)

/-- The cells of the version column are the versions on record. -/
theorem cells_eq {db : Database} {t : Table} (h : IsLedger t) (ht : db.find? tableName = some t) :
    cells db = .ok ((sorted (onRecord db)).map .int) := by
  have hsource : versions.source db = .ok t :=
    Query.source_eq ht rfl (by simp [versions, Query.names, h.columnIndex?_version])
  have hcell : ∀ row ∈ versions.rows t,
      onlyCell (t.cells versions.columns row) = .int row.number := by
    intro row hrow
    have hmem : row ∈ t.rows := (Query.mem_rows hrow).1
    simp [versions, Table.cells, h.columnIndex?_version, onlyCell, h.numbered row hmem]
  have hmap : ((versions.rows t).map (t.cells versions.columns)).map onlyCell =
      (sorted (onRecord db)).map .int := by
    rw [onRecord_of_find? ht, ← rows_versions h, List.map_map, List.map_map]
    exact List.map_congr_left hcell
  unfold cells Query.run
  rw [hsource, ← hmap]
  rfl

/-- Cells that hold whole numbers are read as these. -/
@[simp] theorem mapM_number (l : List Int) : (l.map Value.int).mapM Value.number = .ok l := by
  have hnumber : ∀ v ∈ l, (Value.int v).number = .ok (id v) := fun _ _ => rfl
  rw [mapM_map_eq_ok hnumber, List.map_id]

/-- The ledger reads as the versions on record in ascending order. -/
theorem recorded_eq {db : Database} {t : Table} (h : IsLedger t)
    (ht : db.find? tableName = some t) : recorded db = .ok (sorted (onRecord db)) := by
  unfold recorded
  rw [cells_eq h ht]
  exact mapM_number _

/-- The larger of cells that hold whole numbers is the larger number. -/
@[simp] theorem foldl_larger (l : List Int) (v : Int) :
    (l.map Value.int).foldl larger (.int v) = .int (l.foldl max v) := by
  induction l generalizing v with
  | nil => rfl
  | cons w l ih =>
    have hlarger : larger (.int v) (.int w) = .int (max v w) := by
      unfold larger
      by_cases hvw : v ≤ w
      · rw [if_pos (by simpa [Value.le] using hvw), Int.max_eq_right hvw]
      · rw [if_neg (by simpa [Value.le] using hvw), Int.max_eq_left (by omega)]
    rw [List.map_cons, List.foldl_cons, hlarger, ih]
    rfl

/-- The highest version on record, or zero if there is none. -/
def highestOnRecord (l : List Int) : Int := l.max?.getD 0

/-- The highest version depends on which versions there are, not on their order. -/
theorem highestOnRecord_congr {l l' : List Int} (h : ∀ v, v ∈ l ↔ v ∈ l') :
    highestOnRecord l = highestOnRecord l' := by
  have hmax : l.max? = l'.max? := by
    refine Option.ext fun v => ?_
    simp [List.max?_eq_some_iff, h]
  unfold highestOnRecord
  rw [hmax]

/-- In ascending order the highest version is the last one. -/
theorem highestOnRecord_of_pairwise {l : List Int} (h : l.Pairwise (· ≤ ·)) :
    highestOnRecord l = l.getLast?.getD 0 := by
  unfold highestOnRecord
  cases hlast : l.getLast? with
  | none =>
    rw [List.getLast?_eq_none_iff.1 hlast]
    rfl
  | some v =>
    obtain ⟨before, rfl⟩ := List.getLast?_eq_some_iff.1 hlast
    have hmax : (before ++ [v]).max? = some v := by
      rw [List.max?_eq_some_iff]
      refine ⟨by simp, fun u hu => ?_⟩
      rcases List.mem_append.1 hu with hu | hu
      · exact (List.pairwise_append.1 h).2.2 u hu v List.mem_cons_self
      · exact Int.le_of_eq (List.mem_singleton.1 hu)
    rw [hmax]

/-- The ledger gives the highest version on record. -/
theorem highest_eq {db : Database} {t : Table} (h : IsLedger t)
    (ht : db.find? tableName = some t) : highest db = .ok (highestOnRecord (onRecord db)) := by
  rw [← highestOnRecord_congr fun _ => mem_sorted]
  unfold highest
  rw [cells_eq h ht]
  cases sorted (onRecord db) with
  | nil => rfl
  | cons v l =>
    simp only [List.map_cons, List.foldl_cons, ok_bind]
    have hnull : larger .null (.int v) = .int v := rfl
    rw [hnull, foldl_larger]
    rfl

end Ledger

end DispatchStore
