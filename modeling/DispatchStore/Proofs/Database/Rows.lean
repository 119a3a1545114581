import DispatchStore.Database.Query

/-!
# The rows that a query selects

A query passes over the rows of its table in one order or another, but always over all of them
(`Query.mem_passage`). So it selects rows that satisfy its criteria (`Query.mem_rows`), and if it
may select any row at all, it selects none only if no row satisfies them (`Query.rows_eq_nil_iff`).
What it reads of a row are cells under the names that the columns have (`Query.records`).
-/

namespace DispatchStore

/-- A scan passes over exactly the rows of the table. -/
@[simp]
theorem Table.mem_scan {t : Table} {row : Row} : row ∈ t.scan ↔ row ∈ t.rows := List.mem_mergeSort

/-- An index lists exactly the rows of the table. -/
@[simp] theorem Table.mem_byIndex {t : Table} {row : Row} : row ∈ t.byIndex ↔ row ∈ t.rows :=
  List.mem_mergeSort.trans Table.mem_scan

namespace Query

variable {q : Query} {t : Table} {row : Row}

/-- A query passes over exactly the rows of its table. -/
@[simp] theorem mem_passage : row ∈ q.passage t ↔ row ∈ t.rows := by
  unfold passage
  split
  · exact Table.mem_scan
  · dsimp only
    split
    · exact Table.mem_byIndex
    · split
      · split
        · split
          · exact Table.mem_byIndex
          · rw [List.mem_reverse, Table.mem_byIndex]
        · split
          · exact Table.mem_byIndex
          · exact Table.mem_scan
      · split
        · exact Table.mem_byIndex
        · exact Table.mem_scan

/-- The rows that satisfy the criteria, sorted. -/
theorem mem_selected :
    row ∈ ((q.passage t).filter (t.satisfies q.criteria)).mergeSort (t.precedes q.order) ↔
      row ∈ t.rows ∧ t.satisfies q.criteria row = true := by
  rw [List.mem_mergeSort, List.mem_filter, mem_passage]

/-- What a query gives are rows of its table that satisfy its criteria. -/
theorem mem_rows (h : row ∈ q.rows t) : row ∈ t.rows ∧ t.satisfies q.criteria row = true := by
  unfold rows at h
  dsimp only at h
  split at h
  · exact mem_selected.1 (List.mem_of_mem_take h)
  · exact mem_selected.1 h

/-- A query that may select a row selects none only if no row satisfies its criteria. -/
theorem rows_eq_nil_iff (h : q.limit ≠ some 0) :
    q.rows t = [] ↔ ∀ row ∈ t.rows, t.satisfies q.criteria row = false := by
  have hselected : ((q.passage t).filter (t.satisfies q.criteria)).mergeSort
      (t.precedes q.order) = [] ↔ ∀ row ∈ t.rows, t.satisfies q.criteria row = false := by
    rw [List.eq_nil_iff_forall_not_mem]
    refine forall_congr' fun row => ?_
    rw [mem_selected, not_and, Bool.not_eq_true]
  unfold rows
  cases hl : q.limit with
  | none => exact hselected
  | some n =>
    have hn : n ≠ 0 := fun hn => h (by rw [hl, hn])
    rw [← hselected]
    simp [hn]

/-- The records that a query reads. -/
def records (q : Query) (db : Database) : Except EngineError (List Record) :=
  (q.source db).map fun t =>
    (q.rows t).map fun row => (t.spelled q.columns).zip (t.cells q.columns row)

end Query

end DispatchStore
