import DispatchStore.Proofs.Database.Found
import DispatchStore.Proofs.Schema.Shape
import DispatchStore.Proofs.Table.Content

/-!
# Insertions of whole rows

For a table like that of a shape with a text as its key, an insertion of a whole row changes at most
the row of its key, which then has the cells that the conflict clause says (`Table.placed`,
`TableShape.insertion_exec`), unless it is told to refuse a key that is there
(`TableShape.insertion_refused`).
-/

namespace DispatchStore

namespace Table

/-- A row without a null where none may be is not refused. -/
theorem nullViolation?_eq_none {t : Table} {cells : List Value}
    (hlength : cells.length = t.columns.length)
    (h : ∀ p ∈ (t.columns.map Column.notNull).zip cells, p.1 = true → p.2 ≠ .null) (n : Int) :
    t.nullViolation? ⟨n, cells⟩ = none := by
  unfold nullViolation?
  rw [Option.map_eq_none_iff, List.find?_eq_none]
  rintro ⟨c, i⟩ hc
  obtain ⟨hi, hcolumn⟩ := List.mem_zipIdx' hc
  have hcell : (⟨n, cells⟩ : Row).cell i = cells[i] := by simp [Row.cell, hlength, hi]
  have hmem : (c.notNull, cells[i]) ∈ (t.columns.map Column.notNull).zip cells := by
    rw [List.mem_iff_getElem]
    exact ⟨i, by simp [hlength, hi], by simp [hcolumn]⟩
  intro hviolated
  simp only [Bool.and_eq_true, beq_iff_eq, hcell] at hviolated
  exact h _ hmem hviolated.1.1 hviolated.1.2

/-- Taking cells over from another row leaves the key alone, and texts are put for texts. -/
theorem takeOver_keeps {t : Table} {columns : List String}
    (hcolumns : ∀ c ∈ columns, t.columnIndex? c ≠ some 0) {new : Row}
    (hnew : ∀ v ∈ new.cells, v.isTextual = true) {old : Row}
    (hold : ∀ v ∈ old.cells, v.isTextual = true) :
    (t.takeOver columns old new).cell 0 = old.cell 0 ∧
      (t.takeOver columns old new).cells.length = old.cells.length ∧
      ∀ v ∈ (t.takeOver columns old new).cells, v.isTextual = true := by
  unfold takeOver
  induction columns generalizing old with
  | nil => exact ⟨rfl, rfl, hold⟩
  | cons c rest ih =>
    have hrest := fun c' hc' => hcolumns c' (List.mem_cons_of_mem _ hc')
    rw [List.foldl_cons]
    cases hi : t.columnIndex? c with
    | none => exact ih hrest hold
    | some i =>
      have hne : i ≠ 0 := fun h => hcolumns c List.mem_cons_self (by rw [hi, h])
      have hset : ∀ v ∈ (old.set i (new.cell i)).cells, v.isTextual = true := by
        intro v hv
        rcases List.mem_or_eq_of_mem_set hv with hmem | rfl
        · exact hold v hmem
        · exact Row.isTextual_cell hnew i
      obtain ⟨hcell, hlength, htextual⟩ := ih hrest hset
      refine ⟨hcell.trans (Row.cell_set_of_ne old hne _), ?_, htextual⟩
      rw [hlength]
      exact List.length_set

/-- The cells that the row of a key has after an insertion of the given cells, and the number of
rows that were written. -/
def placed (t : Table) (c : OnConflict) (cells : List Value) : Option Row → List Value × Nat
  | none => (cells, 1)
  | some old =>
    match c with
    | .overwrite _ columns => ((t.takeOver columns old ⟨0, cells⟩).cells, 1)
    | _ => (old.cells, 0)

end Table

/-- Cells that make a row for a table of texts of the given shape. -/
structure TableShape.Takes (shape : TableShape) (cells : List Value) : Prop where
  length : cells.length = shape.columns.length
  textual : ∀ v ∈ cells, v.isTextual = true
  filled : ∀ p ∈ (shape.columns.map Column.notNull).zip cells, p.1 = true → p.2 ≠ .null

namespace TableShape

section Insertion

variable {shape : TableShape} {db : Database} {t : Table} (ht : db.find? shape.table = some t)
  (hl : shape.asTable.Alike t)
include hl

/-- Values that are named as the columns are have names in the table. -/
theorem hasName_named {cells : List Value} :
    ∀ v ∈ (shape.columns.map Column.name).zip cells, t.hasName v.1 = true := by
  intro v hv
  rw [hl.hasName]
  unfold Table.hasName
  rw [Bool.or_eq_true]
  exact .inl (Table.isSome_columnIndex?_named (t := shape.asTable) hv)

include ht

/-- The insertion of a row with values for all columns is looked up. -/
theorem insertion_check (cells : List Value) {c : OnConflict}
    (hc : ∀ target, c = .keep target ∨ (∃ columns, c = .overwrite target columns) →
      shape.asTable.hasKey target = true) :
    (Statement.insert shape.table ((shape.columns.map Column.name).zip cells) c).check db =
      .ok true :=
  insert_check ht (hasName_named hl) fun target htarget =>
    (hl.hasKey target).trans (hc target htarget)

variable (hkeyed : shape.asTable.IsTextKeyed) {cells : List Value} (htakes : shape.Takes cells)
  {key : String} (hkey : cells[0]? = some (.text key))
include hkeyed htakes hkey

/-- The insertion of a row with values for all columns gets as far as the row of its key. -/
theorem insertion_eq {c : OnConflict}
    (hc : ∀ target, c = .keep target ∨ (∃ columns, c = .overwrite target columns) →
      shape.asTable.hasKey target = true) :
    (Statement.insert shape.table ((shape.columns.map Column.name).zip cells) c).exec .free db =
      (t.placing ⟨t.nextRowNumber, cells⟩ key c).map
        fun r => (db.modify shape.table fun _ => r.1, r.2) := by
  have hnames : t.columns.map Column.name = shape.columns.map Column.name := hl.names
  have hflags : t.columns.map Column.notNull = shape.columns.map Column.notNull :=
    hl.map_eq fun _ _ hc => (Column.agrees_iff.1 hc).2.2.1.symm
  have hlength : cells.length = t.columns.length := htakes.length.trans hl.length_eq.symm
  have hkeys := fun target htarget => (hl.hasKey target).trans (hc target htarget)
  rw [insert_exec ht (hasName_named hl) hkeys, ← hnames,
    Table.insert_named (hl.isTextKeyed hkeyed) hlength htakes.textual hkey
      (Table.nullViolation?_eq_none hlength (by rw [hflags]; exact htakes.filled))]

/-- An insertion that is to refuse a key that is there does so. -/
theorem insertion_refused (hthere : ∃ row ∈ t.rows, row.hasKey key = true) :
    (Statement.insert shape.table ((shape.columns.map Column.name).zip cells) .refuse).exec .free
      db = .error (.keyViolation t.name t.keyNames) := by
  have hc : ∀ target, OnConflict.refuse = .keep target ∨
      (∃ columns, OnConflict.refuse = .overwrite target columns) →
      shape.asTable.hasKey target = true := by
    rintro target (h | ⟨columns, h⟩) <;> cases h
  have hsome : (t.rows.findIdx? (Row.hasKey key)).isSome = true := by
    rw [List.findIdx?_isSome, List.any_eq_true]
    exact hthere
  obtain ⟨i, hi⟩ := Option.isSome_iff_exists.1 hsome
  rw [insertion_eq ht hl hkeyed htakes hkey hc]
  unfold Table.placing
  rw [hi]
  rfl

/-- An insertion changes at most the row of its key, if it is not to refuse that. -/
theorem insertion_exec (hk : t.IsKeyed) {c : OnConflict}
    (hc : ∀ target, c = .keep target ∨ (∃ columns, c = .overwrite target columns) →
      shape.asTable.hasKey target = true)
    (hcolumns : ∀ target columns, c = .overwrite target columns →
      ∀ column ∈ columns, shape.asTable.columnIndex? column ≠ some 0)
    (hrefuse : c = .refuse → ∀ row ∈ t.rows, row.hasKey key = false) :
    ∃ t', (Statement.insert shape.table ((shape.columns.map Column.name).zip cells) c).exec .free
        db = .ok (db.modify shape.table fun _ => t', (t.placed c cells (t.row? key)).2) ∧
      t.ChangesRow key t' ∧ t'.cells? key = some (t.placed c cells (t.row? key)).1 := by
  have hlength : cells.length = t.columns.length := htakes.length.trans hl.length_eq.symm
  have hnew : (⟨t.nextRowNumber, cells⟩ : Row).hasKey key = true := by
    rw [Row.hasKey_iff, Row.cell, hkey]
    rfl
  rw [insertion_eq ht hl hkeyed htakes hkey hc]
  unfold Table.placing
  cases hi : t.rows.findIdx? (Row.hasKey key) with
  | none =>
    have hnone : t.row? key = none := Table.findIdx?_eq_none_iff_row?.1 hi
    rw [hnone]
    refine ⟨_, rfl, ?_, ?_⟩
    · exact Table.changesRow_append hk hlength htakes.textual hnew (Table.row?_eq_none_iff.1 hnone)
    · exact congrArg (Option.map Row.cells) (Table.row?_append hnew hnone)
  | some i =>
    have hsome : t.row? key ≠ none := by
      intro hnone
      rw [Table.findIdx?_eq_none_iff_row?.2 hnone] at hi
      cases hi
    obtain ⟨old, hold⟩ := Option.ne_none_iff_exists'.1 hsome
    rw [hold]
    cases c with
    | refuse =>
      have hnone := List.findIdx?_eq_none_iff.2 (hrefuse rfl)
      rw [hi] at hnone
      cases hnone
    | keep target =>
      exact ⟨_, rfl, Table.changesRow_refl hk key, congrArg (Option.map Row.cells) hold⟩
    | overwrite target columns =>
      have hothers : ∀ column ∈ columns, t.columnIndex? column ≠ some 0 := by
        intro column hcolumn
        rw [hl.columnIndex?]
        exact hcolumns target columns rfl column hcolumn
      let new : Row := ⟨t.nextRowNumber, cells⟩
      have hnewTextual : ∀ v ∈ new.cells, v.isTextual = true := htakes.textual
      have hkeeps : ∀ row ∈ t.rows, row.hasKey key = true →
          (t.takeOver columns row new).hasKey key = true ∧
            (t.takeOver columns row new).cells.length = t.columns.length ∧
            ∀ v ∈ (t.takeOver columns row new).cells, v.isTextual = true := by
        intro row hrow hrowKey
        obtain ⟨hcell, hwidth, htexts⟩ :=
          Table.takeOver_keeps hothers hnewTextual (hk.textual row hrow)
        refine ⟨?_, hwidth.trans (hk.width row hrow), htexts⟩
        rw [Row.hasKey_iff, hcell]
        exact Row.hasKey_iff.1 hrowKey
      refine ⟨_, rfl, ?_, ?_⟩
      · rw [Table.modify_eq_map hk.distinct hi]
        exact Table.changesRow_map hk hkeeps
      · rw [Table.modify_eq_map hk.distinct hi]
        unfold Table.cells?
        rw [Table.row?_map fun row hrow hrowKey => (hkeeps row hrow hrowKey).1, hold]
        rfl

end Insertion

end TableShape

end DispatchStore
