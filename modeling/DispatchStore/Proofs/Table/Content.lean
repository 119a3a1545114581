import DispatchStore.Proofs.Table.Keyed
import Mathlib.Data.List.Pairwise

/-!
# The row of a key

A table with a text as its key gives a view: the row of each key (`Table.row?`) and the cells of
that row (`Table.cells?`). Adding, changing and taking out the row of a key have the obvious effect
on it (`row?_append`, `row?_map`, `row?_filter`), and whatever changes the row of one key at most
leaves the rows of all others (`ChangesRow.row?_of_ne`).
-/

namespace DispatchStore.Table

/-- The row with the given key. -/
def row? (t : Table) (key : String) : Option Row := t.rows.find? (Row.hasKey key)

/-- The cells of the row with the given key. -/
def cells? (t : Table) (key : String) : Option (List Value) := (t.row? key).map Row.cells

section Lookup

variable {t : Table} {key : String} {row : Row}

/-- A key has no row exactly if no row has the key. -/
theorem row?_eq_none_iff : t.row? key = none ↔ ∀ row ∈ t.rows, row.hasKey key = false := by
  unfold row?
  rw [List.find?_eq_none]
  simp only [Bool.not_eq_true]

/-- The row of a key is one of the rows, and has the key. -/
theorem mem_of_row? (h : t.row? key = some row) : row ∈ t.rows ∧ row.hasKey key = true :=
  ⟨List.mem_of_find?_eq_some h, List.find?_some h⟩

/-- A key has a row exactly if some row has the key. -/
theorem isSome_row?_iff : (t.row? key).isSome = true ↔ ∃ row ∈ t.rows, row.hasKey key = true :=
  List.find?_isSome

/-- A key has cells if it has a row. -/
@[simp]
theorem isSome_cells? (t : Table) (key : String) : (t.cells? key).isSome = (t.row? key).isSome :=
  Option.isSome_map

/-- A key that is not found at any place has no row. -/
theorem findIdx?_eq_none_iff_row? :
    t.rows.findIdx? (Row.hasKey key) = none ↔ t.row? key = none := by
  rw [List.findIdx?_eq_none_iff, row?_eq_none_iff]

/-- Where no two rows have the same key, the row with a key is the one that has it. -/
theorem row?_eq_some_iff (hk : t.IsKeyed) :
    t.row? key = some row ↔ row ∈ t.rows ∧ row.hasKey key = true := by
  refine ⟨mem_of_row?, ?_⟩
  rintro ⟨hrow, hkey⟩
  have hsome : (t.row? key).isSome = true := isSome_row?_iff.2 ⟨row, hrow, hkey⟩
  obtain ⟨found, hfound⟩ := Option.isSome_iff_exists.1 hsome
  obtain ⟨hmem, hfoundKey⟩ := mem_of_row? hfound
  rw [hfound]
  by_contra hne
  have hsymm : Std.Symm fun a b : Row => a.cell 0 ≠ b.cell 0 := ⟨fun _ _ h => h.symm⟩
  have hcells : found.cell 0 ≠ row.cell 0 :=
    hk.distinct.forall hmem hrow fun heq => hne (congrArg some heq)
  rw [Row.hasKey_iff.1 hfoundKey, Row.hasKey_iff.1 hkey] at hcells
  exact hcells rfl

/-- The number of rows with a key. -/
theorem countP_hasKey (hk : t.IsKeyed) (key : String) :
    t.rows.countP (Row.hasKey key) = if (t.row? key).isSome then 1 else 0 := by
  have hone := countP_hasKey_le_one hk.distinct key
  by_cases hsome : (t.row? key).isSome = true
  · obtain ⟨row, hrow, hkey⟩ := isSome_row?_iff.1 hsome
    have hpos : 0 < t.rows.countP (Row.hasKey key) := List.countP_pos_iff.2 ⟨row, hrow, hkey⟩
    rw [if_pos hsome]
    omega
  · rw [if_neg hsome, List.countP_eq_zero]
    intro row hrow hkey
    exact hsome (isSome_row?_iff.2 ⟨row, hrow, hkey⟩)

end Lookup

/-! ## What changes the row of a key -/

section Changes

variable {t : Table} {key : String}

/-- A row that is added is the row of its key, if the key had none. -/
theorem row?_append {new : Row} (hkey : new.hasKey key = true) (hnone : t.row? key = none) :
    ({ t with rows := t.rows ++ [new] } : Table).row? key = some new := by
  unfold row? at hnone ⊢
  rw [List.find?_append, hnone, Option.none_or, List.find?_cons_of_pos hkey]

/-- Where each row with the key is changed and keeps it, the row of the key is the changed one. -/
theorem row?_map {f : Row → Row}
    (hf : ∀ row ∈ t.rows, row.hasKey key = true → (f row).hasKey key = true) :
    ({ t with rows := t.rows.map fun row => if row.hasKey key then f row else row } :
      Table).row? key =
      (t.row? key).map f := by
  unfold row?
  dsimp only
  generalize t.rows = rows at hf
  induction rows with
  | nil => rfl
  | cons row rest ih =>
    have hrest := ih fun other hother => hf other (List.mem_cons_of_mem _ hother)
    rw [List.map_cons]
    by_cases hkey : row.hasKey key = true
    · have hnew := hf row List.mem_cons_self hkey
      rw [if_pos hkey, List.find?_cons_of_pos hnew, List.find?_cons_of_pos hkey]
      rfl
    · rw [if_neg hkey, List.find?_cons_of_neg hkey, List.find?_cons_of_neg hkey]
      exact hrest

/-- Once the rows with the key are taken out, the key has no row. -/
theorem row?_filter :
    ({ t with rows := t.rows.filter fun row => !row.hasKey key } : Table).row? key = none := by
  rw [row?_eq_none_iff]
  intro row hrow
  have hnot := (List.mem_filter.1 hrow).2
  rwa [Bool.not_eq_true'] at hnot

/-- A row with another key stays as it is. -/
theorem ChangesRow.row?_of_ne {t' : Table} (h : t.ChangesRow key t') {other : String}
    (hne : other ≠ key) : t'.row? other = t.row? other := by
  have hothers : ∀ rows : List Row, rows.find? (Row.hasKey other) =
      (rows.filter fun row => !row.hasKey key).find? (Row.hasKey other) := by
    intro rows
    rw [List.find?_filter]
    refine congrArg (fun p => rows.find? p) (funext fun row => ?_)
    rw [Bool.eq_iff_iff, decide_eq_true_eq, Bool.not_eq_true']
    refine ⟨fun hother => ⟨?_, hother⟩, And.right⟩
    rw [Row.hasKey_eq_false_iff, Row.hasKey_iff.1 hother]
    intro heq
    exact hne (Value.text.inj heq)
  unfold row?
  rw [hothers t'.rows, hothers t.rows, h.others]

/-- A change of the row of one key leaves the cells of every other key. -/
theorem ChangesRow.cells?_of_ne {t' : Table} (h : t.ChangesRow key t') {other : String}
    (hne : other ≠ key) : t'.cells? other = t.cells? other :=
  congrArg (Option.map Row.cells) (h.row?_of_ne hne)

end Changes

end DispatchStore.Table

namespace DispatchStore

/-- The cells of the row with the given key in the table of the given name. -/
def Database.cells? (db : Database) (table key : String) : Option (List Value) :=
  (db.find? table).bind fun t => t.cells? key

/-- The cells of a key in a table by name are those in the table that is found. -/
theorem Database.cells?_eq {db : Database} {table : String} {t : Table}
    (ht : db.find? table = some t) (key : String) : db.cells? table key = t.cells? key := by
  unfold cells?
  rw [ht]
  rfl

/-- No key has cells in a table that is empty or not there. -/
theorem Database.cells?_of_empty {db : Database} {table : String}
    (h : ∀ t, db.find? table = some t → t.rows = []) (key : String) :
    db.cells? table key = none := by
  unfold cells?
  rw [Option.bind_eq_none_iff]
  intro t ht
  rw [Table.cells?, Table.row?, h t ht]
  rfl

end DispatchStore
