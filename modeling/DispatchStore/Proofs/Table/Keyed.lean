import DispatchStore.Proofs.Database.Frame
import DispatchStore.Proofs.Table.Alike
import DispatchStore.Proofs.Table.Insertion

/-!
# Tables with a text as their key

All columns of such a table hold texts or null, and the first one is its primary key
(`Table.IsTextKeyed`). Its rows are in order if each has a cell for every column and a key that no
other row has (`Table.IsKeyed`); the engine sees to all of this (`Table.IsSound`) but that no key is
null. Then a write by the key does what it says:

* **An insertion** adds a row at the end, or meets the one row with its key (`insert_named`).
* **An update** of another column changes the one row with the key (`update_keyed`).
* **A deletion** takes that row out (`delete_keyed`).

Each of them changes at most the row of its key and leaves the rows in order (`Table.ChangesRow`).
-/

namespace DispatchStore

/-- The value is a text or null. -/
def Value.isTextual : Value → Bool
  | .null => true
  | .text _ => true
  | _ => false

/-- The row has the given key. -/
def Row.hasKey (key : String) (row : Row) : Bool := decide (row.cell 0 = .text key)

/-- A row has a key if the key is the text in its first cell. -/
theorem Row.hasKey_iff {key : String} {row : Row} :
    row.hasKey key = true ↔ row.cell 0 = .text key :=
  decide_eq_true_iff

/-- A row does not have a key if its first cell is not that text. -/
theorem Row.hasKey_eq_false_iff {key : String} {row : Row} :
    row.hasKey key = false ↔ row.cell 0 ≠ .text key := decide_eq_false_iff_not

/-- Setting a cell leaves the others. -/
theorem Row.cell_set_of_ne (row : Row) {i j : Nat} (h : i ≠ j) (v : Value) :
    (row.set i v).cell j = row.cell j := by
  simp [Row.set, Row.cell, h]

/-- Among textual cells each one is textual, also behind the last one, where null is read. -/
theorem Row.isTextual_cell {row : Row} (h : ∀ v ∈ row.cells, v.isTextual = true) (i : Nat) :
    (row.cell i).isTextual = true := by
  unfold Row.cell
  cases hi : row.cells[i]? with
  | none => rfl
  | some v => exact h v (List.mem_of_getElem? hi)

/-- Where nulls are ruled out a textual value is a text. -/
theorem Value.exists_text {v : Value} (h : v.isTextual = true) (hnull : v ≠ .null) :
    ∃ s, v = .text s := by
  cases v with
  | null => exact absurd rfl hnull
  | text s => exact ⟨s, rfl⟩
  | int n => cases h
  | real x => cases h

/-- Among values that are named as the columns are, each column finds its own. -/
theorem Column.find?_named {columns : List Column} {values : List Value}
    (hdistinct : (columns.map Column.name).Pairwise fun a b => Text.sameLetters a b = false)
    {p : Column × Value} (hp : p ∈ columns.zip values) :
    ((columns.map Column.name).zip values).find? (fun v => p.1.isNamed v.1) =
      some (p.1.name, p.2) := by
  induction columns generalizing values with
  | nil => simp at hp
  | cons c rest ih =>
    cases values with
    | nil => simp at hp
    | cons v values =>
      rw [List.map_cons, List.pairwise_cons] at hdistinct
      rw [List.map_cons, List.zip_cons_cons, List.find?_cons]
      rcases List.mem_cons.1 hp with rfl | hp
      · simp [Column.isNamed]
      · have hother : p.1.isNamed c.name = false := by
          have := hdistinct.1 _ (List.mem_map_of_mem (List.of_mem_zip hp).1)
          rwa [Text.sameLetters_comm] at this
        rw [hother]
        exact ih hdistinct.2 hp

namespace Table

/-! ## Columns and rows -/

/-- All columns hold texts, and the first one is the primary key. -/
structure IsTextKeyed (t : Table) : Prop where
  keyIndices : t.keyIndices = [0]
  rowNumberIndex? : t.rowNumberIndex? = none
  texts : ∀ c ∈ t.columns, c.affinity = .text
  distinct : (t.columns.map Column.name).Pairwise fun a b => Text.sameLetters a b = false

instance (t : Table) : Decidable t.IsTextKeyed :=
  decidable_of_iff (t.keyIndices = [0] ∧ t.rowNumberIndex? = none ∧
      (∀ c ∈ t.columns, c.affinity = .text) ∧
      (t.columns.map Column.name).Pairwise fun a b => Text.sameLetters a b = false)
    ⟨fun h => ⟨h.1, h.2.1, h.2.2.1, h.2.2.2⟩,
      fun h => ⟨h.keyIndices, h.rowNumberIndex?, h.texts, h.distinct⟩⟩

/-- The columns of alike tables have the same names. -/
theorem Alike.names {t t' : Table} (h : t.Alike t') :
    t'.columns.map Column.name = t.columns.map Column.name :=
  h.map_eq fun _ _ hc => (Column.agrees_iff.1 hc).1.symm

/-- Alike tables have equally many columns. -/
theorem Alike.length_eq {t t' : Table} (h : t.Alike t') : t'.columns.length = t.columns.length := by
  simpa using congrArg List.length h.names

/-- A table like one with a text as its key has a text as its key. -/
theorem Alike.isTextKeyed {t t' : Table} (h : t.Alike t') (ht : t.IsTextKeyed) :
    t'.IsTextKeyed := by
  refine ⟨h.keyIndices.trans ht.keyIndices, h.rowNumberIndex?.trans ht.rowNumberIndex?, ?_, ?_⟩
  · have haffinities : t'.columns.map Column.affinity = t.columns.map Column.affinity :=
      h.map_eq fun _ _ hc => Column.affinity_of_agrees hc
    intro c hc
    have hmem : c.affinity ∈ t.columns.map Column.affinity := by
      rw [← haffinities]
      exact List.mem_map_of_mem hc
    obtain ⟨u, hu, hcu⟩ := List.mem_map.1 hmem
    rw [← hcu, ht.texts u hu]
  · rw [h.names]
    exact ht.distinct

/-- What the engine sees to in the rows of a table with a text as key: as many cells as columns, no
numbers among texts, and no key twice; nulls count as different keys. -/
structure IsSound (t : Table) : Prop where
  width : ∀ row ∈ t.rows, row.cells.length = t.columns.length
  textual : ∀ row ∈ t.rows, ∀ v ∈ row.cells, v.isTextual = true
  keys : t.rows.Pairwise fun a b => a.cell 0 = b.cell 0 → a.cell 0 = .null

instance (t : Table) : Decidable t.IsSound :=
  decidable_of_iff ((∀ row ∈ t.rows, row.cells.length = t.columns.length) ∧
      (∀ row ∈ t.rows, ∀ v ∈ row.cells, v.isTextual = true) ∧
      t.rows.Pairwise fun a b => a.cell 0 = b.cell 0 → a.cell 0 = .null)
    ⟨fun h => ⟨h.1, h.2.1, h.2.2⟩, fun h => ⟨h.width, h.textual, h.keys⟩⟩

/-- Each row has a cell for every column, and a key that no other row has. -/
structure IsKeyed (t : Table) : Prop where
  width : ∀ row ∈ t.rows, row.cells.length = t.columns.length
  textual : ∀ row ∈ t.rows, ∀ v ∈ row.cells, v.isTextual = true
  keyed : ∀ row ∈ t.rows, ∃ key, row.cell 0 = .text key
  distinct : t.rows.Pairwise fun a b => a.cell 0 ≠ b.cell 0

/-- The rows are in order if the engine saw to them and no key is null. -/
theorem isKeyed_iff {t : Table} :
    t.IsKeyed ↔ t.IsSound ∧ ∀ row ∈ t.rows, row.cell 0 ≠ .null := by
  constructor
  · intro h
    refine ⟨⟨h.width, h.textual, h.distinct.imp fun hne heq => absurd heq hne⟩, ?_⟩
    intro row hrow hnull
    obtain ⟨key, hkey⟩ := h.keyed row hrow
    rw [hkey] at hnull
    cases hnull
  · rintro ⟨h, hnull⟩
    refine ⟨h.width, h.textual, ?_, ?_⟩
    · intro row hrow
      exact Value.exists_text (Row.isTextual_cell (h.textual row hrow) 0) (hnull row hrow)
    · exact h.keys.imp_of_mem fun ha _ hkey heq => hnull _ ha (hkey heq)

/-! ## Criteria and values -/

/-- A value that is named as one of the columns is finds a column. -/
theorem isSome_columnIndex?_named {t : Table} {cells : List Value} {v : String × Value}
    (hv : v ∈ (t.columns.map Column.name).zip cells) : (t.columnIndex? v.1).isSome = true := by
  obtain ⟨c, hc, hname⟩ := List.mem_map.1 (List.of_mem_zip hv).1
  unfold columnIndex?
  rw [List.findIdx?_isSome, List.any_eq_true]
  exact ⟨c, hc, by simp [Column.isNamed, hname]⟩

section Columns

variable {t : Table} (h : t.IsTextKeyed)
include h

/-- A row has a text in a column if that is its cell there. -/
theorem satisfies_text {name : String} {i : Nat} (hi : t.columnIndex? name = some i) (s : String)
    (row : Row) : t.satisfies [(name, .text s)] row = decide (row.cell i = .text s) := by
  obtain ⟨hlt, -⟩ := List.findIdx?_eq_some_iff_findIdx_eq.1 hi
  have hcolumn : t.columns[i]? = some t.columns[i] := List.getElem?_eq_getElem hlt
  have htext : (t.columns[i]).affinity = .text := h.texts _ (List.getElem_mem hlt)
  unfold satisfies
  simp only [List.all_cons, List.all_nil, Bool.and_true, hi, hcolumn, lookupValue, htext,
    Affinity.comparand, Affinity.coerce, ite_self]
  cases row.cell i <;> simp [Value.same]
  rw [Bool.eq_iff_iff]
  simp

/-- The values of a new row, named as the columns are, are its cells. -/
theorem cellsOf_named {cells : List Value} (hlength : cells.length = t.columns.length)
    (htextual : ∀ v ∈ cells, v.isTextual = true) :
    t.cellsOf ((t.columns.map Column.name).zip cells) = cells := by
  have hcoerce : ∀ v ∈ cells, Affinity.text.coerce v = v := by
    intro v hv
    have := htextual v hv
    cases v <;> first | rfl | cases this
  have hcolumns : (t.columns.zip cells).map Prod.fst = t.columns := List.map_fst_zip (by omega)
  have hcells : (t.columns.zip cells).map Prod.snd = cells := List.map_snd_zip (by omega)
  calc t.cellsOf ((t.columns.map Column.name).zip cells)
      = (t.columns.zip cells).map fun p =>
          (((t.columns.map Column.name).zip cells).find? fun v => p.1.isNamed v.1).elim .null
            fun v => p.1.affinity.coerce v.2 := by
        unfold cellsOf
        conv => lhs; rw [← hcolumns]
        rw [List.map_map, hcolumns]
        refine List.map_congr_left fun p _ => ?_
        rw [Function.comp_apply]
        cases ((t.columns.map Column.name).zip cells).find? fun v => p.1.isNamed v.1 <;> rfl
    _ = (t.columns.zip cells).map Prod.snd := by
        refine List.map_congr_left fun p hp => ?_
        obtain ⟨hc, hv⟩ := List.of_mem_zip hp
        rw [Column.find?_named h.distinct hp]
        rw [Option.elim_some, h.texts p.1 hc, hcoerce p.2 hv]
    _ = cells := hcells

end Columns

/-! ## The row of a key -/

/-- A row whose key is a text meets the first row with that key. -/
theorem clash?_eq {t : Table} (h : t.keyIndices = [0]) {row : Row} {key : String}
    (hkey : row.cell 0 = .text key) : t.clash? row = t.rows.findIdx? (Row.hasKey key) := by
  rw [clash?_eq_findIdx? h (by rw [hkey]; simp), hkey]
  refine congrArg (fun p => t.rows.findIdx? p) (funext fun other => ?_)
  rw [Value.same_text]
  rfl

/-- At most one row has a key, where no two rows have the same. -/
theorem countP_hasKey_le_one {rows : List Row}
    (hdistinct : rows.Pairwise fun a b => a.cell 0 ≠ b.cell 0) (key : String) :
    rows.countP (Row.hasKey key) ≤ 1 := by
  induction rows with
  | nil => simp
  | cons row rest ih =>
    obtain ⟨hrow, hrest⟩ := List.pairwise_cons.1 hdistinct
    by_cases hkey : row.hasKey key = true
    · have hothers : rest.countP (Row.hasKey key) = 0 := by
        rw [List.countP_eq_zero]
        intro other hother
        rw [Row.hasKey_iff, ← Row.hasKey_iff.1 hkey]
        exact (hrow other hother).symm
      rw [List.countP_cons_of_pos hkey]
      omega
    · rw [List.countP_cons_of_neg hkey]
      exact ih hrest

/-- Changing the first row with a key changes each one, where no two rows have it. -/
theorem modify_eq_map {rows : List Row} (hdistinct : rows.Pairwise fun a b => a.cell 0 ≠ b.cell 0)
    {key : String} {i : Nat} (hi : rows.findIdx? (Row.hasKey key) = some i) (f : Row → Row) :
    rows.modify i f = rows.map fun row => if row.hasKey key then f row else row := by
  induction rows generalizing i with
  | nil => simp at hi
  | cons row rest ih =>
    obtain ⟨hrow, hrest⟩ := List.pairwise_cons.1 hdistinct
    rw [List.findIdx?_cons] at hi
    by_cases hkey : row.hasKey key = true
    · -- the row with the key comes first, and no other one has it
      rw [if_pos hkey] at hi
      cases hi
      have hothers : rest.map (fun row => if row.hasKey key then f row else row) = rest := by
        refine (List.map_congr_left fun other hother => ?_).trans rest.map_id
        have hne : other.hasKey key = false := by
          rw [Row.hasKey_eq_false_iff, ← Row.hasKey_iff.1 hkey]
          exact (hrow other hother).symm
        simp [hne]
      rw [List.modify_zero_cons, List.map_cons, if_pos hkey, hothers]
    · rw [if_neg hkey] at hi
      obtain ⟨j, hj, rfl⟩ := Option.map_eq_some_iff.1 hi
      rw [List.modify_succ_cons, List.map_cons, if_neg hkey, ih hrest hj]

/-- At most the row of a key is changed, added or taken out, and the rows stay in order. -/
structure ChangesRow (key : String) (t t' : Table) : Prop where
  layout : t.SameLayout t'
  others : t'.rows.filter (fun row => !row.hasKey key) = t.rows.filter fun row => !row.hasKey key
  keyed : t'.IsKeyed

section Writes

variable {t : Table} {key : String} (hk : t.IsKeyed)
include hk

/-- A table that stays as it is changes no row. -/
theorem changesRow_refl (key : String) : ChangesRow key t t := ⟨⟨rfl, rfl⟩, rfl, hk⟩

/-- Adding a row with a new key changes only the row of that key. -/
theorem changesRow_append {new : Row} (hwidth : new.cells.length = t.columns.length)
    (htextual : ∀ v ∈ new.cells, v.isTextual = true) (hkey : new.hasKey key = true)
    (hnone : ∀ row ∈ t.rows, row.hasKey key = false) :
    ChangesRow key t { t with rows := t.rows ++ [new] } := by
  refine ⟨⟨rfl, rfl⟩, ?_, ?_, ?_, ?_, ?_⟩
  · simp [List.filter_append, hkey]
  · intro row hrow
    rcases List.mem_append.1 hrow with hold | hnew
    · exact hk.width row hold
    · rwa [List.mem_singleton.1 hnew]
  · intro row hrow
    rcases List.mem_append.1 hrow with hold | hnew
    · exact hk.textual row hold
    · rwa [List.mem_singleton.1 hnew]
  · intro row hrow
    rcases List.mem_append.1 hrow with hold | hnew
    · exact hk.keyed row hold
    · exact ⟨key, by rw [List.mem_singleton.1 hnew]; exact Row.hasKey_iff.1 hkey⟩
  · refine List.pairwise_append.2 ⟨hk.distinct, List.pairwise_singleton _ _, ?_⟩
    intro row hrow other hother
    rw [List.mem_singleton.1 hother, Row.hasKey_iff.1 hkey]
    exact Row.hasKey_eq_false_iff.1 (hnone row hrow)

/-- Changing the rows with a key, each one within its columns, changes only the row of that key. -/
theorem changesRow_map {f : Row → Row}
    (hf : ∀ row ∈ t.rows, row.hasKey key = true → (f row).hasKey key = true ∧
      (f row).cells.length = t.columns.length ∧ ∀ v ∈ (f row).cells, v.isTextual = true) :
    ChangesRow key t
      { t with rows := t.rows.map fun row => if row.hasKey key then f row else row } := by
  -- the change keeps the key of every row
  have hcell : ∀ row ∈ t.rows, (if row.hasKey key then f row else row).cell 0 = row.cell 0 := by
    intro row hrow
    by_cases hkey : row.hasKey key = true
    · rw [if_pos hkey, Row.hasKey_iff.1 hkey]
      exact Row.hasKey_iff.1 (hf row hrow hkey).1
    · rw [if_neg hkey]
  refine ⟨⟨rfl, rfl⟩, ?_, ?_, ?_, ?_, ?_⟩
  · rw [List.filter_map]
    have hsame : t.rows.filter ((fun row => !row.hasKey key) ∘ fun row =>
        if row.hasKey key then f row else row) = t.rows.filter fun row => !row.hasKey key := by
      refine List.filter_congr fun row hrow => ?_
      exact congrArg (fun v => !decide (v = Value.text key)) (hcell row hrow)
    rw [hsame]
    refine (List.map_congr_left fun row hrow => ?_).trans (List.map_id _)
    have hnot := (List.mem_filter.1 hrow).2
    rw [Bool.not_eq_true'] at hnot
    simp [hnot]
  · intro row hrow
    obtain ⟨old, hold, rfl⟩ := List.mem_map.1 hrow
    by_cases hkey : old.hasKey key = true
    · rw [if_pos hkey]
      exact (hf old hold hkey).2.1
    · rw [if_neg hkey]
      exact hk.width old hold
  · intro row hrow
    obtain ⟨old, hold, rfl⟩ := List.mem_map.1 hrow
    by_cases hkey : old.hasKey key = true
    · rw [if_pos hkey]
      exact (hf old hold hkey).2.2
    · rw [if_neg hkey]
      exact hk.textual old hold
  · intro row hrow
    obtain ⟨old, hold, rfl⟩ := List.mem_map.1 hrow
    rw [hcell old hold]
    exact hk.keyed old hold
  · rw [List.pairwise_map]
    refine hk.distinct.imp_of_mem fun ha hb hne => ?_
    rwa [hcell _ ha, hcell _ hb]

/-- Taking out the rows with a key changes only the row of that key. -/
theorem changesRow_filter :
    ChangesRow key t { t with rows := t.rows.filter fun row => !row.hasKey key } := by
  refine ⟨⟨rfl, rfl⟩, ?_, ?_, ?_, ?_, hk.distinct.filter _⟩
  · simp [List.filter_filter]
  · exact fun row hrow => hk.width row (List.mem_filter.1 hrow).1
  · exact fun row hrow => hk.textual row (List.mem_filter.1 hrow).1
  · exact fun row hrow => hk.keyed row (List.mem_filter.1 hrow).1

end Writes

/-! ## Writes by the key -/

/-- What comes of inserting a row that has the given key: it is added, or the conflict clause says
what becomes of the row that has the key already. -/
def placing (t : Table) (row : Row) (key : String) (c : OnConflict) :
    Except EngineError (Table × Nat) :=
  match t.rows.findIdx? (Row.hasKey key), c with
  | none, _ => .ok ({ t with rows := t.rows ++ [row] }, 1)
  | some _, .refuse => .error (.keyViolation t.name t.keyNames)
  | some _, .keep _ => .ok (t, 0)
  | some i, .overwrite _ columns =>
    .ok ({ t with rows := t.rows.modify i fun old => t.takeOver columns old row }, 1)

/-- A row that is to be kept out by its key is added, or one with the key is there. -/
theorem placing_keep {t : Table} {new : Row} {key : String} (hnew : new.cell 0 = .text key)
    (target : String) :
    ∃ t' n, t.placing new key (.keep target) = .ok (t', n) ∧ t.SameLayout t' ∧
      ∀ other, (∃ row ∈ t'.rows, row.cell 0 = .text other) ↔
        (∃ row ∈ t.rows, row.cell 0 = .text other) ∨ other = key := by
  unfold placing
  cases hmet : t.rows.findIdx? (Row.hasKey key) with
  | none =>
    refine ⟨{ t with rows := t.rows ++ [new] }, 1, rfl, ⟨rfl, rfl⟩, fun other => ?_⟩
    constructor
    · rintro ⟨row, hrow, hother⟩
      rcases List.mem_append.1 hrow with hold | hadded
      · exact .inl ⟨row, hold, hother⟩
      · rw [List.mem_singleton.1 hadded, hnew] at hother
        exact .inr (Value.text.inj hother).symm
    · rintro (⟨row, hrow, hother⟩ | rfl)
      · exact ⟨row, List.mem_append_left _ hrow, hother⟩
      · exact ⟨new, List.mem_append_right _ List.mem_cons_self, hnew⟩
  | some i =>
    refine ⟨t, 0, rfl, ⟨rfl, rfl⟩, fun other => ⟨.inl, ?_⟩⟩
    rintro (hthere | rfl)
    · exact hthere
    · obtain ⟨hlt, hmeets, -⟩ := List.findIdx?_eq_some_iff_getElem.1 hmet
      exact ⟨_, List.getElem_mem hlt, Row.hasKey_iff.1 hmeets⟩

section Keyed

variable {t : Table} (h : t.IsTextKeyed)
include h

/-- An insertion of a row with values for all columns meets the row with its key or adds one. -/
theorem insert_named {cells : List Value} (hlength : cells.length = t.columns.length)
    (htextual : ∀ v ∈ cells, v.isTextual = true) {key : String}
    (hkey : cells[0]? = some (.text key)) (hnull : ∀ n, t.nullViolation? ⟨n, cells⟩ = none)
    (c : OnConflict) :
    t.insert ((t.columns.map Column.name).zip cells) c =
      t.placing ⟨t.nextRowNumber, cells⟩ key c := by
  have hcolumns : ∀ v ∈ (t.columns.map Column.name).zip cells,
      (t.columnIndex? v.1).isSome = true := fun _ hv => isSome_columnIndex?_named hv
  have hcell : (⟨t.nextRowNumber, cells⟩ : Row).cell 0 = .text key := by
    unfold Row.cell
    rw [hkey]
    rfl
  rw [insert_eq h.rowNumberIndex? hcolumns, cellsOf_named h hlength htextual]
  unfold placing
  dsimp only
  rw [hnull, clash?_eq h.keyIndices hcell]
  cases t.rows.findIdx? (Row.hasKey key) with
  | none => rfl
  | some i => cases c <;> rfl

/-- Setting a cell besides the key in all rows with a key, of which there is at most one. -/
theorem updateRows_keyed {i : Nat} (hi : i ≠ 0) (value : Value) {criteria : List (String × Value)}
    {key : String} (hcriteria : ∀ row, t.satisfies criteria row = row.hasKey key)
    {done rest : List Row}
    (hone : done.countP (Row.hasKey key) + rest.countP (Row.hasKey key) ≤ 1) :
    t.updateRows i value criteria done rest =
      .ok (done.reverse ++
        rest.map fun row => if row.hasKey key then row.set i value else row) := by
  induction rest generalizing done with
  | nil => simp [updateRows]
  | cons row rest ih =>
    rw [updateRows, hcriteria]
    by_cases hkey : row.hasKey key = true
    · have hcell : (row.set i value).cell 0 = .text key := by
        rw [Row.cell_set_of_ne row hi]
        exact Row.hasKey_iff.1 hkey
      rw [List.countP_cons_of_pos hkey] at hone
      -- no other row has the key, so that the changed row meets none
      have hclash : ({ t with rows := done ++ rest } : Table).clash? (row.set i value) = none := by
        have hindices : ({ t with rows := done ++ rest } : Table).keyIndices = [0] := h.keyIndices
        have hzero : done.countP (Row.hasKey key) = 0 ∧ rest.countP (Row.hasKey key) = 0 := by omega
        rw [clash?_eq hindices hcell, List.findIdx?_eq_none_iff]
        intro other hother
        rcases List.mem_append.1 hother with hmem | hmem
        · simpa using List.countP_eq_zero.1 hzero.1 other hmem
        · simpa using List.countP_eq_zero.1 hzero.2 other hmem
      have hwith : t.withCell i value row = .ok (row.set i value) := by
        simp [withCell, h.rowNumberIndex?]
      have hnext : (row.set i value :: done).countP (Row.hasKey key) +
          rest.countP (Row.hasKey key) ≤ 1 := by
        rw [List.countP_cons_of_pos (Row.hasKey_iff.2 hcell)]
        omega
      simp only [hkey, if_true, hwith, ok_bind, hclash]
      exact (ih hnext).trans (by simp [hkey])
    · have hnext : (row :: done).countP (Row.hasKey key) + rest.countP (Row.hasKey key) ≤ 1 := by
        rw [List.countP_cons_of_neg hkey] at hone ⊢
        exact hone
      rw [if_neg hkey, ih hnext]
      simp [hkey]

/-- An update of a column besides the key changes the row with the key. -/
theorem update_keyed (hk : t.IsKeyed) {column : String} {i : Nat}
    (hcolumn : t.columnIndex? column = some i) (hi : i ≠ 0) (value : String)
    {criteria : List (String × Value)} {key : String}
    (hcriteria : ∀ row, t.satisfies criteria row = row.hasKey key) :
    t.update column value criteria =
      .ok ({ t with rows := t.rows.map fun row =>
          if row.hasKey key then row.set i (.text value) else row },
        t.rows.countP (Row.hasKey key)) := by
  obtain ⟨hlt, -⟩ := List.findIdx?_eq_some_iff_findIdx_eq.1 hcolumn
  have hget : t.columns[i]? = some t.columns[i] := List.getElem?_eq_getElem hlt
  have htext : (t.columns[i]).affinity = .text := h.texts _ (List.getElem_mem hlt)
  have hone : ([] : List Row).countP (Row.hasKey key) + t.rows.countP (Row.hasKey key) ≤ 1 := by
    have := countP_hasKey_le_one hk.distinct key
    simpa using this
  have hrows := updateRows_keyed h hi (.text value) hcriteria hone
  unfold update resolve
  simp only [hcolumn, ok_bind, hget, htext, Affinity.coerce, hrows, List.reverse_nil,
    List.nil_append, funext hcriteria]
  rfl

end Keyed

/-- A deletion by the key takes its row out. -/
theorem delete_keyed {t : Table} {criteria : List (String × Value)} {key : String}
    (hcriteria : ∀ row, t.satisfies criteria row = row.hasKey key) :
    t.delete criteria =
      ({ t with rows := t.rows.filter fun row => !row.hasKey key },
        t.rows.countP (Row.hasKey key)) := by
  unfold delete
  simp only [funext hcriteria]

end Table

end DispatchStore
