import DispatchStore.Proofs.Ledger.Reading
import DispatchStore.Proofs.Schema.Shape
import DispatchStore.Proofs.Table.Insertion

/-!
# Writing the ledger of versions

Creating the ledger gets through, and changes nothing if it is there (`creation_exec`); recording a
version that is not on record adds it behind the others (`recording_exec`). `ensured` and `record`
are what they make of a database: a database with a ledger (`Ledger.IsPresent`), with the same
versions on record or one more, and with the other tables as they were.
-/

namespace DispatchStore

namespace Ledger

/-! ## Writing -/

/-- The database with a ledger. -/
def ensured (db : Database) : Database :=
  if (db.find? tableName).isSome then db else ⟨db.tables ++ [⟨tableName, layout, []⟩]⟩

/-- The shape of the ledger. -/
def shape : TableShape := ⟨tableName, layout⟩

/-- The engine creates the ledger as it is declared. -/
theorem isCreatable_shape : shape.IsCreatable := by decide

/-- A database with a ledger stays as it is. -/
theorem ensured_of_isSome {db : Database} (h : (db.find? tableName).isSome = true) :
    ensured db = db :=
  show db.having shape = db from Database.having_of_isSome h

/-- A database without a ledger gets an empty one behind its tables. -/
theorem ensured_of_none {db : Database} (h : db.find? tableName = none) :
    ensured db = ⟨db.tables ++ [⟨tableName, layout, []⟩]⟩ :=
  show db.having shape = ⟨db.tables ++ [shape.asTable]⟩ from Database.having_of_eq_none h

/-- The creation of the ledger finds nothing to object to in any database. -/
theorem creation_check (db : Database) : creation.check db = .ok (db.find? tableName).isNone :=
  TableShape.creation_check isCreatable_shape db

/-- The creation of the ledger gets through, and adds an empty ledger where there is none. -/
theorem creation_exec (db : Database) : creation.exec .free db = .ok (ensured db, 0) :=
  TableShape.creation_exec isCreatable_shape db

/-- To ensure the ledger never fails where nobody else writes. -/
@[simp] theorem ensure_eq (db : Database) : ensure .free db = .ok (ensured db) := by
  unfold ensure
  rw [creation_exec]
  rfl

/-- The row that records a version. -/
def entry (version : Int) (appliedAt : String) : Row := ⟨version, [.int version, .text appliedAt]⟩

/-- The database with one more version on record. -/
def record (version : Int) (appliedAt : String) (db : Database) : Database :=
  match db.find? tableName with
  | none => db
  | some t =>
    db.modify tableName fun _ => { t with rows := t.rows ++ [entry version appliedAt] }

section Insert

variable {t : Table} (h : IsLedger t)
include h

/-- The version is the number of the row. -/
theorem isRowNumber_version : t.isRowNumber "version" = true := by
  unfold Table.isRowNumber
  rw [h.columnIndex?_version, h.rowNumberIndex?]
  rfl

/-- The time is not the number of the row. -/
theorem isRowNumber_appliedAt : t.isRowNumber "applied_at" = false := by
  unfold Table.isRowNumber
  rw [h.columnIndex?_appliedAt, h.rowNumberIndex?]
  rfl

/-- The row that is made of a version and a time. -/
theorem rowOf_recording (version : Int) (appliedAt : String) :
    t.rowOf [("version", .int version), ("applied_at", .text appliedAt)] =
      .ok (entry version appliedAt) := by
  have hcells : t.cellsOf [("version", .int version), ("applied_at", .text appliedAt)] =
      [.int version, .text appliedAt] := by
    have hnumeric : Affinity.ofType "INTEGER" = .numeric := by decide
    have htext : Affinity.ofType "TEXT" = .text := by decide
    have hsame : Text.sameLetters "version" "version" = true := by decide
    have hother : Text.sameLetters "applied_at" "version" = false := by decide
    have hsame' : Text.sameLetters "applied_at" "applied_at" = true := by decide
    unfold Table.cellsOf
    rw [h.columns]
    simp only [layout, List.map_cons, List.map_nil, List.find?_cons, Column.isNamed,
      Column.affinity, hsame, hother, hsame', hnumeric, htext, Affinity.coerce, Affinity.numberOf]
  unfold Table.rowOf Table.givenNumber? Table.withNumber
  rw [h.rowNumberIndex?, hcells]
  simp only [List.reverse_cons, List.reverse_nil, List.nil_append, List.cons_append,
    List.find?_cons, isRowNumber_appliedAt h, isRowNumber_version h]
  rfl

/-- No row has the key of a version that is not on record. -/
theorem clash?_entry {version : Int} (hv : version ∉ t.rows.map Row.number) (appliedAt : String) :
    t.clash? (entry version appliedAt) = none := by
  have hcell : (entry version appliedAt).cell 0 = .int version := rfl
  rw [Table.clash?_eq_none_iff h.keyIndices (by rw [hcell]; simp)]
  intro row hrow
  have hne : row.number ≠ version := fun heq => hv (List.mem_map.2 ⟨row, hrow, heq⟩)
  rw [h.numbered row hrow, hcell]
  simp [Value.same, hne]

/-- A version that is not on record is added behind the others. -/
theorem insert_recording {version : Int} (hv : version ∉ t.rows.map Row.number)
    (appliedAt : String) :
    t.insert [("version", .int version), ("applied_at", .text appliedAt)] .refuse =
      .ok ({ t with rows := t.rows ++ [entry version appliedAt] }, 1) := by
  have hnull : t.nullViolation? (entry version appliedAt) = none := by
    unfold Table.nullViolation?
    rw [h.columns, h.rowNumberIndex?]
    rfl
  have hnumber : t.numberViolation? (entry version appliedAt) = none := by
    unfold Table.numberViolation?
    rw [h.rowNumberIndex?]
    rfl
  unfold Table.insert
  rw [rowOf_recording h]
  simp only [ok_bind, hnull, hnumber, clash?_entry h hv]
  rfl

end Insert

/-- Recording a version that is not on record gets through. -/
theorem recording_exec {db : Database} {t : Table} (h : IsLedger t)
    (ht : db.find? tableName = some t) {version : Int} (hv : version ∉ onRecord db)
    (appliedAt : String) :
    (recording version appliedAt).exec .free db = .ok (record version appliedAt db, 1) := by
  rw [onRecord_of_find? ht] at hv
  have hnames : ∀ v ∈ [("version", Value.int version), ("applied_at", .text appliedAt)],
      t.hasName v.1 = true := by
    intro v hv
    simp only [List.mem_cons, List.not_mem_nil, or_false] at hv
    rcases hv with rfl | rfl <;>
      simp [Table.hasName, h.columnIndex?_version, h.columnIndex?_appliedAt]
  unfold recording record
  rw [insert_exec ht hnames (by rintro target (heq | ⟨columns, heq⟩) <;> cases heq),
    insert_recording h hv appliedAt, ht]
  rfl

/-! ## What the operations do to the view -/

/-- The database has a ledger, laid out as one. -/
structure IsPresent (db : Database) : Prop where
  kept : IsKept db
  found : (db.find? tableName).isSome = true

/-- A ledger that is present is found, and is laid out as one. -/
theorem IsPresent.exists_find? {db : Database} (h : IsPresent db) :
    ∃ t, db.find? tableName = some t ∧ IsLedger t := by
  obtain ⟨t, ht⟩ := Option.isSome_iff_exists.1 h.found
  exact ⟨t, ht, h.kept.of_find? ht⟩

section Congr

variable {db db' : Database} (h : db'.tablesNamed tableName = db.tablesNamed tableName)
include h

/-- The versions on record depend on the tables of the ledger's name alone. -/
theorem onRecord_congr : onRecord db' = onRecord db := by
  unfold onRecord
  rw [Database.find?_eq_head?, Database.find?_eq_head?, h]

/-- Whether the ledger is kept depends on the tables of its name alone. -/
theorem IsKept.congr (hk : IsKept db) : IsKept db' := by
  unfold IsKept
  rw [h]
  exact hk

/-- Whether there is a ledger depends on the tables of its name alone. -/
theorem IsPresent.congr (hp : IsPresent db) : IsPresent db' := by
  refine ⟨hp.kept.congr h, ?_⟩
  rw [Database.find?_eq_head?, h, ← Database.find?_eq_head?]
  exact hp.found

end Congr

/-- The ledger goes by its own name. -/
theorem isNamed_tableName : Text.sameLetters tableName tableName = true := Text.sameLetters_refl _

section Ensured

variable {db : Database}

/-- Once it is ensured, the ledger is present. -/
theorem isPresent_ensured (h : IsKept db) : IsPresent (ensured db) := by
  cases hf : db.find? tableName with
  | some t =>
    rw [ensured_of_isSome (by rw [hf]; rfl)]
    exact ⟨h, by rw [hf]; rfl⟩
  | none =>
    rw [ensured_of_none hf]
    have hempty : IsLedger ⟨tableName, layout, []⟩ := ⟨rfl, fun _ hrow => absurd hrow (by simp)⟩
    constructor
    · intro t ht
      obtain ⟨hmem, hn⟩ := Database.mem_tablesNamed.1 ht
      rcases List.mem_append.1 hmem with hold | hnew
      · exact h t (Database.mem_tablesNamed.2 ⟨hold, hn⟩)
      · rw [List.mem_singleton.1 hnew]
        exact hempty
    · unfold Database.find? at hf ⊢
      rw [List.find?_append, hf]
      decide

/-- To ensure the ledger puts no version on record. -/
@[simp] theorem onRecord_ensured : onRecord (ensured db) = onRecord db := by
  cases hf : db.find? tableName with
  | some t => rw [ensured_of_isSome (by rw [hf]; rfl)]
  | none =>
    rw [ensured_of_none hf]
    unfold onRecord
    rw [hf]
    unfold Database.find? at hf ⊢
    rw [List.find?_append, hf]
    decide

/-- To ensure the ledger leaves the other tables. -/
@[simp] theorem remove_ensured : (ensured db).remove tableName = db.remove tableName := by
  cases hf : db.find? tableName with
  | some t => rw [ensured_of_isSome (by rw [hf]; rfl)]
  | none =>
    rw [ensured_of_none hf]
    exact Database.remove_append isNamed_tableName

/-- Reading the versions creates the ledger where there is none. -/
theorem appliedVersions_eq (h : IsKept db) :
    appliedVersions .free db = (ensured db, .ok (sorted (onRecord db))) := by
  obtain ⟨t, ht, hl⟩ := (isPresent_ensured h).exists_find?
  unfold appliedVersions reading
  rw [ensure_eq]
  dsimp only
  rw [recorded_eq hl ht, onRecord_ensured]

/-- Reading the highest version creates the ledger where there is none. -/
theorem currentVersion_eq (h : IsKept db) :
    currentVersion .free db = (ensured db, .ok (highestOnRecord (onRecord db))) := by
  obtain ⟨t, ht, hl⟩ := (isPresent_ensured h).exists_find?
  unfold currentVersion reading
  rw [ensure_eq]
  dsimp only
  rw [highest_eq hl ht, onRecord_ensured]

/-- Where the ledger is present there is nothing to ensure. -/
theorem IsPresent.ensured_eq (h : IsPresent db) : ensured db = db := ensured_of_isSome h.found

end Ensured

section Record

variable {db : Database} {t : Table} {version : Int} {appliedAt : String}

/-- One more version is one more row at the end of the ledger. -/
theorem record_of_find? (ht : db.find? tableName = some t) :
    record version appliedAt db =
      db.modify tableName fun _ => { t with rows := t.rows ++ [entry version appliedAt] } := by
  unfold record
  rw [ht]

/-- The ledger with one more version is found as before. -/
theorem find?_record (ht : db.find? tableName = some t) :
    (record version appliedAt db).find? tableName =
      some { t with rows := t.rows ++ [entry version appliedAt] } := by
  rw [record_of_find? ht]
  exact Database.find?_replaced ht ⟨rfl, rfl⟩

/-- The ledger stays one when a version is recorded. -/
theorem isPresent_record (h : IsPresent db) : IsPresent (record version appliedAt db) := by
  obtain ⟨t, ht, hl⟩ := h.exists_find?
  refine ⟨?_, by rw [find?_record ht]; rfl⟩
  intro u hu
  rw [record_of_find? ht] at hu
  obtain ⟨_, _, rfl⟩ := Database.mem_tablesNamed_modify hu
  refine ⟨hl.columns, fun row hrow => ?_⟩
  rcases List.mem_append.1 hrow with hold | hnew
  · exact hl.numbered row hold
  · rw [List.mem_singleton.1 hnew]
    rfl

/-- A version that is recorded comes behind those on record. -/
theorem onRecord_record (h : IsPresent db) :
    onRecord (record version appliedAt db) = onRecord db ++ [version] := by
  obtain ⟨t, ht, -⟩ := h.exists_find?
  rw [onRecord_of_find? ht, onRecord_of_find? (find?_record ht), List.map_append]
  rfl

/-- To record a version leaves the other tables. -/
@[simp]
theorem remove_record : (record version appliedAt db).remove tableName = db.remove tableName := by
  cases ht : db.find? tableName with
  | none =>
    unfold record
    rw [ht]
  | some t =>
    rw [record_of_find? ht]
    exact Database.remove_modify fun _ _ => Database.isNamed_replaced ht ⟨rfl, rfl⟩

end Record

end Ledger

end DispatchStore
