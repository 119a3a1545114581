import DispatchStore.Proofs.Database.Proper
import DispatchStore.Proofs.Schema.BuiltIn

/-!
# When a strict start is accepted

A pass over the built-in migrations that compares the shapes is accepted exactly if it admits each
migration (`Migration.IsAdmitted`): its table is there with the declared columns, or it is not there
and the migration is not on record, so that the pass creates it. The first migration that is not
admitted is reported, and whether its table is missing or has other columns (`Store.strict_start`).

What the pass leaves of the columns depends on the database before it alone
(`Store.Reaches.columns_eq`), and so does the comparison.
-/

namespace DispatchStore

open Ledger (tableName IsKept IsPresent onRecord highestOnRecord)

/-! ## What the comparison finds -/

namespace TableShape

/-- The columns are the declared ones, in order and nothing else: names agree exactly, types up to
case, flags exactly. -/
def Declares (shape : TableShape) (live : List Column) : Prop :=
  List.Forall₂ (fun declared c => declared.name = c.name ∧
    Text.sameLetters declared.declaredType c.declaredType = true ∧ declared.notNull = c.notNull ∧
    declared.primaryKey = c.primaryKey) shape.columns live

/-- The columns are the declared ones if they agree with them one by one. -/
theorem declares_iff {shape : TableShape} {live : List Column} :
    shape.Declares live ↔ List.Forall₂ (fun c c' => c.agrees c' = true) shape.columns live := by
  unfold Declares
  simp only [Column.agrees_iff]

variable {shape : TableShape} {live : List Column}

/-- A shape that declares columns finds no difference exactly in those. -/
theorem difference?_eq_none_iff (h : shape.columns ≠ []) :
    shape.difference? live = none ↔ shape.Declares live := by
  rw [declares_iff]
  unfold difference?
  cases live with
  | nil =>
    exact ⟨(nomatch ·), fun hforall => absurd (List.forall₂_nil_right_iff.1 hforall) h⟩
  | cons c live => exact differenceFrom?_eq_none_iff

end TableShape

/-! ## What a pass leaves to be compared -/

/-- Taking out the tables of one name does not show under another. -/
theorem Database.find?_remove_of_ne (db : Database) {name other : String}
    (h : Text.sameLetters other name = false) : (db.remove name).find? other = db.find? other := by
  rw [remove_eq_recast]
  exact find?_recast db (fun _ _ _ hu => by cases hu) h

/-- A table that was there is found behind the tables of shapes. -/
theorem Database.find?_havingAll_of_some {shapes : List TableShape} (h : AreDistinct shapes)
    {db : Database} {name : String} {t : Table} (ht : db.find? name = some t) :
    (db.havingAll shapes).find? name = some t := by
  obtain ⟨new, htables, -, -⟩ := exists_tables_havingAll h db
  unfold find? at ht ⊢
  rw [htables, List.find?_append, ht, Option.some_or]

/-- A strict start admits the migration: its table has the declared columns, or there is none and it
is not on record that there was. -/
def Migration.IsAdmitted (m : Migration) (db : Database) : Prop :=
  (∃ t, db.find? m.shape.table = some t ∧ m.shape.Declares t.columns) ∨
    (db.find? m.shape.table = none ∧ m.version ∉ onRecord db)

namespace Registry

/-- Every built-in shape declares columns. -/
theorem builtIn_nonempty : ∀ m ∈ builtIn, m.shape.columns ≠ [] := by decide

/-- A built-in migration is known by the name of its table. -/
theorem builtIn_table :
    ∀ m ∈ builtIn, ∀ u ∈ builtIn, Text.sameLetters m.shape.table u.shape.table = true → m = u := by
  decide

end Registry

namespace Store

open Registry (builtIn pending versions closing)

section Reaches

variable {db db' : Database} (h : Reaches db (pending (onRecord db) builtIn) db')
include h

/-- Beside the ledger a name finds what the pending shapes leave it, whatever was recorded. -/
theorem Reaches.find?_eq {name : String} (hname : Text.sameLetters name tableName = false) :
    db'.find? name =
      ((db.remove tableName).havingAll (Registry.shapes (pending (onRecord db) builtIn))).find?
        name := by
  rw [← h.others, Database.find?_remove_of_ne _ hname]

/-- The columns that there are under the name of a migration: those of the table that was there, and
else the declared ones if the migration was pending. -/
theorem Reaches.columns_eq {m : Migration} (hm : m ∈ builtIn) :
    db'.columns m.shape.table = (db.find? m.shape.table).elim
      (if m.version ∈ onRecord db then [] else m.shape.columns) Table.columns := by
  have hbeside := Registry.builtIn_beside_ledger m hm
  have hpending : ∀ u ∈ pending (onRecord db) builtIn, u ∈ builtIn :=
    fun u hu => (Registry.mem_pending.1 hu).1
  have hdistinct := Registry.distinct_of_builtIn hpending
  have hbefore := db.find?_remove_of_ne hbeside
  unfold Database.columns
  rw [Reaches.find?_eq h hbeside]
  cases hfind : db.find? m.shape.table with
  | some t =>
    rw [Database.find?_havingAll_of_some hdistinct (hbefore.trans hfind)]
    rfl
  | none =>
    by_cases hrecord : m.version ∈ onRecord db
    · -- nobody creates a table of this name
      have hothers : ∀ a ∈ Registry.shapes (pending (onRecord db) builtIn),
          Text.sameLetters m.shape.table a.table = false := by
        refine Registry.forall_shapes fun u hu => ?_
        rw [← Bool.not_eq_true]
        intro hsame
        have heq := Registry.builtIn_table m hm u (hpending u hu) hsame
        exact (Registry.mem_pending.1 hu).2 (heq ▸ hrecord)
      rw [Database.find?_havingAll_of_ne hothers, hbefore, hfind, Registry.builtIn_notEngine m hm,
        if_pos hrecord]
      rfl
    · have hshape : m.shape ∈ Registry.shapes (pending (onRecord db) builtIn) :=
        List.mem_map_of_mem (Registry.mem_pending.2 ⟨hm, hrecord⟩)
      rw [Database.find?_havingAll hdistinct hshape (hbefore.trans hfind), if_neg hrecord]
      rfl

/-- A migration is admitted if its shape fits in the end. -/
theorem Reaches.fits_iff {m : Migration} (hm : m ∈ builtIn) :
    m.shape.Fits db' ↔ m.IsAdmitted db := by
  have hnonempty := Registry.builtIn_nonempty m hm
  unfold TableShape.Fits Migration.IsAdmitted
  rw [TableShape.difference?_eq_none_iff hnonempty, Reaches.columns_eq h hm]
  cases db.find? m.shape.table with
  | some t => simp
  | none =>
    by_cases hrecord : m.version ∈ onRecord db
    · simp [hrecord, TableShape.Declares, hnonempty]
    · simp [hrecord, TableShape.declares_iff, List.forall₂_same, Column.agrees_iff]

/-- The comparison misses the table of a migration if it was missing before the pass, which then
leaves it missing. -/
theorem Reaches.missing_iff {m : Migration} (hm : m ∈ builtIn) (hnot : ¬ m.IsAdmitted db)
    (hproper : db.IsProper) :
    m.shape.difference? (db'.columns m.shape.table) = some .missingTable ↔
      db.find? m.shape.table = none ∧ m.version ∈ onRecord db := by
  rw [TableShape.difference?_eq_missingTable_iff, Reaches.columns_eq h hm]
  unfold Migration.IsAdmitted at hnot
  cases hfind : db.find? m.shape.table with
  | some t =>
    have ht := (hproper.table hfind).nonempty
    simp [ht]
  | none =>
    have hrecord : m.version ∈ onRecord db := by
      by_contra hrecord
      exact hnot (.inr ⟨hfind, hrecord⟩)
    simp [hrecord]

/-- Built-in migrations make no difference to whether tables can be described. -/
theorem Reaches.isDescribable_iff : db'.IsDescribable ↔ db.IsDescribable := by
  have hview : Text.sameLetters "pragma_table_info" tableName = false := by decide
  unfold Database.IsDescribable
  rw [Reaches.find?_eq h hview, Database.find?_havingAll_of_ne, Database.find?_remove_of_ne _ hview]
  exact Registry.forall_shapes fun u hu =>
    Registry.builtIn_describable u (Registry.mem_pending.1 hu).1

/-- The comparison accepts what was admitted. -/
theorem Reaches.refusal?_eq_none_iff (hd : db.IsDescribable) :
    Registry.refusal? builtIn db' = none ↔ ∀ m ∈ builtIn, m.IsAdmitted db := by
  rw [Registry.refusal?_eq_none_iff ((Reaches.isDescribable_iff h).2 hd)]
  exact forall₂_congr fun m hm => Reaches.fits_iff h hm

/-- Otherwise it reports the first migration that was not. -/
theorem Reaches.exists_refused (hd : db.IsDescribable) (hnot : ¬ ∀ m ∈ builtIn, m.IsAdmitted db) :
    ∃ before m after difference, builtIn = before ++ m :: after ∧
      (∀ u ∈ before, u.IsAdmitted db) ∧ ¬ m.IsAdmitted db ∧
      Registry.refusal? builtIn db' = some (.mismatch m.shape.table difference) ∧
      (db.IsProper → (difference.message = "table does not exist" ↔
        db.find? m.shape.table = none ∧ m.version ∈ onRecord db)) := by
  have hfits : ¬ ∀ m ∈ builtIn, m.shape.Fits db' :=
    fun hall => hnot fun m hm => (Reaches.fits_iff h hm).1 (hall m hm)
  obtain ⟨before, m, after, difference, hsplit, hbefore, hdifference, hrefusal⟩ :=
    Registry.exists_departing ((Reaches.isDescribable_iff h).2 hd) hfits
  have hmem : ∀ u, u ∈ before ∨ u = m → u ∈ builtIn := by
    intro u hu
    rw [hsplit]
    rcases hu with hu | rfl <;> simp [*]
  have hm := hmem m (.inr rfl)
  have hrefused : ¬ m.IsAdmitted db := by
    rw [← Reaches.fits_iff h hm, TableShape.Fits, hdifference]
    simp
  refine ⟨before, m, after, difference, hsplit, fun u hu => ?_, hrefused, hrefusal,
    fun hproper => ?_⟩
  · exact (Reaches.fits_iff h (hmem u (.inl hu))).1 (hbefore u hu)
  · rw [ShapeDifference.message_eq_iff, ← Reaches.missing_iff h hm hrefused hproper, hdifference,
      Option.some.injEq]

/-- In the end every migration is on record. -/
theorem Reaches.mem_onRecord {m : Migration} (hm : m ∈ builtIn) : m.version ∈ onRecord db' := by
  rw [h.recorded, List.mem_append]
  by_cases hrecord : m.version ∈ onRecord db
  · exact .inl hrecord
  · exact .inr (List.mem_map_of_mem (Registry.mem_pending.2 ⟨hm, hrecord⟩))

/-- Tables are only added. -/
theorem Reaches.isPrefix_others :
    (db.remove tableName).tables <+: (db'.remove tableName).tables := by
  obtain ⟨new, htables, -⟩ := Database.exists_tables_havingAll
    (Registry.distinct_of_builtIn fun u hu => (Registry.mem_pending.1 hu).1) (db.remove tableName)
  rw [h.others]
  exact ⟨new, htables.symm⟩

end Reaches

/-! ## Strict starts -/

/-- How a strict start over the database `db` ends. -/
structure StartsStrictly (db : Database) (start : Store × Except MigrationError Report) : Prop where
  /-- It is accepted if every migration is admitted, and applies what is not on record. -/
  accepted : db.IsDescribable →
    ((∃ report, start.2 = .ok report) ↔ ∀ m ∈ builtIn, m.IsAdmitted db)
  report : ∀ report, start.2 = .ok report →
    report.applied = versions (pending (onRecord db) builtIn)
  /-- Otherwise the first migration that is not admitted is reported. -/
  refused : db.IsDescribable → (¬ ∀ m ∈ builtIn, m.IsAdmitted db) →
    ∃ before m after difference, builtIn = before ++ m :: after ∧
      (∀ u ∈ before, u.IsAdmitted db) ∧ ¬ m.IsAdmitted db ∧
      start.2 = .error (.mismatch m.shape.table difference) ∧
      (db.IsProper →
        (difference.message = "table does not exist" ↔
          db.find? m.shape.table = none ∧ m.version ∈ onRecord db))
  /-- A table in front of the view of the engine keeps it from comparing. -/
  hidden : ¬ db.IsDescribable →
    start.2 = .error (.database (.engine (.notAView "pragma_table_info")))
  recorded : ∀ m ∈ builtIn, m.version ∈ onRecord start.1.database
  /-- The tables beside the ledger stay as they are, with those that were created behind them. -/
  others : (db.remove tableName).tables <+: (start.1.database.remove tableName).tables

/-- **A strict start.** Over a database whose ledger is missing or laid out as one, and whose other
tables are arbitrary, it is accepted if and only if every built-in migration is admitted. Otherwise
it reports the first that is not. Either way all of them are on record afterwards, and no other
table was changed. -/
theorem strict_start {s : Store} (hopen : s.access = .opened .free) (hk : IsKept s.database)
    (clock : Clock) : StartsStrictly s.database (s.upgrade clock true builtIn) := by
  have hvalid : builtIn.fault? = none := by decide
  obtain ⟨-, hdatabase, hresult⟩ :=
    upgrade_parts hopen hvalid Registry.builtIn_avoids_ledger hk clock true
  obtain ⟨-, hreaches, happlied⟩ := passed_reaches hvalid (fun _ hm => hm) hk clock
  rw [← hdatabase] at hreaches hresult
  rw [happlied] at hresult
  have hrefusal : (s.upgrade clock true builtIn).2 =
      (Registry.refusal? builtIn (s.upgrade clock true builtIn).1.database).elim
        (.ok ⟨versions (pending (onRecord s.database) builtIn),
          highestOnRecord (onRecord (s.upgrade clock true builtIn).1.database)⟩) .error := by
    rw [hresult]
    unfold closing
    cases Registry.refusal? builtIn (s.upgrade clock true builtIn).1.database <;> rfl
  constructor
  · intro hd
    rw [← Reaches.refusal?_eq_none_iff hreaches hd, hrefusal]
    cases Registry.refusal? builtIn (s.upgrade clock true builtIn).1.database <;> simp
  · intro report hreport
    rw [hrefusal] at hreport
    cases hr : Registry.refusal? builtIn (s.upgrade clock true builtIn).1.database with
    | none =>
      rw [hr] at hreport
      cases hreport
      rfl
    | some e =>
      rw [hr] at hreport
      cases hreport
  · intro hd hnot
    obtain ⟨before, m, after, difference, hsplit, hbefore, hrefused, he, hmissing⟩ :=
      Reaches.exists_refused hreaches hd hnot
    refine ⟨before, m, after, difference, hsplit, hbefore, hrefused, ?_, hmissing⟩
    rw [hrefusal, he]
    rfl
  · intro hd
    have hhidden := mt (Reaches.isDescribable_iff hreaches).1 hd
    rw [hrefusal, Registry.refusal?_of_not_isDescribable hhidden (by decide)]
    rfl
  · exact fun m hm => Reaches.mem_onRecord hreaches hm
  · exact Reaches.isPrefix_others hreaches

/-- A store in which the table of overrides is spelled differently, and the ledger of events is gone
although it is on record. -/
def lapsed : Store :=
  .opened ⟨[⟨tableName, Ledger.layout, [Ledger.entry 11 "2024-01-01T00:00:00.000Z"]⟩,
    ⟨"Runtime_Overrides", [⟨"key", "text", false, true⟩, ⟨"value", "Text", false, false⟩,
      ⟨"updated_at", "TEXT", false, false⟩], []⟩]⟩

/-- The ledger of events is reported, and the decisions are created behind it all the same. -/
theorem strict_start_lapsed :
    (lapsed.upgrade still true builtIn).2 = .error (.mismatch "processed_events" .missingTable) ∧
      (∀ m ∈ builtIn, m.version ∈ onRecord (lapsed.upgrade still true builtIn).1.database) ∧
      (lapsed.database.remove tableName).tables <+:
        ((lapsed.upgrade still true builtIn).1.database.remove tableName).tables := by
  have hstart := strict_start (s := lapsed) rfl (by decide) still
  exact ⟨by decide +kernel, hstart.recorded, hstart.others⟩

/-- With a table in front of the view of the engine every migration is admitted, but the start is
not accepted. -/
theorem strict_start_covered :
    (∀ m ∈ builtIn, m.IsAdmitted covered.database) ∧
      ¬ ∃ report, (covered.upgrade still true builtIn).2 = .ok report := by
  have hnew : ∀ m ∈ builtIn, covered.database.find? m.shape.table = none ∧
      m.version ∉ onRecord covered.database := by decide
  have hresult : (covered.upgrade still true builtIn).2 =
      .error (.database (.engine (.notAView "pragma_table_info"))) := by decide +kernel
  refine ⟨fun m hm => .inr (hnew m hm), fun ⟨report, hreport⟩ => ?_⟩
  rw [hresult] at hreport
  cases hreport

end Store

end DispatchStore
