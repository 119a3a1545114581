import DispatchStore.Proofs.Schema.Resumption

/-!
# Passes that compare the shapes

A pass that compares the shapes afterwards does to the database what a pass does that does not, also
when a migration fails: the comparison looks at the tables only, and the times at which versions are
recorded make no difference to it (`Registry.passed_untimed`). What it adds is a second way to end:

* **If every shape fits its table**, the pass reports what it would have reported anyway.
* **If one does not**, the pass reports the first in the order of the registry that does not,
  whether its migration was applied now or long ago. The database stays as it is then: the same pass
  reports the same again, and one that does not compare finds nothing left to do.
* **If a table is in front of the view by which tables are described**, no table can be compared and
  the pass reports that.
-/

namespace DispatchStore

open Ledger (tableName IsKept IsPresent onRecord ensured untimed highestOnRecord)

/-! ## Shapes and live tables -/

/-- No table is in front of the view by which the engine describes tables. -/
def Database.IsDescribable (db : Database) : Prop := db.find? "pragma_table_info" = none

instance (db : Database) : Decidable db.IsDescribable :=
  inferInstanceAs (Decidable (db.find? "pragma_table_info" = none))

namespace TableShape

/-- The live table has the declared columns. -/
def Fits (shape : TableShape) (db : Database) : Prop :=
  shape.difference? (db.columns shape.table) = none

instance (shape : TableShape) (db : Database) : Decidable (shape.Fits db) :=
  inferInstanceAs (Decidable (shape.difference? (db.columns shape.table) = none))

/-- Where tables can be described a shape is refused only for its first difference. -/
theorem refusal?_of_isDescribable {db : Database} (h : db.IsDescribable) (shape : TableShape) :
    shape.refusal? db =
      (shape.difference? (db.columns shape.table)).map (.mismatch shape.table) := by
  have hview : (db.find? "pragma_table_info").isSome = false := by
    rw [show db.find? "pragma_table_info" = none from h]
    rfl
  unfold refusal? Database.describe
  simp only [hview, Bool.false_eq_true, if_false]

/-- Where tables cannot be described every shape is refused with the error of the view. -/
theorem refusal?_of_not_isDescribable {db : Database} (h : ¬ db.IsDescribable)
    (shape : TableShape) :
    shape.refusal? db = some (.database (.engine (.notAView "pragma_table_info"))) := by
  have hview : (db.find? "pragma_table_info").isSome = true := Option.isSome_iff_ne_none.2 h
  unfold refusal? Database.describe
  simp only [hview, if_true]

end TableShape

namespace Registry

/-- Where tables can be described a registry is not refused exactly if all of its shapes fit. -/
theorem refusal?_eq_none_iff {db : Database} (h : db.IsDescribable) (r : Registry) :
    r.refusal? db = none ↔ ∀ m ∈ r, m.shape.Fits db := by
  unfold refusal?
  simp only [List.findSome?_eq_none_iff, TableShape.refusal?_of_isDescribable h,
    Option.map_eq_none_iff]
  exact Iff.rfl

/-- The shape that is reported is the first one that does not fit. -/
theorem exists_departing {db : Database} (h : db.IsDescribable) {r : Registry}
    (hr : ¬ ∀ m ∈ r, m.shape.Fits db) :
    ∃ before m after difference, r = before ++ m :: after ∧ (∀ u ∈ before, u.shape.Fits db) ∧
      m.shape.difference? (db.columns m.shape.table) = some difference ∧
      r.refusal? db = some (.mismatch m.shape.table difference) := by
  rw [← refusal?_eq_none_iff h, ← ne_eq, Option.ne_none_iff_exists'] at hr
  obtain ⟨e, he⟩ := hr
  obtain ⟨before, m, after, hsplit, hm, hbefore⟩ := List.findSome?_eq_some_iff.1 he
  rw [TableShape.refusal?_of_isDescribable h] at hm
  obtain ⟨difference, hdifference, rfl⟩ := Option.map_eq_some_iff.1 hm
  refine ⟨before, m, after, difference, hsplit, fun u hu => ?_, hdifference, he⟩
  have hnone := hbefore u hu
  rw [TableShape.refusal?_of_isDescribable h, Option.map_eq_none_iff] at hnone
  exact hnone

/-- Where tables cannot be described a registry is refused unless it is empty. -/
theorem refusal?_of_not_isDescribable {db : Database} (h : ¬ db.IsDescribable) {r : Registry}
    (hr : r ≠ []) : r.refusal? db = some (.database (.engine (.notAView "pragma_table_info"))) := by
  cases r with
  | nil => exact absurd rfl hr
  | cons m rest =>
    unfold refusal?
    rw [List.findSome?_cons, TableShape.refusal?_of_not_isDescribable h]

/-- A pass does the same at other times, apart from the times that it writes down. -/
theorem passed_untimed {r : Registry} {db : Database} (hr : r.fault? = none)
    (ha : r.Avoids tableName) (hk : IsKept db) (clock clock' : Clock) :
    untimed (passed clock r db).1 = untimed (passed clock' r db).1 ∧
      (passed clock r db).2 = (passed clock' r db).2 := by
  have hran : (ensured db).scripts .free (scripts []) = .ok (ensured db) := rfl
  -- both passes are told by one over the same database with nothing committed before
  have hresumed := fun later =>
    @passed_resumed r db (ensured db) clock [] _ hr ha hk rfl hran clock later
  obtain ⟨-, hdatabase, hresult⟩ := hresumed clock
  obtain ⟨-, hdatabase', hresult'⟩ := hresumed clock'
  exact ⟨hdatabase.trans hdatabase'.symm, hresult.trans hresult'.symm⟩

/-- Passes that end with the same versions on record and the same shapes close the same way. -/
theorem closing_untimed {db db' : Database} (h : untimed db = untimed db') (verify : Bool)
    (r : Registry) (result : Except MigrationError (List Int)) :
    closing verify r db result = closing verify r db' result := by
  have hclosing := closing_behind h verify r [] result
  have hnothing : result.map (([] : List Int) ++ ·) = result := by cases result <;> rfl
  have hbehind : ∀ x : Except MigrationError Report, x.map (Report.behind []) = x := by
    intro x
    cases x <;> rfl
  rwa [hnothing, hbehind] at hclosing

end Registry

/-! ## The two passes -/

/-- How a pass over `r` that compares the shapes ends, told by one that does not. -/
structure Compares (r : Registry) (plain strict : Store × Except MigrationError Report) :
    Prop where
  /-- They leave the same database, apart from the times of the recordings. -/
  same : untimed strict.1.database = untimed plain.1.database
  /-- A migration that fails is reported by both. -/
  failed : ∀ e, plain.2 = .error e → strict.2 = .error e
  fitting : ∀ report, plain.2 = .ok report → plain.1.database.IsDescribable →
    (strict.2 = .ok report ↔ ∀ m ∈ r, m.shape.Fits plain.1.database)
  /-- The first shape that does not fit is reported, with what it departs in. -/
  departing : ∀ report, plain.2 = .ok report → plain.1.database.IsDescribable →
    (¬ ∀ m ∈ r, m.shape.Fits plain.1.database) →
    ∃ before m after difference, r = before ++ m :: after ∧
      (∀ u ∈ before, u.shape.Fits plain.1.database) ∧
      m.shape.difference? (plain.1.database.columns m.shape.table) = some difference ∧
      strict.2 = .error (.mismatch m.shape.table difference)
  hidden : ∀ report, plain.2 = .ok report → ¬ plain.1.database.IsDescribable → r ≠ [] →
    strict.2 = .error (.database (.engine (.notAView "pragma_table_info")))

/-- A store in which `r` is applied and on record while a table departs from its shape: a pass that
compares the shapes reports it every time, one that does not finds nothing to do, and neither
changes anything. -/
structure Departs (r : Registry) (table : String) (difference : ShapeDifference) (s : Store) :
    Prop where
  recorded : ∀ m ∈ r, m.version ∈ onRecord s.database
  strict : ∀ clock, (s.upgrade clock true r).2 = .error (.mismatch table difference) ∧
    (s.upgrade clock true r).1.database = s.database
  plain : ∀ clock,
    (s.upgrade clock false r).2 = .ok ⟨[], highestOnRecord (onRecord s.database)⟩ ∧
      (s.upgrade clock false r).1.database = s.database

namespace Store

open Registry (passed closing pending versions commits)

section Opened

variable {s : Store} {r : Registry}

/-- The two passes, told by their parts: whether the shapes are compared makes no difference before
the end. -/
theorem upgrade_both (hopen : s.access = .opened .free) (hr : r.fault? = none)
    (ha : r.Avoids tableName) (hk : IsKept s.database) (clock clock' : Clock) :
    untimed (s.upgrade clock' true r).1.database = untimed (s.upgrade clock false r).1.database ∧
      (s.upgrade clock false r).2 = closing false r (s.upgrade clock false r).1.database
        (passed clock r s.database).2 ∧
      (s.upgrade clock' true r).2 = closing true r (s.upgrade clock false r).1.database
        (passed clock r s.database).2 := by
  obtain ⟨-, hdatabase, hresult⟩ := upgrade_parts hopen hr ha hk clock false
  obtain ⟨-, hdatabase', hresult'⟩ := upgrade_parts hopen hr ha hk clock' true
  obtain ⟨huntimed, hpassed⟩ := Registry.passed_untimed hr ha hk clock' clock
  rw [hdatabase, hdatabase', hresult, hresult', hpassed]
  exact ⟨huntimed, rfl, Registry.closing_untimed huntimed true r _⟩

/-- A pass that compares shapes ends as `Compares` says of the one that does not. -/
theorem upgrade_compares (hopen : s.access = .opened .free) (hr : r.fault? = none)
    (ha : r.Avoids tableName) (hk : IsKept s.database) (clock clock' : Clock) :
    Compares r (s.upgrade clock false r) (s.upgrade clock' true r) := by
  obtain ⟨hsame, hplain, hstrict⟩ := upgrade_both hopen hr ha hk clock clock'
  cases hp : (passed clock r s.database).2 with
  | error e =>
    rw [hp] at hplain hstrict
    have hno : ∀ report, (s.upgrade clock false r).2 ≠ .ok report := by
      intro report h
      rw [hplain] at h
      cases h
    exact ⟨hsame, fun e' he' => hstrict.trans (hplain.symm.trans he'),
      fun report h => absurd h (hno report), fun report h => absurd h (hno report),
      fun report h => absurd h (hno report)⟩
  | ok applied =>
    rw [hp] at hplain hstrict
    -- the strict pass ends as the plain one, unless a shape is refused
    have hends : (s.upgrade clock' true r).2 =
        (r.refusal? (s.upgrade clock false r).1.database).elim (s.upgrade clock false r).2
          .error := by
      rw [hstrict, hplain]
      unfold closing
      cases r.refusal? (s.upgrade clock false r).1.database <;> rfl
    refine ⟨hsame, ?_, ?_, ?_, ?_⟩
    · intro e he
      rw [hplain] at he
      cases he
    · intro report hreport hdescribable
      rw [← Registry.refusal?_eq_none_iff hdescribable, hends, hreport]
      cases r.refusal? (s.upgrade clock false r).1.database <;> simp
    · intro report hreport hdescribable hnot
      obtain ⟨before, m, after, difference, hsplit, hbefore, hdifference, hrefusal⟩ :=
        Registry.exists_departing hdescribable hnot
      rw [hrefusal] at hends
      exact ⟨before, m, after, difference, hsplit, hbefore, hdifference, hends⟩
    · intro report hreport hhidden hne
      rw [Registry.refusal?_of_not_isDescribable hhidden hne] at hends
      exact hends

/-- A pass that reported a table leaves the store so that it is reported again. -/
theorem upgrade_departs (hopen : s.access = .opened .free) (hr : r.fault? = none)
    (ha : r.Avoids tableName) (hk : IsKept s.database) {clock : Clock} {table : String}
    {difference : ShapeDifference}
    (h : (s.upgrade clock true r).2 = .error (.mismatch table difference)) :
    Departs r table difference (s.upgrade clock true r).1 := by
  obtain ⟨haccess, hdatabase, hresult⟩ := upgrade_parts hopen hr ha hk clock true
  obtain ⟨hpresent, hrecord⟩ := Registry.passed_ledger clock hr ha hk
  obtain ⟨d, -, -, hverdict⟩ := Registry.passed_progress clock hr ha hk
  rw [← hdatabase] at hpresent hrecord hresult
  rw [h] at hresult
  generalize (passed clock r s.database).2 = result at hverdict hresult
  cases hverdict with
  | stopped _ _ => cases hresult
  | finished hall =>
    -- every version is on record, so that nothing is pending for later passes
    have hpending : pending (onRecord (s.upgrade clock true r).1.database) r = [] := by
      rw [hrecord]
      exact Registry.pending_of_prefix (Registry.versions_nodup hr) (by rw [hall, List.append_nil])
    have hlater : ∀ clock' verify,
        ((s.upgrade clock true r).1.upgrade clock' verify r).1.database =
            (s.upgrade clock true r).1.database ∧
          ((s.upgrade clock true r).1.upgrade clock' verify r).2 =
            closing verify r (s.upgrade clock true r).1.database (.ok []) := by
      intro clock' verify
      obtain ⟨-, hdatabase', hresult'⟩ :=
        upgrade_parts haccess hr ha hpresent.kept clock' verify
      rw [Registry.passed_of_pending_eq_nil clock' hr ha hpresent hpending] at hdatabase' hresult'
      exact ⟨hdatabase', hresult'⟩
    have hrefusal : r.refusal? (s.upgrade clock true r).1.database =
        some (.mismatch table difference) := by
      cases hr' : r.refusal? (s.upgrade clock true r).1.database with
      | none =>
        rw [closing, if_pos rfl, hr'] at hresult
        cases hresult
      | some e =>
        rw [closing, if_pos rfl, hr'] at hresult
        cases hresult
        rfl
    refine ⟨fun m hm => ?_, fun clock' => ?_, fun clock' => ?_⟩
    · by_contra hnot
      have hmem := Registry.mem_pending.2 ⟨hm, hnot⟩
      rw [hpending] at hmem
      cases hmem
    · obtain ⟨hdatabase', hresult'⟩ := hlater clock' true
      refine ⟨?_, hdatabase'⟩
      rw [hresult', closing, if_pos rfl, hrefusal]
    · obtain ⟨hdatabase', hresult'⟩ := hlater clock' false
      exact ⟨hresult', hdatabase'⟩

end Opened

/-- **The comparison only looks.** Passes that compare the shapes and passes that do not leave the
same database, whenever they are made. If a migration fails both report it. If all get through, the
one that compares reports the same as the other exactly if all shapes fit, the first one that does
not fit otherwise, and that alone; what it reported it reports again, and changes nothing. Only a
table in front of the view of the engine keeps it from comparing at all. -/
theorem upgrade_compared {s : Store} {r : Registry} (hopen : s.access = .opened .free)
    (hr : r.fault? = none) (ha : r.Avoids tableName) (hk : IsKept s.database)
    (clock clock' : Clock) :
    Compares r (s.upgrade clock false r) (s.upgrade clock' true r) ∧
      ∀ table difference, (s.upgrade clock' true r).2 = .error (.mismatch table difference) →
        Departs r table difference (s.upgrade clock' true r).1 :=
  ⟨upgrade_compares hopen hr ha hk clock clock', fun _ _ h => upgrade_departs hopen hr ha hk h⟩

/-- The steps of the gap do not create the table whose shape they declare. -/
theorem upgrade_compared_filling :
    (gapped.upgrade still true filling).2 = .error (.mismatch "processed_events" .missingTable) ∧
      Departs filling "processed_events" .missingTable (gapped.upgrade still true filling).1 := by
  obtain ⟨-, hdeparts⟩ := upgrade_compared (s := gapped) (r := filling) rfl (by decide) (by decide)
    (by decide) still still
  have hreported : (gapped.upgrade still true filling).2 =
      .error (.mismatch "processed_events" .missingTable) := by decide +kernel
  exact ⟨hreported, hdeparts _ _ hreported⟩

/-- A store with a table in front of the view by which tables are described. -/
def covered : Store := .opened ⟨[⟨"pragma_table_info", [.optional "id"], []⟩]⟩

/-- With that table in front the built-in migrations get through and every shape fits, and yet the
pass that compares does not report what the other one reports. -/
theorem upgrade_covered :
    (covered.upgrade still false .builtIn).2 = .ok ⟨[10, 11, 16], 16⟩ ∧
      (∀ m ∈ Registry.builtIn, m.shape.Fits (covered.upgrade still false .builtIn).1.database) ∧
      (covered.upgrade still true .builtIn).2 =
        .error (.database (.engine (.notAView "pragma_table_info"))) := by
  obtain ⟨-, hdatabase, hplain⟩ := upgrade_parts (s := covered) (r := .builtIn) rfl (by decide)
    (by decide) (by decide) still false
  rw [hdatabase, hplain]
  decide +kernel

end Store

end DispatchStore
