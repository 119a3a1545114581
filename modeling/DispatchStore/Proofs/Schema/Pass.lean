import DispatchStore.Proofs.Schema.Progress
import DispatchStore.Proofs.Store.Opened

/-!
# What a pass does

A pass creates the ledger if it is missing, applies what is pending (`Registry.passed`), compares
the shapes if that was asked for, and reads the highest version (`Registry.upgrade_eq`). Without the
comparison this is all there is to it:

* **If the statements of all pending migrations get through**, one after the other, the pass
  succeeds and reports their versions.
* **If one fails**, the pass stops at its migration with its error, and keeps the migrations before.

Either way the versions on record and the other tables are those of `Registry.Leaves`.
-/

namespace DispatchStore

open Ledger (tableName IsKept IsPresent onRecord ensured sorted highestOnRecord)

/-! ## Scripts, one after the other -/

namespace Database

variable {lock : WriteLock}

/-- Scripts can be run in two stages, the second one only if the first succeeds. -/
theorem scripts_append (db : Database) (a b : List (List Statement)) :
    db.scripts lock (a ++ b) = (db.scripts lock a).bind fun d => d.scripts lock b := by
  induction a generalizing db with
  | nil => rfl
  | cons statements rest ih =>
    rw [List.cons_append, scripts, scripts]
    cases hs : db.script lock statements with
    | mk d result =>
      cases result with
      | error e => rfl
      | ok u => exact ih d

/-- Scripts fail with the first of them that fails. -/
theorem scripts_cons_of_error {db : Database} {statements : List Statement} {e : EngineError}
    (h : (db.script lock statements).2 = .error e) (rest : List (List Statement)) :
    db.scripts lock (statements :: rest) = .error e := by
  have hs : db.script lock statements = ((db.script lock statements).1, .error e) :=
    Prod.ext rfl h
  rw [scripts, hs]

end Database

namespace Registry

/-- What is pending does not depend on the order of the versions on record. -/
@[simp] theorem pending_sorted (l : List Int) (r : Registry) : pending (sorted l) r = pending l r :=
  pending_congr fun _ _ => Ledger.mem_sorted

/-! ## The parts of a pass -/

/-- What a pass applies to a database, and the versions that it applied or why it stopped. -/
def passed (clock : Clock) (r : Registry) (db : Database) :
    Database × Except MigrationError (List Int) :=
  applyPending .free clock (sorted (onRecord db)) (ensured db) r

/-- The migrations that a pass commits to a database. -/
def commits (clock : Clock) (r : Registry) (db : Database) : Registry :=
  committed .free clock (sorted (onRecord db)) (ensured db) r

/-- How a pass ends that left the database `db` with the given result. -/
def closing (verify : Bool) (r : Registry) (db : Database) :
    Except MigrationError (List Int) → Except MigrationError Report
  | .error e => .error e
  | .ok applied =>
    match if verify then r.refusal? db else none with
    | some e => .error e
    | none => .ok ⟨applied, highestOnRecord (onRecord db)⟩

/-! ## How a pass fails -/

/-- A migration that cannot be applied is what stops the pending ones. -/
theorem failed_of_applyPending {lock : WriteLock} {clock : Clock} {recorded : List Int}
    {db : Database} {r : Registry} {e : MigrationError}
    (h : (applyPending lock clock recorded db r).2 = .error e) :
    ∃ version name fault, e = .failed version name fault := by
  induction r generalizing db with
  | nil => cases h
  | cons m rest ih =>
    rw [applyPending] at h
    split at h
    · exact ih h
    · split at h
      · cases h
        exact ⟨_, _, _, rfl⟩
      · next db' _ =>
        cases hrest : applyPending lock clock recorded db' rest with
        | mk d result =>
          rw [hrest] at h
          cases result with
          | error e' =>
            cases h
            exact ih (congrArg Prod.snd hrest)
          | ok applied => cases h

/-- A table is refused because it departs from its shape, or because it cannot be looked at. -/
theorem refusal?_cases {r : Registry} {db : Database} {e : MigrationError}
    (h : r.refusal? db = some e) :
    (∃ table difference, e = .mismatch table difference) ∨ ∃ fault, e = .database fault := by
  obtain ⟨m, -, hm⟩ := List.exists_of_findSome?_eq_some h
  unfold TableShape.refusal? at hm
  cases hd : db.describe m.shape.table with
  | error e' =>
    rw [hd] at hm
    exact .inr ⟨_, (Option.some.inj hm).symm⟩
  | ok live =>
    rw [hd] at hm
    obtain ⟨difference, -, hdifference⟩ := Option.map_eq_some_iff.1 hm
    exact .inl ⟨_, _, hdifference.symm⟩

/-- A pass that reports a fault of its list found it there. -/
theorem fault?_of_upgrade {lock : WriteLock} {clock : Clock} {verify : Bool} {r : Registry}
    {db : Database} {fault : RegistryFault}
    (h : (r.upgrade lock clock verify db).2 = .error (.invalidRegistry fault)) :
    r.fault? = some fault := by
  unfold upgrade at h
  split at h
  · next hfault =>
    cases h
    exact hfault
  · exfalso
    split at h
    · cases h
    · split at h
      · next hpending =>
        obtain ⟨_, _, _, hfailed⟩ := failed_of_applyPending (congrArg Prod.snd hpending)
        cases h
        cases hfailed
      · split at h
        · next hrefusal =>
          cases verify with
          | false => cases hrefusal
          | true =>
            cases h
            rcases refusal?_cases hrefusal with ⟨_, _, he⟩ | ⟨_, he⟩ <;> cases he
        · split at h <;> cases h

/-! ## A pass behind a ledger -/

section Parts

variable {r : Registry} {db : Database} (clock : Clock)

/-- A pass commits the pending migrations up to the first one whose statements fail. -/
theorem passed_progress (hr : r.fault? = none) (ha : r.Avoids tableName) (hk : IsKept db) :
    ∃ d, Progress clock (ensured db) (pending (onRecord db) r) (commits clock r db) d
      (passed clock r db) := by
  have hsnap : Snapshot (sorted (onRecord db)) (ensured db) r :=
    ⟨versions_nodup hr, fun m _ => by rw [Ledger.mem_sorted, Ledger.onRecord_ensured]⟩
  have hprogress := applyPending_progress clock (Ledger.isPresent_ensured hk) ha hsnap
  rw [pending_sorted] at hprogress
  exact hprogress

/-- What a pass commits is pending. -/
theorem mem_commits {m : Migration} (h : m ∈ commits clock r db) :
    m ∈ r ∧ m.version ∉ onRecord db := by
  rw [← mem_pending, ← pending_sorted]
  exact mem_committed h

/-- What a pass commits avoids the ledger if its registry does. -/
theorem Avoids.commits (ha : r.Avoids tableName) : (commits clock r db).Avoids tableName :=
  fun _ hm => ha _ (mem_commits clock hm).1

/-- After a pass there is a ledger, and the versions that it committed are on record behind those
that were there. -/
theorem passed_ledger (hr : r.fault? = none) (ha : r.Avoids tableName) (hk : IsKept db) :
    IsPresent (passed clock r db).1 ∧
      onRecord (passed clock r db).1 = onRecord db ++ versions (commits clock r db) := by
  obtain ⟨d, hran, hleft, -⟩ := passed_progress clock hr ha hk
  have htables := tablesNamed_scripts (ha.commits clock) hran
  have hd : IsPresent d := (Ledger.isPresent_ensured hk).congr htables
  rw [hleft]
  refine ⟨isPresent_recordAll hd, ?_⟩
  rw [onRecord_recordAll hd, Ledger.onRecord_congr htables, Ledger.onRecord_ensured]

/-- A pass that gets as far as the ledger applies what is pending and then closes. -/
theorem upgrade_eq (hr : r.fault? = none) (ha : r.Avoids tableName) (hk : IsKept db)
    (verify : Bool) :
    r.upgrade .free clock verify db =
      ((passed clock r db).1, closing verify r (passed clock r db).1 (passed clock r db).2) := by
  have hpresent : IsPresent (passed clock r db).1 := (passed_ledger clock hr ha hk).1
  have hpassed : applyPending .free clock (sorted (onRecord db)) (ensured db) r =
      passed clock r db := rfl
  unfold upgrade
  rw [hr, Ledger.appliedVersions_eq hk]
  dsimp only
  rw [hpassed]
  cases hp : passed clock r db with
  | mk db' result =>
    rw [hp] at hpresent
    cases result with
    | error e => rfl
    | ok applied =>
      have hcurrent := Ledger.currentVersion_eq hpresent.kept
      rw [hpresent.ensured_eq] at hcurrent
      dsimp only [closing]
      cases (if verify then r.refusal? db' else none) with
      | some e => rfl
      | none => simp only [hcurrent]

end Parts

/-! ## What a pass leaves -/

/-- What a pass leaves of the database `db` that committed the migrations `done`: their versions on
record behind those that were there, and beside the ledger the tables of the database `d`. -/
structure Leaves (db : Database) (done : Registry) (d db' : Database) : Prop where
  present : IsPresent db'
  onRecord : onRecord db' = Ledger.onRecord db ++ versions done
  others : db'.remove tableName = d.remove tableName

/-- What a pass commits runs the same without a ledger, and that is what the pass leaves. -/
theorem passed_leaves {r : Registry} {db : Database} (clock : Clock) (hr : r.fault? = none)
    (ha : r.Avoids tableName) (hk : IsKept db) :
    ∃ d, db.scripts .free (scripts (commits clock r db)) = .ok d ∧
      Leaves db (commits clock r db) d (passed clock r db).1 ∧
      Verdict d (pending (Ledger.onRecord db) r) (commits clock r db) (passed clock r db).2 := by
  obtain ⟨hpresent, hrecord⟩ := passed_ledger clock hr ha hk
  obtain ⟨d, hran, hleft, hverdict⟩ := passed_progress clock hr ha hk
  have hcommits : (commits clock r db).Avoids tableName := ha.commits clock
  have hensured : IsPresent (ensured db) := Ledger.isPresent_ensured hk
  have hbeside := scripts_beside hk hensured.kept Ledger.remove_ensured.symm hcommits
  rw [hran] at hbeside
  cases hdone : db.scripts .free (scripts (commits clock r db)) with
  | error e =>
    rw [hdone] at hbeside
    cases hbeside
  | ok d' =>
    rw [hdone] at hbeside
    have hremove : d'.remove tableName = d.remove tableName := Except.ok.inj hbeside
    have hd : IsKept d := hensured.kept.congr (tablesNamed_scripts hcommits hran)
    have hd' : IsKept d' := hk.congr (tablesNamed_scripts hcommits hdone)
    refine ⟨d', rfl, ⟨hpresent, hrecord, ?_⟩, ?_⟩
    · rw [hleft, remove_recordAll, hremove]
    · exact hverdict.congr fun m hm => (script_beside hd' hd hremove (ha.pending _ m hm)).2

/-- The highest version after a pass that left nothing pending. -/
theorem highestOnRecord_pending (l : List Int) (r : Registry) :
    highestOnRecord (l ++ versions (pending l r)) = highestOnRecord (l ++ versions r) := by
  refine Ledger.highestOnRecord_congr fun v => ?_
  rw [List.mem_append, List.mem_append, mem_versions_pending]
  by_cases hv : v ∈ l
  · simp [hv]
  · simp [hv]

/-- A pass over a database succeeds or stops as the statements of what is pending do. -/
theorem upgrade_outcome {r : Registry} {db : Database} (clock : Clock) (hr : r.fault? = none)
    (ha : r.Avoids tableName) (hk : IsKept db) :
    match db.scripts .free (scripts (pending (onRecord db) r)) with
    | .ok d =>
      (r.upgrade .free clock false db).2 =
          .ok ⟨versions (pending (onRecord db) r), highestOnRecord (onRecord db ++ versions r)⟩ ∧
        Leaves db (pending (onRecord db) r) d (r.upgrade .free clock false db).1
    | .error e =>
      ∃ done m rest d, pending (onRecord db) r = done ++ m :: rest ∧
        db.scripts .free (scripts done) = .ok d ∧ (d.script .free m.statements).2 = .error e ∧
        (r.upgrade .free clock false db).2 = .error (.failed m.version m.name (.engine e)) ∧
        Leaves db done d (r.upgrade .free clock false db).1 := by
  obtain ⟨d, hran, hleaves, hverdict⟩ := passed_leaves clock hr ha hk
  rw [upgrade_eq clock hr ha hk]
  generalize (passed clock r db).2 = result at hverdict
  cases hverdict with
  | finished hall =>
    rw [hall, hran]
    refine ⟨?_, hleaves⟩
    rw [← highestOnRecord_pending, hall, ← hleaves.onRecord]
    rfl
  | @stopped m rest e hstop he =>
    have hscripts : db.scripts .free (scripts (pending (onRecord db) r)) = .error e := by
      rw [hstop, scripts_append, Database.scripts_append, hran]
      exact Database.scripts_cons_of_error he _
    rw [hscripts]
    exact ⟨_, m, rest, d, hstop, hran, he, rfl, hleaves⟩

end Registry

/-- A pass over a store that nobody else uses goes as it does over the database. -/
theorem Store.upgrade_opened {s : Store} (h : s.access = .opened .free) {r : Registry}
    (hr : r.fault? = none) (clock : Clock) (verify : Bool) :
    (s.upgrade clock verify r).1.database = (r.upgrade .free clock verify s.database).1 ∧
      (s.upgrade clock verify r).1.access = .opened .free ∧
      (s.upgrade clock verify r).2 = (r.upgrade .free clock verify s.database).2 := by
  have hwith : s.upgrade clock verify r =
      s.withLedger .database (fun lock db => r.upgrade lock clock verify db) fun lock db =>
        r.compilations lock clock verify db := by
    unfold Store.upgrade
    rw [h, hr]
  rw [hwith]
  exact Store.withLedger_opened h _ _ _

namespace Store

open Registry (scripts pending versions Leaves)

/-- **A pass.** If the statements of the pending migrations get through one after the other, it
reports their versions in ascending order and the highest version of all. Otherwise it reports the
first migration whose statements fail, with their error, and keeps the migrations before it. The
ledger holds the versions of what was kept behind those that were there, and the other tables are
what the statements of that alone make of the database. -/
theorem upgrade_spec {s : Store} {r : Registry} (clock : Clock) (hopen : s.access = .opened .free)
    (hr : r.fault? = none) (ha : r.Avoids tableName) (hk : IsKept s.database) :
    match s.database.scripts .free (scripts (pending (onRecord s.database) r)) with
    | .ok d =>
      (s.upgrade clock false r).2 =
          .ok ⟨versions (pending (onRecord s.database) r),
            highestOnRecord (onRecord s.database ++ versions r)⟩ ∧
        (versions (pending (onRecord s.database) r)).Pairwise (· < ·) ∧
        Leaves s.database (pending (onRecord s.database) r) d (s.upgrade clock false r).1.database
    | .error e =>
      ∃ done m rest d, pending (onRecord s.database) r = done ++ m :: rest ∧
        s.database.scripts .free (scripts done) = .ok d ∧
        (d.script .free m.statements).2 = .error e ∧
        (s.upgrade clock false r).2 = .error (.failed m.version m.name (.engine e)) ∧
        Leaves s.database done d (s.upgrade clock false r).1.database := by
  obtain ⟨hdatabase, -, hresult⟩ := upgrade_opened hopen hr clock false
  have houtcome := Registry.upgrade_outcome clock hr ha hk
  rw [hdatabase, hresult]
  cases hs : s.database.scripts .free (scripts (pending (onRecord s.database) r)) with
  | ok d =>
    rw [hs] at houtcome
    exact ⟨houtcome.1, Registry.pending_pairwise hr _, houtcome.2⟩
  | error e =>
    rw [hs] at houtcome
    exact houtcome

/-- A clock that stands still. -/
def still : Clock := fun _ =>
  ⟨⟨2024, 1, 1, by decide, by decide, by decide, by decide, by decide, by decide⟩, 0, 0, by decide,
    by decide, by decide⟩

/-- A store whose ledger has a gap: version 3 is on record, and the table of that step is there. -/
def gapped : Store :=
  .opened ⟨[⟨Ledger.tableName, Ledger.layout, [Ledger.entry 3 "2024-01-01T00:00:00.000Z"]⟩,
    ⟨"orders", [⟨"id", "TEXT", false, true⟩], []⟩]⟩

/-- Statements as the step of a version, with the shape of a table that they need not touch. -/
def numbered (version : Int) (name : String) (statements : List Statement) : Migration :=
  ⟨version, name, statements, Migration.eventsShape⟩

/-- The steps of the gap and after it. The one on record would fail if it were applied again. -/
def filling : Registry :=
  [numbered 1 "items" [.create "items" [⟨"id", "TEXT", false, true⟩] false .bare,
      .insert "items" [("id", .text "a")] .refuse],
    numbered 3 "orders" [.create "orders" [⟨"id", "TEXT", false, true⟩] false .bare],
    numbered 5 "prices" [.addColumn "items" ⟨"price", "INTEGER", false, false⟩]]

/-- The gap is filled and the step on record passed over. -/
theorem upgrade_gapped :
    (gapped.upgrade still false filling).2 = .ok ⟨[1, 5], 5⟩ ∧
      onRecord (gapped.upgrade still false filling).1.database = [3, 1, 5] := by
  have hspec := upgrade_spec still (s := gapped) (r := filling) rfl (by decide) (by decide)
    (by decide)
  obtain ⟨d, hd⟩ : ∃ d, gapped.database.scripts .free
      (scripts (pending (onRecord gapped.database) filling)) = .ok d := ⟨_, rfl⟩
  rw [hd] at hspec
  exact ⟨hspec.1, hspec.2.2.onRecord⟩

end Store

end DispatchStore
