import DispatchStore.Proofs.Ledger.Writing
import DispatchStore.Proofs.Schema.Registry
import DispatchStore.Schema.Upgrade

/-!
# How far a pass gets

Statements that avoid the ledger go on alike whatever is on record (`script_record`), and whether or
not there is a ledger (`script_beside`). So a pass can be told apart into what its migrations do and
what it records:

* **One migration** (`applyRecorded_of_ok`, `applyRecorded_of_error`): it is applied and recorded if
  its statements get through, and fails with their error and leaves nothing if not.
* **All of them** (`applyPending_progress`): the pass commits the pending migrations up to the first
  one whose statements fail. It leaves what their statements leave, run one migration after the
  other without a recording in between, with all their versions recorded at the end.
-/

namespace DispatchStore

open Ledger (tableName IsKept IsPresent onRecord record)

/-! ## Scripts that avoid the ledger -/

/-- What recasts the ledger without giving it an index does not get in the way of other names. -/
theorem recasts_of_isKept {db : Database} {g : Table → List Table} (h : IsKept db)
    (hg : Database.KeepsName tableName g)
    (hu : ∀ t ∈ db.tablesNamed tableName, ∀ u ∈ g t, u.indexName? = none) :
    db.Recasts tableName g :=
  ⟨hg, fun t ht => ⟨(h t ht).indexName?, hu t ht⟩⟩

section Script

variable {d db : Database} {statements : List Statement}

/-- A script that avoids the ledger keeps it. -/
theorem isKept_script (h : IsKept db) (hs : ∀ s ∈ statements, s.Avoids tableName) :
    IsKept (db.script .free statements).1 :=
  h.congr (Database.tablesNamed_script hs)

/-- A script that avoids the ledger leaves it present. -/
theorem isPresent_script (h : IsPresent db) (hs : ∀ s ∈ statements, s.Avoids tableName) :
    IsPresent (db.script .free statements).1 :=
  h.congr (Database.tablesNamed_script hs)

/-- Without a ledger a script does to the other tables what it does with one. -/
theorem script_remove (h : IsKept db) (hs : ∀ s ∈ statements, s.Avoids tableName) :
    (db.remove tableName).script .free statements =
      ((db.script .free statements).1.remove tableName, (db.script .free statements).2) := by
  have hg : db.Recasts tableName fun _ => [] := recasts_of_isKept h (by simp [Database.KeepsName])
    (by simp)
  rw [Database.remove_eq_recast, Database.remove_eq_recast, Database.script_recast hg hs]

/-- Databases that differ in their ledgers go on alike. -/
theorem script_beside (hd : IsKept d) (hdb : IsKept db)
    (h : d.remove tableName = db.remove tableName) (hs : ∀ s ∈ statements, s.Avoids tableName) :
    (d.script .free statements).1.remove tableName =
        (db.script .free statements).1.remove tableName ∧
      (d.script .free statements).2 = (db.script .free statements).2 := by
  have hscript := script_remove hd hs
  rw [h, script_remove hdb hs] at hscript
  exact ⟨(congrArg Prod.fst hscript).symm, (congrArg Prod.snd hscript).symm⟩

/-- It makes no difference whether a version is recorded before a script or after it. -/
theorem script_record (h : IsPresent db) (hs : ∀ s ∈ statements, s.Avoids tableName)
    (version : Int) (appliedAt : String) :
    (record version appliedAt db).script .free statements =
      (record version appliedAt (db.script .free statements).1,
        (db.script .free statements).2) := by
  obtain ⟨t, ht, hl⟩ := h.exists_find?
  have hn : t.isNamed tableName = true :=
    Database.isNamed_of_find? ht
  have ht' : (db.script .free statements).1.find? tableName = some t := by
    rw [Database.find?_eq_head?, Database.tablesNamed_script hs, ← Database.find?_eq_head?, ht]
  let u : Table := { t with rows := t.rows ++ [Ledger.entry version appliedAt] }
  have hu : u.indexName? = none := by
    have hsame : t.SameLayout u := ⟨rfl, rfl⟩
    rw [hsame.indexName?, hl.indexName?]
  have hg : db.Recasts tableName fun _ => [u] := by
    refine recasts_of_isKept h.kept ?_ ?_
    · intro _ _ v hv
      rw [List.mem_singleton.1 hv]
      exact hn
    · intro _ _ v hv
      rw [List.mem_singleton.1 hv]
      exact hu
  rw [Ledger.record_of_find? ht, Ledger.record_of_find? ht', Database.modify_eq_recast,
    Database.modify_eq_recast]
  exact Database.script_recast hg hs

end Script

/-! ## One migration -/

section Single

variable {db : Database} {m : Migration} {clock : Clock}

/-- Statements that get through are kept together with the recording of their version. -/
theorem applyRecorded_of_ok (h : IsPresent db) (hm : m.Avoids tableName)
    (hv : m.version ∉ onRecord db) (hs : (db.script .free m.statements).2 = .ok ()) :
    m.applyRecorded .free clock db =
      .ok (record m.version (clock m.version).iso (db.script .free m.statements).1) := by
  obtain ⟨t, ht, hl⟩ := (isPresent_script h hm).exists_find?
  have hrecording := Ledger.recording_exec hl ht
    (by rwa [Ledger.onRecord_congr (Database.tablesNamed_script hm)]) (clock m.version).iso
  have hs' : db.script .free m.statements = ((db.script .free m.statements).1, .ok ()) := by
    rw [← hs]
  unfold Migration.applyRecorded Database.transaction
  simp only [Database.scripts, WriteLock.inside]
  rw [hs']
  simp only [Database.script, hrecording]
  rfl

/-- Statements that fail leave nothing of the migration. -/
theorem applyRecorded_of_error {e : EngineError}
    (hs : (db.script .free m.statements).2 = .error e) :
    m.applyRecorded .free clock db = .error e := by
  have hs' : db.script .free m.statements = ((db.script .free m.statements).1, .error e) := by
    rw [← hs]
  unfold Migration.applyRecorded Database.transaction
  simp only [Database.scripts, WriteLock.inside]
  rw [hs']
  rfl

end Single

namespace Registry

/-! ## The scripts of migrations -/

/-- The scripts of migrations. -/
def scripts (r : Registry) : List (List Statement) := r.map Migration.statements

/-- The scripts of two registries are those of the one and then those of the other. -/
@[simp] theorem scripts_append (r r' : Registry) : scripts (r ++ r') = scripts r ++ scripts r' :=
  List.map_append

/-- What a registry avoids is avoided by the rest of it. -/
theorem Avoids.tail {name : String} {m : Migration} {r : Registry} (h : Avoids name (m :: r)) :
    Avoids name r :=
  fun u hu => h u (List.mem_cons_of_mem _ hu)

/-- The database with the versions of migrations on record behind those that are there. -/
def recordAll (clock : Clock) (done : Registry) (db : Database) : Database :=
  done.foldl (fun db m => record m.version (clock m.version).iso db) db

section Scripts

variable {d db : Database} {r done : Registry} {clock : Clock}

/-- The scripts of a registry go on behind the first one only if that one succeeds. -/
theorem scripts_run_cons (db : Database) (m : Migration) (r : Registry) :
    db.scripts .free (scripts (m :: r)) =
      match (db.script .free m.statements).2 with
      | .ok _ => (db.script .free m.statements).1.scripts .free (scripts r)
      | .error e => .error e := by
  have hcons : scripts (m :: r) = m.statements :: scripts r := rfl
  rw [hcons, Database.scripts]
  rcases db.script .free m.statements with ⟨d, e | u⟩ <;> rfl

/-- Migrations leave the ledger as it is. -/
theorem tablesNamed_scripts (hr : r.Avoids tableName) (h : db.scripts .free (scripts r) = .ok d) :
    d.tablesNamed tableName = db.tablesNamed tableName := by
  induction r generalizing db with
  | nil =>
    cases h
    rfl
  | cons m rest ih =>
    rw [scripts_run_cons] at h
    have hm := hr m List.mem_cons_self
    cases hs : (db.script .free m.statements).2 with
    | error e =>
      rw [hs] at h
      cases h
    | ok u =>
      rw [hs] at h
      rw [ih hr.tail h, Database.tablesNamed_script hm]

/-- Databases that differ in their ledgers go on alike under migrations. -/
theorem scripts_beside (hd : IsKept d) (hdb : IsKept db)
    (h : d.remove tableName = db.remove tableName) (hr : r.Avoids tableName) :
    (d.scripts .free (scripts r)).map (·.remove tableName) =
      (db.scripts .free (scripts r)).map (·.remove tableName) := by
  induction r generalizing d db with
  | nil => exact congrArg Except.ok h
  | cons m rest ih =>
    have hm := hr m List.mem_cons_self
    obtain ⟨hremove, hresult⟩ := script_beside hd hdb h hm
    rw [scripts_run_cons, scripts_run_cons, hresult]
    cases (db.script .free m.statements).2 with
    | error e => rfl
    | ok u => exact ih (isKept_script hd hm) (isKept_script hdb hm) hremove hr.tail

/-- It makes no difference whether a version is recorded before migrations or after them. -/
theorem scripts_record (h : IsPresent db) (hr : r.Avoids tableName) (version : Int)
    (appliedAt : String) :
    (record version appliedAt db).scripts .free (scripts r) =
      (db.scripts .free (scripts r)).map (record version appliedAt) := by
  induction r generalizing db with
  | nil => rfl
  | cons m rest ih =>
    have hm := hr m List.mem_cons_self
    rw [scripts_run_cons, scripts_run_cons, script_record h hm]
    dsimp only
    cases (db.script .free m.statements).2 with
    | error e => rfl
    | ok u => exact ih (isPresent_script h hm) hr.tail

end Scripts

/-! ## Many recordings -/

section RecordAll

variable {db : Database} {r done : Registry} {clock : Clock}

/-- The ledger stays present when versions are recorded. -/
theorem isPresent_recordAll (h : IsPresent db) : IsPresent (recordAll clock done db) := by
  induction done generalizing db with
  | nil => exact h
  | cons m rest ih => exact ih (Ledger.isPresent_record h)

/-- Versions that are recorded come behind those on record, in the order of their migrations. -/
theorem onRecord_recordAll (h : IsPresent db) :
    onRecord (recordAll clock done db) = onRecord db ++ versions done := by
  induction done generalizing db with
  | nil => exact (List.append_nil _).symm
  | cons m rest ih =>
    have hrecord : IsPresent (record m.version (clock m.version).iso db) :=
      Ledger.isPresent_record h
    have hrest := ih hrecord
    rw [Ledger.onRecord_record h, List.append_assoc] at hrest
    exact hrest

/-- To record versions leaves the other tables. -/
@[simp]
theorem remove_recordAll : (recordAll clock done db).remove tableName = db.remove tableName := by
  induction done generalizing db with
  | nil => rfl
  | cons m rest ih => exact ih.trans Ledger.remove_record

/-- It makes no difference whether versions are recorded before a script or after it. -/
theorem script_recordAll {statements : List Statement} (h : IsPresent db)
    (hs : ∀ s ∈ statements, s.Avoids tableName) :
    (recordAll clock done db).script .free statements =
      (recordAll clock done (db.script .free statements).1, (db.script .free statements).2) := by
  induction done generalizing db with
  | nil => rfl
  | cons m rest ih =>
    have hrecord : IsPresent (record m.version (clock m.version).iso db) :=
      Ledger.isPresent_record h
    have hrest := ih hrecord
    rw [script_record h hs] at hrest
    exact hrest

/-- It makes no difference whether versions are recorded before migrations or after them. -/
theorem scripts_recordAll (h : IsPresent db) (hr : r.Avoids tableName) :
    (recordAll clock done db).scripts .free (scripts r) =
      (db.scripts .free (scripts r)).map (recordAll clock done) := by
  induction done generalizing db with
  | nil =>
    cases hs : db.scripts .free (scripts r) <;> simp only [recordAll, List.foldl_nil, hs] <;> rfl
  | cons m rest ih =>
    have hrecord : IsPresent (record m.version (clock m.version).iso db) :=
      Ledger.isPresent_record h
    have hrest := ih hrecord
    rw [scripts_record h hr] at hrest
    refine hrest.trans ?_
    cases db.scripts .free (scripts r) <;> rfl

end RecordAll

/-! ## Many migrations -/

/-- The migrations that a pass commits: the pending ones up to the first that fails. -/
def committed (lock : WriteLock) (clock : Clock) (recorded : List Int) :
    Database → Registry → Registry
  | _, [] => []
  | db, m :: rest =>
    if recorded.contains m.version then committed lock clock recorded db rest
    else match m.applyRecorded lock clock db with
      | .error _ => []
      | .ok db' => m :: committed lock clock recorded db' rest

/-- How a pass ends that committed `done` of the pending migrations, when their statements lead to
the database `d`. -/
inductive Verdict (d : Database) (pending done : Registry) :
    Except MigrationError (List Int) → Prop where
  /-- Nothing is left. -/
  | finished (h : pending = done) : Verdict d pending done (.ok (versions done))
  /-- The statements of the next migration fail. -/
  | stopped {m : Migration} {rest : Registry} {e : EngineError} (h : pending = done ++ m :: rest)
      (he : (d.script .free m.statements).2 = .error e) :
      Verdict d pending done (.error (.failed m.version m.name (.engine e)))

/-- What is committed are the first ones of the pending migrations. -/
theorem Verdict.initial {d : Database} {pending done : Registry}
    {result : Except MigrationError (List Int)} (h : Verdict d pending done result) :
    done <+: pending := by
  cases h with
  | finished h => exact h ▸ List.prefix_rfl
  | stopped h _ => exact h ▸ List.prefix_append _ _

/-- A database in which the statements get through and fail alike gives the same verdict. -/
theorem Verdict.congr {d d' : Database} {pending done : Registry}
    {result : Except MigrationError (List Int)} (h : Verdict d pending done result)
    (hs : ∀ m ∈ pending, (d'.script .free m.statements).2 = (d.script .free m.statements).2) :
    Verdict d' pending done result := by
  cases h with
  | finished h => exact .finished h
  | @stopped m rest e h he =>
    have hm : m ∈ pending := by
      rw [h]
      exact List.mem_append_right _ List.mem_cons_self
    exact .stopped h ((hs m hm).trans he)

/-- The verdict on migrations behind others that were committed before. -/
theorem Verdict.append {d : Database} {pending done : Registry}
    {result : Except MigrationError (List Int)} (h : Verdict d pending done result)
    (before : Registry) :
    Verdict d (before ++ pending) (before ++ done) (result.map (versions before ++ ·)) := by
  cases h with
  | finished h =>
    rw [Except.map, ← versions_append]
    exact .finished (congrArg (before ++ ·) h)
  | stopped h he => exact .stopped (by rw [h, List.append_assoc]) he

/-- What a pass does to the database `db` that commits `done` of the pending migrations: their
statements lead to the database `d`, and there their versions are recorded. -/
structure Progress (clock : Clock) (db : Database) (pending done : Registry) (d : Database)
    (passed : Database × Except MigrationError (List Int)) : Prop where
  ran : db.scripts .free (scripts done) = .ok d
  left : passed.1 = recordAll clock done d
  verdict : Verdict d pending done passed.2

/-- The recorded versions that a pass looks at tell what is on record of its migrations, which have
different versions. -/
structure Snapshot (recorded : List Int) (db : Database) (r : Registry) : Prop where
  distinct : (versions r).Nodup
  agrees : ∀ m ∈ r, m.version ∈ recorded ↔ m.version ∈ Ledger.onRecord db

/-- What tells what is on record of a registry tells it of the rest. -/
theorem Snapshot.tail {recorded : List Int} {db : Database} {m : Migration} {rest : Registry}
    (h : Snapshot recorded db (m :: rest)) : Snapshot recorded db rest :=
  ⟨(List.nodup_cons.1 h.distinct).2, fun u hu => h.agrees u (List.mem_cons_of_mem _ hu)⟩

/-- A look at the ledger stays good for the migrations behind one that was recorded meanwhile. -/
theorem Snapshot.recorded {recorded : List Int} {db db' : Database} {m : Migration}
    {rest : Registry} (h : Snapshot recorded db (m :: rest))
    (hdb : Ledger.onRecord db' = Ledger.onRecord db ++ [m.version]) :
    Snapshot recorded db' rest := by
  refine ⟨h.tail.distinct, fun u hu => ?_⟩
  have hne : u.version ≠ m.version := fun heq =>
    (List.nodup_cons.1 h.distinct).1 (heq ▸ mem_versions hu)
  rw [h.tail.agrees u hu, hdb]
  simp [hne]

/-- A migration in front that got through and was recorded. What the rest does behind its recording
it does as well before it. -/
theorem Progress.cons {clock : Clock} {db d' : Database} {m : Migration}
    {pending done : Registry} {passed : Database × Except MigrationError (List Int)}
    (hdb : IsPresent db) (hm : m.Avoids tableName) (hdone : done.Avoids tableName)
    (hpending : pending.Avoids tableName) (hs : (db.script .free m.statements).2 = .ok ())
    (h : Progress clock
      (record m.version (clock m.version).iso (db.script .free m.statements).1)
      pending done d' passed) :
    ∃ d, Progress clock db (m :: pending) (m :: done) d
      (passed.1, passed.2.map (m.version :: ·)) := by
  have hpresent : IsPresent (db.script .free m.statements).1 := isPresent_script hdb hm
  have hran := h.ran
  rw [scripts_record hpresent hdone] at hran
  cases hrest : (db.script .free m.statements).1.scripts .free (scripts done) with
  | error e =>
    rw [hrest] at hran
    cases hran
  | ok d =>
    rw [hrest] at hran
    cases hran
    refine ⟨d, ?_, h.left, ?_⟩
    · rw [scripts_run_cons, hs]
      exact hrest
    · have hd : IsPresent d := hpresent.congr (tablesNamed_scripts hdone hrest)
      have hverdict : Verdict d pending done passed.2 := h.verdict.congr fun u hu => by
        rw [script_record hd (hpending u hu)]
      exact hverdict.append [m]

/-- What a pass commits is pending. -/
theorem mem_committed {lock : WriteLock} {clock : Clock} {recorded : List Int} {db : Database}
    {r : Registry} {m : Migration} (h : m ∈ committed lock clock recorded db r) :
    m ∈ pending recorded r := by
  induction r generalizing db with
  | nil => cases h
  | cons u rest ih =>
    rw [committed] at h
    by_cases hmem : u.version ∈ recorded
    · rw [if_pos (by simpa using hmem)] at h
      rw [pending_cons_of_mem hmem]
      exact ih h
    · rw [if_neg (by simpa using hmem)] at h
      rw [pending_cons_of_not_mem hmem]
      cases happly : u.applyRecorded lock clock db with
      | error e =>
        rw [happly] at h
        cases h
      | ok db' =>
        rw [happly] at h
        rcases List.mem_cons.1 h with rfl | hrest
        · exact List.mem_cons_self
        · exact List.mem_cons_of_mem _ (ih hrest)

/-- A pass commits the pending migrations up to the first one whose statements fail. -/
theorem applyPending_progress {recorded : List Int} {r : Registry} (clock : Clock) {db : Database}
    (hdb : IsPresent db) (hr : r.Avoids tableName) (hsnap : Snapshot recorded db r) :
    ∃ d, Progress clock db (pending recorded r) (committed .free clock recorded db r) d
      (applyPending .free clock recorded db r) := by
  induction r generalizing db with
  | nil => exact ⟨db, rfl, rfl, .finished rfl⟩
  | cons m rest ih =>
    have hm := hr m List.mem_cons_self
    by_cases hmem : m.version ∈ recorded
    · -- the version is on record: the migration is passed over
      have hcontains : recorded.contains m.version = true := by simpa using hmem
      rw [pending_cons_of_mem hmem, committed, applyPending, if_pos hcontains, if_pos hcontains]
      exact ih hdb hr.tail hsnap.tail
    · have hcontains : ¬ recorded.contains m.version = true := by simpa using hmem
      have hv : m.version ∉ onRecord db := fun h => hmem ((hsnap.agrees m List.mem_cons_self).2 h)
      rw [pending_cons_of_not_mem hmem, committed, applyPending, if_neg hcontains,
        if_neg hcontains]
      cases hs : (db.script .free m.statements).2 with
      | error e =>
        rw [applyRecorded_of_error hs]
        exact ⟨db, rfl, rfl, .stopped rfl hs⟩
      | ok u =>
        have hpresent := isPresent_script hdb hm
        have hrecord : onRecord (record m.version (clock m.version).iso
            (db.script .free m.statements).1) = onRecord db ++ [m.version] := by
          rw [Ledger.onRecord_record hpresent,
            Ledger.onRecord_congr (Database.tablesNamed_script hm)]
        rw [applyRecorded_of_ok hdb hm hv hs]
        obtain ⟨d, hprogress⟩ := ih (Ledger.isPresent_record hpresent) hr.tail
          (hsnap.recorded hrecord)
        exact Progress.cons hdb hm (fun u hu => hr.tail u (mem_pending.1 (mem_committed hu)).1)
          (hr.tail.pending recorded) hs hprogress

end Registry

end DispatchStore
