import DispatchStore.Proofs.Store.Health

/-!
# Databases that are up to date

A database is up to date if its ledger holds the built-in migrations and nothing else, and the three
tables are healthy (`Database.IsUpToDate`). The first pass over a database without tables makes it
so (`Store.upgrade_first`), and every further pass, comparing or not, finds nothing to do
(`Store.upgrade_upToDate`). Operations leave the database up to date and its schema as it is
(`Operation.upToDate_run`), so that other connections to it stay attuned as well.
-/

namespace DispatchStore

open Ledger (tableName IsPresent onRecord highestOnRecord)
open Registry (builtIn versions pending closing passed)

/-! ## Schemas -/

/-- The schema of a database has its tables without their rows. -/
theorem tablesNamed_schema (db : Database) (name : String) :
    db.schema.tablesNamed name = (db.tablesNamed name).map fun t => { t with rows := [] } := by
  unfold Database.schema Database.tablesNamed
  rw [List.filter_map]
  rfl

/-- Another table with the same layout in place of the only one of its name leaves the schema as it
is. -/
theorem schema_modify {db : Database} {name : String} {t t' u : Table}
    (ht : db.find? name = some t) (hone : db.schema.tablesNamed name = [u])
    (hl : t.SameLayout t') : (db.modify name fun _ => t').schema = db.schema := by
  have hsame : ∀ x ∈ db.tablesNamed name, { x with rows := [] } = u := by
    intro x hx
    have hmem : { x with rows := [] } ∈ db.schema.tablesNamed name := by
      rw [tablesNamed_schema]
      exact List.mem_map_of_mem hx
    rw [hone] at hmem
    exact List.mem_singleton.1 hmem
  have hnew : { t' with rows := [] } = u := by
    rw [← hsame t (Database.mem_tablesNamed_of_find? ht), hl.name, hl.columns]
  unfold Database.schema Database.modify
  rw [List.map_map]
  refine congrArg Database.mk (List.map_congr_left fun x hx => ?_)
  rw [Function.comp_apply]
  split
  · next hname => rw [hnew, hsame x (Database.mem_tablesNamed.2 ⟨hx, hname⟩)]
  · rfl

namespace Connection

/-- A connection is attuned to all databases with one schema, or to none of them. -/
theorem IsAttuned.of_schema {c : Connection} {db db' : Database} (h : c.IsAttuned db)
    (hschema : db'.schema = db.schema) : c.IsAttuned db' := by
  refine ⟨?_, fun q p hp names hnames => h.names q p hp names ?_⟩
  · rw [hschema]
    exact h.known
  · rw [← Query.header_congr (findsAlike_schema db q.table), ← hschema,
      Query.header_congr (findsAlike_schema db' q.table)]
    exact hnames

/-! ## What a pass remembers -/

/-- The connection did not compile a query. -/
def HasNoQuery (c : Connection) : Prop := ∀ x ∈ c.prepared, x.1.isQuery = false

/-- A connection that compiled no query and knows the schema is attuned. -/
theorem isAttuned_of_hasNoQuery {c : Connection} {db : Database} (h : c.HasNoQuery)
    (hknown : c.known = some db.schema) : c.IsAttuned db := by
  refine ⟨.inr hknown, fun q p hp => ?_⟩
  cases h _ hp

/-- Looking at the schema compiles no query. -/
theorem HasNoQuery.informed {c : Connection} (h : c.HasNoQuery) (db : Database) :
    (c.informed db).HasNoQuery := fun x hx => h x (mem_informed hx)

/-- Compiling something else than a query compiles no query. -/
theorem HasNoQuery.after {c : Connection} (h : c.HasNoQuery) {x : Compilation}
    (hx : x.template.isQuery = false) : (c.after x).HasNoQuery := by
  intro y hy
  cases hquery : y.1 with
  | query q =>
    obtain ⟨template, p⟩ := y
    cases hquery
    unfold Connection.after at hy
    have hold := mem_compiled hx hy
    exact h (.query q, p) hold
  | part _ _ => rfl
  | statement _ => rfl

/-- Compiling any number of things that are no queries compiles no query. -/
theorem HasNoQuery.afterAll {c : Connection} (h : c.HasNoQuery) {l : List Compilation}
    (hl : ∀ x ∈ l, x.template.isQuery = false) : (l.foldl Connection.after c).HasNoQuery := by
  induction l generalizing c with
  | nil => exact h
  | cons x rest ih =>
    exact ih (h.after (hl x List.mem_cons_self)) fun y hy => hl y (List.mem_cons_of_mem _ hy)

end Connection

/-- Nothing that is compiled for a migration is a query of a store. -/
theorem Migration.isQuery_compilations (lock : WriteLock) (clock : Clock) (db : Database)
    (m : Migration) : ∀ x ∈ m.compilations lock clock db, x.template.isQuery = false := by
  intro x hx
  obtain ⟨y, -, rfl⟩ := List.mem_map.1 hx
  dsimp only
  split
  · rfl
  · exact isQuery_ofStatement _

/-- Nothing that is compiled for a pass is a query of a store. -/
theorem Registry.isQuery_compilations (lock : WriteLock) (clock : Clock) (verify : Bool)
    (r : Registry) (db : Database) :
    ∀ x ∈ r.compilations lock clock verify db, x.template.isQuery = false := by
  have hlast : ∀ db, ∀ x ∈ (if verify && (r.refusal? db).isSome then []
      else [Ledger.compilation db]), x.template.isQuery = false := by
    intro db x hx
    split at hx
    · cases hx
    · rw [List.mem_singleton.1 hx]
      rfl
  have hpending : ∀ (recorded : List Int) (rest : Registry) (db : Database),
      ∀ x ∈ pendingCompilations lock clock recorded (fun db =>
        if verify && (r.refusal? db).isSome then [] else [Ledger.compilation db]) db rest,
      x.template.isQuery = false := by
    intro recorded rest
    induction rest with
    | nil => exact hlast
    | cons m rest ih =>
      intro db x hx
      unfold pendingCompilations at hx
      split at hx
      · exact ih db x hx
      · rcases List.mem_append.1 hx with hx | hx
        · exact m.isQuery_compilations lock clock db x hx
        · split at hx
          · exact ih _ x hx
          · cases hx
  intro x hx
  unfold Registry.compilations at hx
  split at hx
  · exact hpending _ r _ x hx
  · cases hx

/-- After a pass that succeeded the connection is attuned, if it had not compiled a query before. -/
theorem Store.attuned_upgrade {s : Store} (hopen : s.access = .opened .free) {r : Registry}
    (hr : r.fault? = none) (hquery : s.connection.HasNoQuery) {clock : Clock} {verify : Bool}
    {report : Report} (h : (s.upgrade clock verify r).2 = .ok report) :
    (s.upgrade clock verify r).1.IsAttuned := by
  have hobstacle : s.connection.obstacle? s.access (Ledger.compilation s.database).template
      (Ledger.compilation s.database).statement = none := by
    rw [hopen]
    exact Connection.obstacle?_eq_none fun known _ => ⟨_, Ledger.creation_check known⟩
  have hcreation : ((s.connection.informed s.database).after
      (Ledger.compilation s.database)).HasNoQuery := (hquery.informed _).after rfl
  have hwith : s.upgrade clock verify r =
      s.withLedger .database (fun lock db => r.upgrade lock clock verify db) fun lock db =>
        r.compilations lock clock verify db := by
    unfold Store.upgrade
    rw [hopen, hr]
  rw [hwith] at h ⊢
  unfold Store.withLedger at h ⊢
  simp only [hobstacle] at h ⊢
  unfold Store.IsAttuned
  simp only [h]
  refine Connection.isAttuned_of_hasNoQuery ?_ rfl
  exact hcreation.afterAll (Registry.isQuery_compilations _ _ _ _ _)

/-! ## Up to date -/

namespace Database

/-- The built-in migrations are on record and nothing else, and their tables are healthy. -/
structure IsUpToDate (db : Database) : Prop where
  present : IsPresent db
  recorded : onRecord db = versions builtIn
  healthy : db.IsHealthy
  sound : db.IsSound
  single : ∀ m ∈ builtIn, ∃ t, db.schema.tablesNamed m.shape.table = [t]

/-- A healthy database is refused by none of the built-in shapes. -/
theorem IsHealthy.refusal?_eq_none {db : Database} (h : db.IsHealthy) :
    builtIn.refusal? db = none := List.findSome?_eq_none_iff.2 h.shapes

/-- A database is up to date if its migrations are on record and the three tables are as they were
created. -/
theorem isUpToDate_of_new {db : Database} (hpresent : IsPresent db)
    (hrecorded : onRecord db = versions builtIn) (hdescribable : db.IsDescribable)
    (hnew : ∀ m ∈ builtIn, db.tablesNamed m.shape.table = [m.shape.asTable]) : db.IsUpToDate := by
  have hfind : ∀ m ∈ builtIn, db.find? m.shape.table = some m.shape.asTable := by
    intro m hm
    rw [find?_eq_head?, hnew m hm]
    rfl
  have hempty : ∀ m ∈ builtIn, ∀ t, db.find? m.shape.table = some t → t.rows = [] := by
    intro m hm t ht
    rw [hfind m hm] at ht
    cases ht
    rfl
  refine ⟨hpresent, hrecorded, ⟨fun m hm => ?_, fun m hm t ht row hrow => ?_⟩,
    fun m hm t ht => ?_, fun m hm => ⟨m.shape.asTable, ?_⟩⟩
  · rw [TableShape.refusal?_of_isDescribable hdescribable, Option.map_eq_none_iff]
    exact TableShape.fits_of_find? (Registry.builtIn_creations m hm).2.nonempty (hfind m hm)
  · rw [hempty m hm t ht] at hrow
    cases hrow
  · have hrows := hempty m hm t ht
    refine ⟨?_, ?_, ?_⟩ <;> rw [hrows]
    · exact fun row hrow => absurd hrow List.not_mem_nil
    · exact fun row hrow => absurd hrow List.not_mem_nil
    · exact .nil
  · rw [tablesNamed_schema, hnew m hm]
    rfl

end Database

namespace Store

variable {s : Store} (hopen : s.access = .opened .free)
include hopen

/-- The first pass over a database without tables applies all built-in migrations. -/
theorem upgrade_first (h : s.database = .empty) (clock : Clock) (verify : Bool) :
    (s.upgrade clock verify builtIn).2 = .ok ⟨[10, 11, 16], 16⟩ ∧
      (s.upgrade clock verify builtIn).1.database = (passed clock builtIn .empty).1 ∧
      (s.upgrade clock verify builtIn).1.database.IsUpToDate := by
  have hvalid : builtIn.fault? = none := by decide
  have hk : Ledger.IsKept .empty := by decide
  obtain ⟨-, hdatabase, hresult⟩ := upgrade_parts hopen hvalid Registry.builtIn_avoids_ledger
    (by rw [h]; exact hk) clock verify
  obtain ⟨hpresent, hreaches, hreported⟩ :=
    passed_reaches hvalid (fun _ hm => hm) hk clock
  rw [h] at hdatabase hresult
  have hrecorded : onRecord (passed clock builtIn .empty).1 = versions builtIn := by
    rw [hreaches.recorded]
    decide
  have htables : (passed clock builtIn .empty).1.remove tableName =
      ⟨builtIn.map fun m => m.shape.asTable⟩ := by
    rw [hreaches.others]
    decide +kernel
  -- beside the ledger there are only the new tables
  have hbeside : ∀ name, Text.sameLetters name tableName = false →
      (passed clock builtIn .empty).1.tablesNamed name =
        (⟨builtIn.map fun m => m.shape.asTable⟩ : Database).tablesNamed name := by
    intro name hname
    rw [← htables, Database.tablesNamed_remove _ ((Text.sameLetters_comm _ _).trans hname)]
  have hdescribable : (passed clock builtIn .empty).1.IsDescribable := by
    unfold Database.IsDescribable
    rw [Database.find?_eq_head?, hbeside _ (by decide)]
    decide +kernel
  have hupToDate : (passed clock builtIn .empty).1.IsUpToDate := by
    refine Database.isUpToDate_of_new hpresent hrecorded hdescribable fun m hm => ?_
    rw [hbeside _ (Registry.builtIn_beside_ledger m hm)]
    revert m
    decide +kernel
  rw [hdatabase]
  refine ⟨?_, rfl, hupToDate⟩
  rw [hresult, hreported, closing, hupToDate.healthy.refusal?_eq_none, ite_self, hrecorded]
  decide

/-- A pass over a database that is up to date does nothing. -/
theorem upgrade_upToDate (h : s.database.IsUpToDate) (clock : Clock) (verify : Bool) :
    (s.upgrade clock verify builtIn).2 = .ok ⟨[], 16⟩ ∧
      (s.upgrade clock verify builtIn).1.database = s.database := by
  have hvalid : builtIn.fault? = none := by decide
  have hpending : pending (onRecord s.database) builtIn = [] := by
    rw [h.recorded]
    decide
  obtain ⟨-, hdatabase, hresult⟩ := upgrade_parts hopen hvalid Registry.builtIn_avoids_ledger
    h.present.kept clock verify
  rw [Registry.passed_of_pending_eq_nil clock hvalid Registry.builtIn_avoids_ledger h.present
    hpending] at hdatabase hresult
  refine ⟨?_, hdatabase⟩
  rw [hresult, closing, h.healthy.refusal?_eq_none, ite_self, h.recorded]
  decide

end Store

/-! ## Operations -/

namespace Operation

/-- An operation leaves the ledger as it is. -/
theorem ledger_run (s : Store) (op : Operation) :
    (op.run s).database.tablesNamed tableName = s.database.tablesNamed tableName := by
  rcases (op.run_database s).2 with hsame | ⟨st, n, hst, hexec⟩
  · rw [hsame]
  · exact Statement.tablesNamed_exec
      (avoids_of_statement hst (by decide) (by decide) (by decide)) hexec

section Run

variable {s : Store} (hopen : s.access = .opened .free) (ha : s.IsAttuned)
  (h : s.database.IsUpToDate)
include hopen ha h

/-- An operation leaves the schema as it is. -/
theorem schema_run (op : Operation) : (op.run s).database.schema = s.database.schema := by
  cases htarget : op.target? with
  | none => rw [(run_of_none (statement?_of_target? htarget) s).database]
  | some target =>
    by_cases hrepeats : op.Repeats s.database
    · rw [(answer_repeats hopen ha h.healthy h.sound hrepeats).2]
    · obtain ⟨-, t, t', ht, hdatabase, hc, -⟩ :=
        run_changes hopen ha h.healthy h.sound hrepeats htarget
      obtain ⟨u, hu⟩ := h.single _ (target_mem htarget)
      rw [hdatabase, schema_modify ht hu hc.layout]

/-- An operation leaves the database up to date. -/
theorem upToDate_run (op : Operation) : (op.run s).database.IsUpToDate := by
  have hledger := ledger_run s op
  obtain ⟨hhealthy, hsound⟩ := isHealthy_run hopen ha h.healthy h.sound op
  refine ⟨h.present.congr hledger, ?_, hhealthy, hsound, ?_⟩
  · rw [Ledger.onRecord_congr hledger]
    exact h.recorded
  · rw [schema_run hopen ha h op]
    exact h.single

end Run

end Operation

end DispatchStore
