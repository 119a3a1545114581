import DispatchStore.Proofs.Schema.Verified
import DispatchStore.Proofs.Store.Effects
import DispatchStore.Proofs.Store.Opened

/-!
# The ledger of events

A database whose ledger of events passed the comparison with its shape (`HasEvents`) gives a view of
the ids that are recorded (`Holds`). Asking for an id reads that view (`isProcessed_spec`), and
marking adds one id to it or leaves it alone (`marking_exec`). All other operations leave the ledger
alone, so that nothing is ever taken out of it (`Operation.run_events`).

Marking can be held up only by a connection that remembers another schema. A connection that looked
at the rows remembers the schema as it is (`Store.Current`), and operations keep it that way.
-/

namespace DispatchStore

open Store (eventsTable)

/-- The ledger of events is there, with columns like the declared ones. -/
def HasEvents (db : Database) : Prop :=
  ∃ t, db.find? eventsTable = some t ∧ Migration.eventsShape.asTable.Alike t

/-- The id is recorded. -/
def Holds (db : Database) (id : String) : Prop :=
  ∃ t, db.find? eventsTable = some t ∧ ∃ row ∈ t.rows, row.cell 0 = .text id

/-- A ledger of events that passed the comparison is there, with columns like the declared ones. -/
theorem hasEvents_of_refusal? {db : Database} (h : Migration.eventsShape.refusal? db = none) :
    HasEvents db := by
  have htable : Migration.events.shape.table = eventsTable := rfl
  have halike := TableShape.exists_alike (Registry.builtIn_notEngine .events (by decide)) h
  rw [htable] at halike
  exact halike

/-- An id is recorded exactly if it is the text in the first cell of some row. -/
theorem holds_iff {db : Database} {t : Table} (ht : db.find? eventsTable = some t) (id : String) :
    Holds db id ↔ ∃ row ∈ t.rows, row.cell 0 = .text id := by
  unfold Holds
  rw [ht]
  simp

/-- The statement that marks an event. -/
def marking (now : Timestamp) (id : String) (eventType : Option String) : Statement :=
  .insert eventsTable
    [("event_id", .text id), ("event_type", eventType.elim .null .text),
      ("processed_at", .text now.iso)] (.keep "event_id")

/-! ## The layout -/

section Layout

variable {t : Table} (h : Migration.eventsShape.asTable.Alike t)
include h

/-- The ids stand in the first column. -/
theorem events_columnIndex? :
    t.columnIndex? "event_id" = some 0 := (h.columnIndex? _).trans (by decide)

/-- The ledger of events has a text as its key. -/
theorem events_isTextKeyed : t.IsTextKeyed := h.isTextKeyed (builtIn_textKeyed .events (by decide))

/-- A row has the id that is looked for if that is its first cell. -/
theorem events_satisfies (id : String) (row : Row) :
    t.satisfies [("event_id", .text id)] row = true ↔ row.cell 0 = .text id := by
  rw [Table.satisfies_text (events_isTextKeyed h) (events_columnIndex? h), decide_eq_true_eq]

end Layout

/-! ## Marking -/

section Marking

variable {db : Database} {t : Table}

/-- A marking is the insertion of a whole row. -/
theorem marking_eq (now : Timestamp) (id : String) (eventType : Option String) :
    marking now id eventType = .insert Migration.eventsShape.table
      ((Migration.eventsShape.columns.map Column.name).zip
        (Operation.eventCells now id eventType)) (.keep "event_id") := rfl

/-- What a marking goes by is the key of the ledger. -/
theorem marking_key (target : String)
    (htarget : OnConflict.keep "event_id" = .keep target ∨
      ∃ columns, OnConflict.keep "event_id" = .overwrite target columns) :
    Migration.eventsShape.asTable.hasKey target = true := by
  rcases htarget with heq | ⟨columns, heq⟩
  · cases heq
    decide
  · cases heq

/-- A ledger of events finds nothing to object to in a marking. -/
theorem marking_check (h : HasEvents db) (now : Timestamp) (id : String)
    (eventType : Option String) : (marking now id eventType).check db = .ok true := by
  obtain ⟨t, ht, hl⟩ := h
  have hfind : db.find? Migration.eventsShape.table = some t := ht
  rw [marking_eq]
  exact TableShape.insertion_check hfind hl _ marking_key

/-- Marking gets through, and then the id is recorded besides those that were. -/
theorem marking_exec (h : HasEvents db) (now : Timestamp) (id : String)
    (eventType : Option String) :
    ∃ db' n, (marking now id eventType).exec .free db = .ok (db', n) ∧ HasEvents db' ∧
      ∀ other, Holds db' other ↔ Holds db other ∨ other = id := by
  obtain ⟨t, ht, hl⟩ := h
  have hthere : db.find? Migration.eventsShape.table = some t := ht
  have hkey : (Operation.eventCells now id eventType)[0]? = some (.text id) := rfl
  have hexec := TableShape.insertion_eq hthere hl (builtIn_textKeyed .events (by decide))
    (Operation.events_takes now id eventType) hkey marking_key
  have hnew : (⟨t.nextRowNumber, Operation.eventCells now id eventType⟩ : Row).cell 0 =
      .text id := rfl
  obtain ⟨t', n, hplacing, hlayout, hholds⟩ := Table.placing_keep (t := t) hnew "event_id"
  rw [hplacing, ← marking_eq] at hexec
  have hfind := Database.find?_replaced ht hlayout
  refine ⟨db.modify eventsTable fun _ => t', n, hexec, ⟨t', hfind, ?_⟩, fun other => ?_⟩
  · unfold Table.Alike
    rw [hlayout.columns]
    exact hl
  · rw [holds_iff hfind, holds_iff ht]
    exact hholds other

end Marking

/-! ## Asking -/

/-- The ledger is in the schema. -/
theorem HasEvents.schema {db : Database} (h : HasEvents db) : HasEvents db.schema := by
  obtain ⟨t, ht, hl⟩ := h
  refine ⟨{ t with rows := [] }, ?_, hl⟩
  rw [find?_schema, ht]
  rfl

/-- The query that asks for an event. -/
def asking (id : String) : Query := ⟨eventsTable, [], [("event_id", .text id)], [], some 1⟩

/-- The question for an event finds the ledger of events. -/
theorem asking_source {db : Database} {t : Table} (ht : db.find? eventsTable = some t)
    (hl : Migration.eventsShape.asTable.Alike t) (id : String) :
    (asking id).source db = .ok t :=
  Query.source_eq ht rfl (by simp [asking, Query.names, events_columnIndex? hl])

/-- However the connection names the cells, it gets at them. -/
theorem asking_header {db : Database} (h : HasEvents db) (c : Connection) (id : String) :
    ∃ names, c.header (.opened .free) (asking id) db = .ok names := by
  obtain ⟨t, ht, hl⟩ := h
  have hheader : (asking id).header db = .ok (t.spelled (asking id).columns) := by
    unfold Query.header
    rw [asking_source ht hl]
    rfl
  unfold Connection.header
  cases c.prepared.lookup (.ofQuery (asking id)) with
  | some p => exact ⟨_, rfl⟩
  | none =>
    cases c.known with
    | none => exact ⟨_, by simp only [Access.fault?, hheader]; rfl⟩
    | some known =>
      simp only [Access.fault?]
      cases (asking id).header known with
      | ok names => exact ⟨_, rfl⟩
      | error e => exact ⟨_, by simp only [hheader]; rfl⟩

namespace Store

variable {s : Store}

/-- Asking for an event tells whether it is recorded. -/
theorem isProcessed_spec (hopen : s.access = .opened .free) (h : HasEvents s.database)
    (id : String) : ∃ b, (s.isProcessed id).2 = .ok b ∧ (b = true ↔ Holds s.database id) := by
  obtain ⟨names, hheader⟩ := asking_header h s.connection id
  obtain ⟨t, ht, hl⟩ := h
  have hrun : (asking id).run s.database =
      .ok (((asking id).rows t).map (t.cells (asking id).columns)) := by
    unfold Query.run
    rw [asking_source ht hl]
    rfl
  have hread : (s.read (asking id)).2 =
      .ok ((((asking id).rows t).map (t.cells (asking id).columns)).map names.zip) := by
    unfold read Connection.read
    rw [hopen, if_neg (by simp), hheader]
    simp only [Connection.inspect, Access.fault?, hrun]
    rfl
  have hresult : (s.isProcessed id).2 = .ok !((asking id).rows t).isEmpty := by
    have hprocessed : (s.isProcessed id).2 =
        (s.read (asking id)).2.bind fun records => .ok !records.isEmpty := rfl
    rw [hprocessed, hread]
    simp only [Except.bind, List.isEmpty_map]
  refine ⟨_, hresult, ?_⟩
  rw [Bool.not_eq_true', List.isEmpty_eq_false_iff, ne_eq,
    Query.rows_eq_nil_iff (by simp [asking]), holds_iff ht]
  simp only [not_forall, exists_prop]
  refine exists_congr fun row => and_congr_right fun _ => ?_
  rw [Bool.not_eq_false]
  exact events_satisfies hl id row

/-- Marking gets through with a connection that knows the schema. -/
theorem markEvent_spec (hopen : s.access = .opened .free) (hc : Current s)
    (h : HasEvents s.database) (now : Timestamp) (id : String) (eventType : Option String) :
    ∃ b, (s.markEvent now id eventType).2 = .ok b := by
  obtain ⟨db, n, hexec, -, -⟩ := marking_exec h now id eventType
  obtain ⟨-, hresult⟩ := write_of_exec hopen hc (marking_check h.schema now id eventType) hexec
  have hmark : (s.markEvent now id eventType).2 =
      (s.write (marking now id eventType)).2.map fun n => decide (0 < n) := rfl
  rw [hmark, hresult]
  exact ⟨_, rfl⟩

/-- Marking that was not refused has recorded the event. -/
theorem holds_of_markEvent (hopen : s.access = .opened .free) (h : HasEvents s.database)
    {now : Timestamp} {id : String} {eventType : Option String} {b : Bool}
    (hmark : (s.markEvent now id eventType).2 = .ok b) :
    Holds (s.markEvent now id eventType).1.database id := by
  obtain ⟨db, n, hexec, -, hholds⟩ := marking_exec h now id eventType
  have hwrite : ((s.write (marking now id eventType)).2.map fun n => decide (0 < n)) =
    .ok b := hmark
  change Holds (s.write (marking now id eventType)).1.database id
  unfold write Connection.exec at hwrite ⊢
  rw [hopen] at hwrite ⊢
  cases hobstacle : s.connection.obstacle? (.opened .free)
      (.ofStatement (marking now id eventType)) (marking now id eventType) with
  | some fault =>
    rw [hobstacle] at hwrite
    cases hwrite
  | none =>
    dsimp only [Access.lock]
    rw [hexec]
    exact (hholds id).2 (.inr rfl)

end Store

/-! ## Operations -/

namespace Operation

/-- The operation marks the event. -/
def Marks (id : String) (op : Operation) : Prop := ∃ now eventType, op = .markEvent now id eventType

/-- The statement of an operation marks an event or leaves the ledger of events alone. -/
theorem avoids_or_marks {op : Operation} {st : Statement} (h : op.statement? = some st) :
    st.Avoids eventsTable ∨ ∃ now id eventType,
      op = .markEvent now id eventType ∧ st = marking now id eventType := by
  cases op with
  | markEvent now id eventType =>
    cases h
    exact .inr ⟨now, id, eventType, rfl, rfl⟩
  | setOverride _ _ _ | clearOverride _ | insertDecision _ | updateStatus _ _ =>
    cases h
    left
    intro n hn
    rw [List.mem_singleton.1 hn]
    decide
  | getOverride _ | listOverrides | isProcessed _ | recentEvents _ | getDecision _
  | decisionsWithStatus _ _ => cases h

/-- An operation keeps what is recorded, and records nothing but an event that it marks. -/
theorem run_events {s : Store} (hopen : s.access = .opened .free) (h : HasEvents s.database)
    (op : Operation) :
    HasEvents (op.run s).database ∧ ∀ id, (Holds s.database id → Holds (op.run s).database id) ∧
      (Holds (op.run s).database id → Holds s.database id ∨ op.Marks id) := by
  obtain ⟨-, hdatabase⟩ := op.run_database s
  rcases hdatabase with hsame | ⟨st, n, hst, hexec⟩
  · rw [hsame]
    exact ⟨h, fun id => ⟨fun hid => hid, .inl⟩⟩
  · rw [hopen] at hexec
    rcases avoids_or_marks hst with havoids | ⟨now, marked, eventType, rfl, rfl⟩
    · have hfind : (op.run s).database.find? eventsTable = s.database.find? eventsTable := by
        rw [Database.find?_eq_head?, Statement.tablesNamed_exec havoids hexec,
          ← Database.find?_eq_head?]
      unfold HasEvents Holds
      rw [hfind]
      exact ⟨h, fun id => ⟨fun hid => hid, .inl⟩⟩
    · obtain ⟨db, n', hmarked, hevents, hholds⟩ := marking_exec h now marked eventType
      have hdb : db = ((markEvent now marked eventType).run s).database :=
        (Prod.mk.inj (Except.ok.inj (hmarked.symm.trans hexec))).1
      rw [← hdb]
      refine ⟨hevents, fun id => ⟨fun hid => (hholds id).2 (.inl hid), fun hid => ?_⟩⟩
      rcases (hholds id).1 hid with hold | rfl
      · exact .inl hold
      · exact .inr ⟨now, eventType, rfl⟩

/-- An operation leaves the connection with the schema as it is. -/
theorem current_run {s : Store} (hopen : s.access = .opened .free) (hc : s.Current)
    (op : Operation) : (op.run s).Current := by
  cases hst : op.statement? with
  | some st =>
    rw [run_of_statement hst]
    exact Store.current_write hopen hc st
  | none =>
    obtain ⟨α, q, f, hrun⟩ := exists_readAs_of_none hst
    rw [hrun]
    exact Store.current_readAs hopen q f

end Operation

end DispatchStore
