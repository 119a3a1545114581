import DispatchStore.Proofs.Database.Writes
import DispatchStore.Proofs.Store.Run
import DispatchStore.Schema.Registry

/-!
# What operations write

An operation that is no look writes to one table and there to the row of one key
(`Operation.target?`). What becomes of the cells of that row depends on nothing but the cells that
it had (`Operation.cellsAfter`), and so does the number of rows that the operation counts
(`Operation.written`). Over a table in order its statement does just that, unless it is to insert a
decision that is there (`Operation.exec_effect`).
-/

namespace DispatchStore

/-- The built-in tables have a text as their key. -/
theorem builtIn_textKeyed : ∀ m ∈ Registry.builtIn, m.shape.asTable.IsTextKeyed := by decide +kernel

namespace Operation

/-! ## Targets -/

/-- The migration whose table an operation writes to, and the key of the row. -/
def target? : Operation → Option (Migration × String)
  | setOverride _ key _ => some (.overrides, key)
  | clearOverride key => some (.overrides, key)
  | markEvent _ id _ => some (.events, id)
  | insertDecision d => some (.decisions, d.id)
  | updateStatus id _ => some (.decisions, id)
  | _ => none

/-- The operation inserts a decision whose id is there. -/
def Repeats (db : Database) (op : Operation) : Prop :=
  ∃ d, op = .insertDecision d ∧ ∃ t, db.find? Store.decisionsTable = some t ∧
    ∃ row ∈ t.rows, row.hasKey d.id = true

/-- Operations write to built-in tables only. -/
theorem target_mem {op : Operation} {m : Migration} {key : String}
    (h : op.target? = some (m, key)) : m ∈ Registry.builtIn := by
  cases op <;> cases h <;> decide

/-- An operation with a target has a statement. -/
theorem exists_statement {op : Operation} {m : Migration} {key : String}
    (h : op.target? = some (m, key)) : ∃ st, op.statement? = some st := by
  cases op <;> cases h <;> exact ⟨_, rfl⟩

/-- An operation without a target has no statement. -/
theorem statement?_of_target? {op : Operation} (h : op.target? = none) : op.statement? = none := by
  cases op with
  | getOverride _ | listOverrides | isProcessed _ | recentEvents _ | getDecision _
  | decisionsWithStatus _ _ => rfl
  | setOverride _ _ _ | clearOverride _ | markEvent _ _ _ | insertDecision _ | updateStatus _ _ =>
    cases h

/-! ## Rows -/

/-- The cells of the row of an override. -/
def overrideCells (now : Timestamp) (key : String) (value : Option String) : List Value :=
  [.text key, value.elim .null .text, .text now.iso]

/-- The cells of the row of an event. -/
def eventCells (now : Timestamp) (id : String) (eventType : Option String) : List Value :=
  [.text id, eventType.elim .null .text, .text now.iso]

/-- The cells of the row of a decision. -/
def decisionCells (d : Decision) : List Value :=
  [.text d.id, .text d.createdAt, .text d.kind, .text d.payload, .text d.status.text]

/-- An optional text is stored as a text or null. -/
@[simp]
theorem isTextual_optional (v : Option String) :
    (v.elim Value.null Value.text).isTextual = true := by
  cases v <;> rfl

/-- The cells of an override make a row of its table. -/
theorem overrides_takes (now : Timestamp) (key : String) (value : Option String) :
    Migration.overridesShape.Takes (overrideCells now key value) := by
  constructor
  · rfl
  · intro v hv
    simp only [overrideCells, List.mem_cons, List.not_mem_nil, or_false] at hv
    rcases hv with rfl | rfl | rfl
    · rfl
    · exact isTextual_optional _
    · rfl
  · simp [Migration.overridesShape, overrideCells, Column.key, Column.optional]

/-- The cells of an event make a row of its table. -/
theorem events_takes (now : Timestamp) (id : String) (eventType : Option String) :
    Migration.eventsShape.Takes (eventCells now id eventType) := by
  constructor
  · rfl
  · intro v hv
    simp only [eventCells, List.mem_cons, List.not_mem_nil, or_false] at hv
    rcases hv with rfl | rfl | rfl
    · rfl
    · exact isTextual_optional _
    · rfl
  · simp [Migration.eventsShape, eventCells, Column.key, Column.optional]

/-- The cells of a decision make a row of its table. -/
theorem decisions_takes (d : Decision) : Migration.decisionsShape.Takes (decisionCells d) := by
  constructor
  · rfl
  · simp [decisionCells, Value.isTextual]
  · simp [Migration.decisionsShape, decisionCells, Column.key, Column.required]

/-- The insertion of a decision is that of a whole row. -/
theorem insertDecision_statement {d : Decision} {st : Statement}
    (hst : (insertDecision d).statement? = some st) :
    st = .insert Migration.decisionsShape.table
      ((Migration.decisionsShape.columns.map Column.name).zip (decisionCells d)) .refuse :=
  (Option.some.inj hst).symm

/-! ## Effects -/

/-- The cells of the row of its key after an operation, if there is one then; the argument is the
cells before. -/
def cellsAfter : Operation → Option (List Value) → Option (List Value)
  | setOverride now key value, _ => some (overrideCells now key value)
  | clearOverride _, _ => none
  | markEvent now id eventType, old => some (old.getD (eventCells now id eventType))
  | insertDecision d, old => some (old.getD (decisionCells d))
  | updateStatus _ status, old => old.map fun cells => cells.set 4 (.text status.text)
  | _, old => old

/-- The number of rows that an operation counts. -/
def written : Operation → Option (List Value) → Nat
  | setOverride _ _ _, _ => 1
  | clearOverride _, old => if old.isSome then 1 else 0
  | markEvent _ _ _, old => if old.isSome then 0 else 1
  | insertDecision _, _ => 1
  | updateStatus _ _, old => if old.isSome then 1 else 0
  | _, _ => 0

/-- A statement writes the row of an operation's key and no other. -/
def TakesEffect (op : Operation) (st : Statement) (db : Database) (table key : String) (t : Table) :
    Prop :=
  ∃ t', st.exec .free db = .ok (db.modify table fun _ => t', op.written (t.cells? key)) ∧
    t.ChangesRow key t' ∧ t'.cells? key = op.cellsAfter (t.cells? key)

section Effects

variable {db : Database} {t : Table} (hk : t.IsKeyed)
include hk

/-- Setting an override writes the row of its key. -/
theorem setOverride_effect (ht : db.find? Migration.overridesShape.table = some t)
    (hl : Migration.overridesShape.asTable.Alike t) (now : Timestamp) (key : String)
    (value : Option String) {st : Statement}
    (hst : (setOverride now key value).statement? = some st) :
    (setOverride now key value).TakesEffect st db Migration.overridesShape.table key t := by
  have hinsert : st = .insert Migration.overridesShape.table
      ((Migration.overridesShape.columns.map Column.name).zip (overrideCells now key value))
      (.overwrite "key" ["value", "updated_at"]) := by
    cases hst
    rfl
  have htakes := overrides_takes now key value
  obtain ⟨t', hexec, hc, hcells⟩ := TableShape.insertion_exec ht hl
    (builtIn_textKeyed .overrides (by decide)) htakes rfl hk
    (c := .overwrite "key" ["value", "updated_at"])
    (by rintro target (h | ⟨columns, h⟩) <;> cases h; decide)
    (by intro target columns h; cases h; decide +kernel) (by intro h; cases h)
  -- the columns that are taken over are all but the key
  have hplaced : t.placed (.overwrite "key" ["value", "updated_at"]) (overrideCells now key value)
      (t.row? key) = (overrideCells now key value, 1) := by
    have hvalue : t.columnIndex? "value" = some 1 := (hl.columnIndex? _).trans (by decide +kernel)
    have hstamp : t.columnIndex? "updated_at" = some 2 :=
      (hl.columnIndex? _).trans (by decide +kernel)
    cases hold : t.row? key with
    | none => rfl
    | some old =>
      obtain ⟨hrow, hkey⟩ := Table.mem_of_row? hold
      have hlength : old.cells.length = 3 := (hk.width old hrow).trans hl.length_eq
      have hcell := Row.hasKey_iff.1 hkey
      obtain ⟨number, cells⟩ := old
      match cells, hlength with
      | [a, b, c], _ =>
        have ha : a = .text key := hcell
        rw [ha]
        simp [Table.placed, Table.takeOver, hvalue, hstamp, Row.set, Row.cell, overrideCells]
  rw [hplaced] at hexec hcells
  rw [hinsert]
  exact ⟨t', hexec, hc, hcells⟩

/-- Clearing an override takes out the row of its key. -/
theorem clearOverride_effect (ht : db.find? Migration.overridesShape.table = some t)
    (hl : Migration.overridesShape.asTable.Alike t) (key : String) {st : Statement}
    (hst : (clearOverride key).statement? = some st) :
    (clearOverride key).TakesEffect st db Migration.overridesShape.table key t := by
  cases hst
  have hkeyed := hl.isTextKeyed (builtIn_textKeyed .overrides (by decide))
  have hcolumn : t.columnIndex? "key" = some 0 := (hl.columnIndex? _).trans (by decide +kernel)
  have hcriteria : ∀ row, t.satisfies [("key", .text key)] row = row.hasKey key := fun row =>
    Table.satisfies_text hkeyed hcolumn key row
  have hcolumns : ∀ c ∈ [("key", Value.text key)].map Prod.fst,
      (t.columnIndex? c).isSome = true := by
    simp [hcolumn]
  have hexec := delete_exec ht hcolumns
  rw [Table.delete_keyed hcriteria, Table.countP_hasKey hk, ← Table.isSome_cells?] at hexec
  exact ⟨_, hexec, Table.changesRow_filter hk, congrArg (Option.map Row.cells) Table.row?_filter⟩

/-- Marking an event adds a row for its id, unless there is one. -/
theorem markEvent_effect (ht : db.find? Migration.eventsShape.table = some t)
    (hl : Migration.eventsShape.asTable.Alike t) (now : Timestamp) (key : String)
    (eventType : Option String) {st : Statement}
    (hst : (markEvent now key eventType).statement? = some st) :
    (markEvent now key eventType).TakesEffect st db Migration.eventsShape.table key t := by
  have hinsert : st = .insert Migration.eventsShape.table
      ((Migration.eventsShape.columns.map Column.name).zip (eventCells now key eventType))
      (.keep "event_id") := by
    cases hst
    rfl
  have htakes := events_takes now key eventType
  obtain ⟨t', hexec, hc, hcells⟩ := TableShape.insertion_exec ht hl
    (builtIn_textKeyed .events (by decide)) htakes rfl hk
    (c := .keep "event_id")
    (by rintro target (h | ⟨columns, h⟩) <;> cases h; decide)
    (by intro target columns h; cases h) (by intro h; cases h)
  rw [hinsert]
  unfold TakesEffect Table.cells?
  cases hold : t.row? key with
  | none =>
    rw [hold] at hexec hcells
    exact ⟨t', hexec, hc, hcells⟩
  | some old =>
    rw [hold] at hexec hcells
    exact ⟨t', hexec, hc, hcells⟩

/-- Inserting a new decision adds the row of its id. -/
theorem insertDecision_effect (ht : db.find? Migration.decisionsShape.table = some t)
    (hl : Migration.decisionsShape.asTable.Alike t) (d : Decision)
    (hnew : ∀ row ∈ t.rows, row.hasKey d.id = false) {st : Statement}
    (hst : (insertDecision d).statement? = some st) :
    (insertDecision d).TakesEffect st db Migration.decisionsShape.table d.id t := by
  have hinsert := insertDecision_statement hst
  have htakes := decisions_takes d
  obtain ⟨t', hexec, hc, hcells⟩ := TableShape.insertion_exec ht hl
    (builtIn_textKeyed .decisions (by decide)) htakes rfl hk
    (c := .refuse) (by rintro target (h | ⟨columns, h⟩) <;> cases h)
    (by intro target columns h; cases h) fun _ => hnew
  have hnone : t.row? d.id = none := Table.row?_eq_none_iff.2 hnew
  rw [hnone] at hexec hcells
  rw [hinsert]
  unfold TakesEffect Table.cells?
  rw [hnone]
  exact ⟨t', hexec, hc, hcells⟩

/-- Moving a decision on changes one cell in the row of its id. -/
theorem updateStatus_effect (ht : db.find? Migration.decisionsShape.table = some t)
    (hl : Migration.decisionsShape.asTable.Alike t) (key : String) (status : Status)
    {st : Statement} (hst : (updateStatus key status).statement? = some st) :
    (updateStatus key status).TakesEffect st db Migration.decisionsShape.table key t := by
  cases hst
  have hkeyed := hl.isTextKeyed (builtIn_textKeyed .decisions (by decide))
  have hcolumn : t.columnIndex? "decision_id" = some 0 :=
    (hl.columnIndex? _).trans (by decide +kernel)
  have hstatus : t.columnIndex? "status" = some 4 := (hl.columnIndex? _).trans (by decide +kernel)
  have hcriteria : ∀ row, t.satisfies [("decision_id", .text key)] row = row.hasKey key :=
    fun row => Table.satisfies_text hkeyed hcolumn key row
  have hcolumns : ∀ c ∈ "status" :: [("decision_id", Value.text key)].map Prod.fst,
      (t.columnIndex? c).isSome = true := by
    simp [hcolumn, hstatus]
  have hupdate := Table.update_keyed hkeyed hk hstatus (by decide) status.text hcriteria
  have hkeeps : ∀ row ∈ t.rows, row.hasKey key = true →
      (row.set 4 (.text status.text)).hasKey key = true := by
    intro row _ hrowKey
    rw [Row.hasKey_iff, Row.cell_set_of_ne row (by decide)]
    exact Row.hasKey_iff.1 hrowKey
  have hexec := update_exec ht hcolumns status.text
  rw [hupdate, Table.countP_hasKey hk, ← Table.isSome_cells?] at hexec
  refine ⟨_, hexec, ?_, ?_⟩
  · refine Table.changesRow_map hk fun row hrow hrowKey => ⟨hkeeps row hrow hrowKey, ?_, ?_⟩
    · exact List.length_set.trans (hk.width row hrow)
    · intro v hv
      rcases List.mem_or_eq_of_mem_set hv with hmem | rfl
      · exact hk.textual row hrow v hmem
      · rfl
  · unfold Table.cells?
    rw [Table.row?_map hkeeps]
    cases t.row? key <;> rfl

end Effects

/-- The statement of an operation that repeats nothing writes the row of its key. -/
theorem exec_effect {db : Database} {op : Operation} {st : Statement} {m : Migration}
    {key : String} (hst : op.statement? = some st) (htarget : op.target? = some (m, key))
    (hrepeats : ¬ op.Repeats db) {t : Table} (ht : db.find? m.shape.table = some t)
    (hl : m.shape.asTable.Alike t) (hk : t.IsKeyed) :
    op.TakesEffect st db m.shape.table key t := by
  cases op with
  | setOverride now _ value =>
    cases htarget
    exact setOverride_effect hk ht hl now key value hst
  | clearOverride _ =>
    cases htarget
    exact clearOverride_effect hk ht hl key hst
  | markEvent now _ eventType =>
    cases htarget
    exact markEvent_effect hk ht hl now key eventType hst
  | insertDecision d =>
    cases htarget
    refine insertDecision_effect hk ht hl d (fun row hrow => ?_) hst
    by_contra hthere
    rw [Bool.not_eq_false] at hthere
    exact hrepeats ⟨d, rfl, t, ht, row, hrow, hthere⟩
  | updateStatus _ status =>
    cases htarget
    exact updateStatus_effect hk ht hl key status hst
  | getOverride _ | listOverrides | isProcessed _ | recentEvents _ | getDecision _
  | decisionsWithStatus _ _ => cases hst

end Operation

end DispatchStore
