import DispatchStore.Proofs.Database.Writes
import DispatchStore.Proofs.Store.Attuned
import DispatchStore.Proofs.Store.Events

/-!
# What is read of the three tables

Over a table like the declared one whose cells are texts or null, every record of a row decodes, and
it decodes to the row (`Override.ofRow`, `ProcessedEvent.ofRow`, `Decision.ofRow`). So every look at
the table gives the rows that its query selects (`Store.getOverride_eq` and the theorems behind it).
-/

namespace DispatchStore

/-! ## Cells of records -/

namespace Row

/-- A cell as a text. Null is the empty text. -/
def text (row : Row) (i : Nat) : String := (row.cell i).text?.getD ""

/-- A cell as a text or nothing. -/
def text? (row : Row) (i : Nat) : Option String := (row.cell i).text?

/-- The first cells of a row under the given names. -/
def record (row : Row) (columns : List String) : Record :=
  columns.zip ((List.range columns.length).map row.cell)

end Row

namespace Record

variable {r : Record} {name : String} {v : Value}

/-- A textual cell is read as its text, and null as the empty one. -/
theorem text_eq (h : r.cell name = .ok v) (hv : v.isTextual = true) :
    r.text name = .ok (v.text?.getD "") := by
  unfold text
  rw [h]
  cases v <;> first | rfl | cases hv

/-- A textual cell is read as its text, and null as none. -/
theorem text?_eq (h : r.cell name = .ok v) (hv : v.isTextual = true) :
    r.text? name = .ok v.text? := by
  unfold text?
  rw [h]
  cases v <;> first | rfl | cases hv

end Record

/-- The override that a row is. -/
def Override.ofRow (row : Row) : Override := ⟨row.text 0, row.text? 1, row.text? 2⟩

/-- The processed event that a row is. -/
def ProcessedEvent.ofRow (row : Row) : ProcessedEvent := ⟨row.text 0, row.text? 1, row.text? 2⟩

/-- The decision that a row is. -/
def Decision.ofRow (row : Row) : Decision :=
  ⟨row.text 0, row.text 1, row.text 2, row.text 3, ⟨row.text 4⟩⟩

section Decoding

variable {row : Row} (h : ∀ v ∈ row.cells, v.isTextual = true)
include h

/-- A record of a key and two texts that may be null is decoded cell by cell. -/
theorem Record.keyed_row {α : Type} (make : String → Option String → Option String → α)
    {columns : List String} {key first second : String}
    (hkey : (row.record columns).cell key = .ok (row.cell 0))
    (hfirst : (row.record columns).cell first = .ok (row.cell 1))
    (hsecond : (row.record columns).cell second = .ok (row.cell 2)) :
    (do
      let k ← (row.record columns).text key
      let a ← (row.record columns).text? first
      let b ← (row.record columns).text? second
      return make k a b) = Except.ok (make (row.text 0) (row.text? 1) (row.text? 2)) := by
  have hcell := Row.isTextual_cell h
  rw [text_eq hkey (hcell 0), text?_eq hfirst (hcell 1), text?_eq hsecond (hcell 2)]
  rfl

/-- The record of a row of overrides is the override that the row is. -/
theorem Override.ofRecord_row :
    Override.ofRecord (row.record Store.overridesColumns) = .ok (.ofRow row) :=
  Record.keyed_row h Override.mk rfl rfl rfl

/-- The record of a row of events is the event that the row is. -/
theorem ProcessedEvent.ofRecord_row :
    ProcessedEvent.ofRecord (row.record Store.eventsColumns) = .ok (.ofRow row) :=
  Record.keyed_row h ProcessedEvent.mk rfl rfl rfl

/-- The record of a row of decisions is the decision that the row is. -/
theorem Decision.ofRecord_row :
    Decision.ofRecord (row.record Store.decisionsColumns) = .ok (.ofRow row) := by
  have hcell := Row.isTextual_cell h
  unfold ofRecord
  rw [Record.text_eq (v := row.cell 0) rfl (hcell 0),
    Record.text_eq (v := row.cell 1) rfl (hcell 1),
    Record.text_eq (v := row.cell 2) rfl (hcell 2), Record.text_eq (v := row.cell 3) rfl (hcell 3),
    Record.text_eq (v := row.cell 4) rfl (hcell 4)]
  rfl

end Decoding

/-! ## Columns of tables -/

namespace Table.Alike

variable {t t' : Table} (h : t.Alike t')
include h

/-- Alike tables spell their columns in the same way. -/
theorem spelled (columns : List String) : t'.spelled columns = t.spelled columns := by
  unfold Table.spelled
  refine congrArg (fun f => columns.filterMap f) (funext fun name => ?_)
  rw [h.columnIndex?]
  refine congrArg _ (funext fun i => ?_)
  exact h.getElem?_map (fun _ _ hc => (Column.agrees_iff.1 hc).1.symm) i

/-- The columns of a query have the same cells in alike tables. -/
theorem cells (columns : List String) (row : Row) : t'.cells columns row = t.cells columns row := by
  unfold Table.cells
  simp only [h.columnIndex?]

end Table.Alike

/-! ## Queries -/

namespace Query

/-- The query for the override with a key. -/
def override (key : String) : Query :=
  ⟨Store.overridesTable, Store.overridesColumns, [("key", .text key)], [], some 1⟩

/-- The query for all overrides. -/
def overrides : Query :=
  ⟨Store.overridesTable, Store.overridesColumns, [], [("key", .ascending)], none⟩

/-- The query for the events recorded last. -/
def recentEvents (limit : Int) : Query :=
  ⟨Store.eventsTable, Store.eventsColumns, [],
    [("processed_at", .descending), ("event_id", .descending)], some (Store.listingLimit limit)⟩

/-- The query for the decision with an id. -/
def decision (id : String) : Query :=
  ⟨Store.decisionsTable, Store.decisionsColumns, [("decision_id", .text id)], [], some 1⟩

/-- The query for the decisions with a status. -/
def decisionsWithStatus (status : Status) (limit : Int) : Query :=
  ⟨Store.decisionsTable, Store.decisionsColumns, [("status", .text status.text)],
    [("created_at", .ascending), ("decision_id", .ascending)], some (Store.listingLimit limit)⟩

end Query

/-- The columns of a shape are asked for in their order and under their names. -/
structure TableShape.Shows (shape : TableShape) (columns : List String) : Prop where
  places : columns.map shape.asTable.columnIndex? = (List.range columns.length).map some
  spelled : shape.asTable.spelled columns = columns

instance (shape : TableShape) (columns : List String) : Decidable (shape.Shows columns) :=
  decidable_of_iff (columns.map shape.asTable.columnIndex? = (List.range columns.length).map some ∧
    shape.asTable.spelled columns = columns) ⟨fun h => ⟨h.1, h.2⟩, fun h => ⟨h.places, h.spelled⟩⟩

/-- The columns of overrides are asked for as they are declared. -/
theorem overrides_shows : Migration.overridesShape.Shows Store.overridesColumns := by
  decide +kernel

/-- The columns of events are asked for as they are declared. -/
theorem events_shows : Migration.eventsShape.Shows Store.eventsColumns := by decide +kernel

/-- The columns of decisions are asked for as they are declared. -/
theorem decisions_shows : Migration.decisionsShape.Shows Store.decisionsColumns := by
  decide +kernel

namespace TableShape.Shows

variable {shape : TableShape} {columns : List String} (h : shape.Shows columns)
include h

/-- A column that is asked for is there. -/
theorem isSome_columnIndex? {name : String} (hname : name ∈ columns) :
    (shape.asTable.columnIndex? name).isSome = true := by
  have hmem : shape.asTable.columnIndex? name ∈ columns.map shape.asTable.columnIndex? :=
    List.mem_map_of_mem hname
  rw [h.places] at hmem
  obtain ⟨i, -, hi⟩ := List.mem_map.1 hmem
  rw [← hi]
  rfl

/-- What is asked for are the cells of a row from the first one on. -/
theorem cells (row : Row) :
    shape.asTable.cells columns row = (List.range columns.length).map row.cell := by
  calc shape.asTable.cells columns row
      = (columns.map shape.asTable.columnIndex?).filterMap fun i => i.map row.cell := by
        rw [List.filterMap_map]
        rfl
    _ = ((List.range columns.length).map some).filterMap fun i => i.map row.cell := by rw [h.places]
    _ = (List.range columns.length).map row.cell := by
        rw [List.filterMap_map]
        exact congrFun List.filterMap_eq_map _

end TableShape.Shows

section Reading

variable {s : Store} (hopen : s.access = .opened .free) (ha : s.IsAttuned) {t : Table}
include hopen ha

/-- A query over one of the tables reads the rows that it selects. -/
theorem readAs_rows {shape : TableShape} (ht : s.database.find? shape.table = some t)
    (hl : shape.asTable.Alike t) {q : Query} (hq : q.table = shape.table)
    (hnames : ∀ c ∈ q.names, (shape.asTable.columnIndex? c).isSome = true)
    (hshows : shape.Shows q.columns) {α : Type} (f : List Record → Except Fault α) :
    (s.readAs q f).2 = f ((q.rows t).map fun row => row.record q.columns) := by
  have hfound : ∀ c ∈ q.names, (t.columnIndex? c).isSome = true := by
    intro c hc
    rw [hl.columnIndex?]
    exact hnames c hc
  rw [Store.readAs_eq hopen ha, Query.records_eq ht hq hfound, hl.spelled, hshows.spelled]
  simp only [hl.cells, hshows.cells]
  rfl

section Decode

variable {shape : TableShape} (ht : s.database.find? shape.table = some t)
  (hl : shape.asTable.Alike t) {q : Query} (hq : q.table = shape.table)
  (hshows : shape.Shows q.columns) (hnames : ∀ c ∈ q.names, c ∈ q.columns) {α : Type}
  {decode : Record → Except Fault α} {of : Row → α}
  (hdecode : ∀ row ∈ t.rows, decode (row.record q.columns) = .ok (of row))
include ht hl hq hshows hnames hdecode

/-- Where the records of all rows decode, a listing gives what the rows are that it selects. -/
theorem readAs_all :
    (s.readAs q fun records => records.mapM decode).2 = .ok ((q.rows t).map of) := by
  have hfound := fun c hc => hshows.isSome_columnIndex? (hnames c hc)
  rw [readAs_rows hopen ha ht hl hq hfound hshows]
  exact mapM_map_eq_ok fun row hrow => hdecode row (Query.mem_rows hrow).1

/-- Where the records of all rows decode, a search gives what the first row is that it selects. -/
theorem readAs_head? :
    (s.readAs q fun records => records.head?.mapM decode).2 = .ok ((q.rows t).head?.map of) := by
  have hfound := fun c hc => hshows.isSome_columnIndex? (hnames c hc)
  rw [readAs_rows hopen ha ht hl hq hfound hshows]
  exact head?_mapM_map_eq_ok fun row hrow => hdecode row (Query.mem_rows hrow).1

end Decode

namespace Store

section Overrides

variable (ht : s.database.find? Migration.overridesShape.table = some t)
  (hl : Migration.overridesShape.asTable.Alike t)
  (htextual : ∀ row ∈ t.rows, ∀ v ∈ row.cells, v.isTextual = true)
include ht hl htextual

/-- Looking an override up gives the row of its key, if there is one. -/
theorem getOverride_eq (key : String) :
    (s.getOverride key).2 = .ok (((Query.override key).rows t).head?.map .ofRow) := by
  have hnames : ∀ c ∈ (Query.override key).names, c ∈ (Query.override key).columns := by
    simp [Query.override, Query.names, overridesColumns]
  exact readAs_head? hopen ha ht hl rfl overrides_shows hnames fun row hrow =>
    Override.ofRecord_row (htextual row hrow)

/-- Listing the overrides gives all their rows. -/
theorem listOverrides_eq : s.listOverrides.2 = .ok ((Query.overrides.rows t).map .ofRow) := by
  have hnames : ∀ c ∈ Query.overrides.names, c ∈ Query.overrides.columns := by
    simp [Query.overrides, Query.names, overridesColumns]
  exact readAs_all hopen ha ht hl rfl overrides_shows hnames fun row hrow =>
    Override.ofRecord_row (htextual row hrow)

end Overrides

section Events

variable (ht : s.database.find? Migration.eventsShape.table = some t)
  (hl : Migration.eventsShape.asTable.Alike t)
include ht hl

/-- Asking for an event tells whether a row is selected. -/
theorem isProcessed_eq (id : String) :
    (s.isProcessed id).2 = .ok !((asking id).rows t).isEmpty := by
  have hnames : ∀ c ∈ (asking id).names, c ∈ eventsColumns := by
    simp [asking, Query.names, eventsColumns]
  have hread := readAs_rows hopen ha ht hl (q := asking id) rfl
    (fun c hc => events_shows.isSome_columnIndex? (hnames c hc)) ⟨rfl, rfl⟩
    fun records => .ok !records.isEmpty
  refine hread.trans ?_
  rw [List.isEmpty_map]

/-- Listing the events gives the rows that are selected. -/
theorem recentEvents_eq (htextual : ∀ row ∈ t.rows, ∀ v ∈ row.cells, v.isTextual = true)
    (limit : Int) :
    (s.recentEvents limit).2 = .ok (((Query.recentEvents limit).rows t).map .ofRow) := by
  have hnames : ∀ c ∈ (Query.recentEvents limit).names, c ∈ (Query.recentEvents limit).columns := by
    simp [Query.recentEvents, Query.names, eventsColumns]
  exact readAs_all hopen ha ht hl rfl events_shows hnames fun row hrow =>
    ProcessedEvent.ofRecord_row (htextual row hrow)

end Events

section Decisions

variable (ht : s.database.find? Migration.decisionsShape.table = some t)
  (hl : Migration.decisionsShape.asTable.Alike t)
  (htextual : ∀ row ∈ t.rows, ∀ v ∈ row.cells, v.isTextual = true)
include ht hl htextual

/-- Looking a decision up gives the row of its id, if there is one. -/
theorem getDecision_eq (id : String) :
    (s.getDecision id).2 = .ok (((Query.decision id).rows t).head?.map .ofRow) := by
  have hnames : ∀ c ∈ (Query.decision id).names, c ∈ (Query.decision id).columns := by
    simp [Query.decision, Query.names, decisionsColumns]
  exact readAs_head? hopen ha ht hl rfl decisions_shows hnames fun row hrow =>
    Decision.ofRecord_row (htextual row hrow)

/-- Listing decisions gives the rows that are selected. -/
theorem decisionsWithStatus_eq (status : Status) (limit : Int) :
    (s.decisionsWithStatus status limit).2 =
      .ok (((Query.decisionsWithStatus status limit).rows t).map .ofRow) := by
  have hnames : ∀ c ∈ (Query.decisionsWithStatus status limit).names,
      c ∈ (Query.decisionsWithStatus status limit).columns := by
    simp [Query.decisionsWithStatus, Query.names, decisionsColumns]
  exact readAs_all hopen ha ht hl rfl decisions_shows hnames fun row hrow =>
    Decision.ofRecord_row (htextual row hrow)

end Decisions

end Store

end Reading

end DispatchStore
