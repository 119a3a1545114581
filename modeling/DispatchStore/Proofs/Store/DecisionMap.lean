import DispatchStore.Proofs.Store.Contents
import DispatchStore.Proofs.Text.ByteOrder
import DispatchStore.Store.Error
import Mathlib.Data.Prod.Lex

/-!
# The decisions as a map

The table of decisions is a map from ids to decisions (`Database.decision?`) that keys are added to
and never taken from. The engine keeps nulls out of its columns (`Database.IsFilled`), so that every
row is that of a decision (`Database.HoldsDecisions`) and a listing by a status finds just those
that have it. Every operation does to the table what it is to do to the map (`decision?_run`), and
answers what the map says (`DecisionMap.Answers`). So over a store in service any run of operations
ends with the map that the operations make, and that is the one that the next operation answers from
(`Store.decisions_as_map`).
-/

namespace DispatchStore

/-- The decisions by their ids. -/
abbrev DecisionMap := String → Option Decision

/-- One decision comes before another in a listing: by the bytes of the times they were made, then
by those of the ids. -/
def Decision.Precedes (a b : Decision) : Prop :=
  Text.utf8 a.createdAt < Text.utf8 b.createdAt ∨
    a.createdAt = b.createdAt ∧ Text.utf8 a.id < Text.utf8 b.id

/-- A decision comes before those of a larger time, and of a larger id at one time. -/
theorem Decision.precedes_iff {a b : Decision} :
    a.Precedes b ↔ toLex (a.createdAt, a.id) < toLex (b.createdAt, b.id) := by
  unfold Precedes
  rw [Text.utf8_lt_utf8_iff, Text.utf8_lt_utf8_iff, Prod.Lex.toLex_lt_toLex]

namespace Database

/-- The decision with the given id. -/
def decision? (db : Database) : DecisionMap := db.view .decisions .ofRow

/-- The engine keeps nulls out of the columns that refuse them. -/
def IsFilled (db : Database) : Prop :=
  ∀ m ∈ Registry.builtIn, ∀ t, db.find? m.shape.table = some t →
    ∀ row ∈ t.rows, t.nullViolation? row = none

instance (db : Database) : Decidable db.IsFilled :=
  inferInstanceAs (Decidable (∀ m ∈ Registry.builtIn, ∀ t ∈ db.find? m.shape.table,
    ∀ row ∈ t.rows, t.nullViolation? row = none))

/-- Every row of the table of decisions is that of a decision. -/
def HoldsDecisions (db : Database) : Prop :=
  ∀ id cells, db.cells? Store.decisionsTable id = some cells →
    ∃ d : Decision, d.id = id ∧ cells = Operation.decisionCells d

end Database

namespace Operation

/-- What an operation is to do to the decisions. -/
def onDecisions (m : DecisionMap) : Operation → DecisionMap
  | insertDecision d => Function.update m d.id (some ((m d.id).getD d))
  | updateStatus id status => Function.update m id ((m id).map fun d => { d with status })
  | _ => m

/-- The operation is one on decisions. -/
def IsOnDecisions : Operation → Prop
  | insertDecision _ => True
  | getDecision _ => True
  | updateStatus _ _ => True
  | decisionsWithStatus _ _ => True
  | _ => False

end Operation

/-- What the operations on decisions are to answer. -/
inductive DecisionMap.Answers (m : DecisionMap) : Operation → Except Fault Reply → Prop where
  | insert {d : Decision} (h : m d.id = none) : Answers m (.insertDecision d) (.ok .done)
  | refuse {d : Decision} {fault : Fault} (h : (m d.id).isSome = true)
    (hviolation : (StoreError.database fault).isKeyViolation = true) :
    Answers m (.insertDecision d) (.error fault)
  | get (id : String) : Answers m (.getDecision id) (.ok (.decision (m id)))
  | update (id : String) (status : Status) :
    Answers m (.updateStatus id status) (.ok (.flag (m id).isSome))
  /-- Of the decisions with the status the first ones, as many as the limit allows. -/
  | list {status : Status} {l : List Decision}
    (h : Enumerates (fun d => m d.id = some d ∧ d.status = status) Decision.Precedes l)
    (limit : Int) :
    Answers m (.decisionsWithStatus status limit)
    (.ok (.decisions (l.take (Store.listingLimit limit))))

/-! ## Rows -/

/-- A row with texts alone is that of a decision. -/
theorem exists_decisionCells {row : Row} (hlength : row.cells.length = 5)
    (htext : ∀ i < 5, ∃ s, row.cell i = .text s) :
    row.cells = Operation.decisionCells (Decision.ofRow row) := by
  obtain ⟨number, cells⟩ := row
  match cells, hlength with
  | [a, b, c, d, e], _ =>
    obtain ⟨id, hid⟩ := htext 0 (by decide)
    obtain ⟨createdAt, hcreatedAt⟩ := htext 1 (by decide)
    obtain ⟨kind, hkind⟩ := htext 2 (by decide)
    obtain ⟨payload, hpayload⟩ := htext 3 (by decide)
    obtain ⟨status, hstatus⟩ := htext 4 (by decide)
    have ha : a = .text id := hid
    have hb : b = .text createdAt := hcreatedAt
    have hc : c = .text kind := hkind
    have hd : d = .text payload := hpayload
    have he : e = .text status := hstatus
    rw [ha, hb, hc, hd, he]
    rfl

/-- No column of the table of decisions holds a null. -/
theorem Database.IsFilled.cell_ne_null {db : Database} (h : db.IsFilled) {t : Table}
    (ht : db.find? Migration.decisionsShape.table = some t)
    (hl : Migration.decisionsShape.asTable.Alike t) {row : Row} (hrow : row ∈ t.rows) :
    ∀ i < 5, i ≠ 0 → row.cell i ≠ .null := by
  have hflags : t.columns.map Column.notNull = [false, true, true, true, true] :=
    hl.map_eq fun _ _ hc => (Column.agrees_iff.1 hc).2.2.1.symm
  have hviolation := h .decisions (by decide) t ht row hrow
  unfold Table.nullViolation? at hviolation
  rw [Option.map_eq_none_iff, List.find?_eq_none] at hviolation
  have hnumber : t.rowNumberIndex? = none := hl.rowNumberIndex?.trans (by decide +kernel)
  intro i hi hne hnull
  have hlength : t.columns.length = 5 := hl.length_eq
  obtain ⟨c, hc⟩ : ∃ c, t.columns[i]? = some c := ⟨_, List.getElem?_eq_getElem (by omega)⟩
  have hflag : c.notNull = true := by
    have hget : (t.columns.map Column.notNull)[i]? = some c.notNull := by
      rw [List.getElem?_map, hc]
      rfl
    rw [hflags] at hget
    match i, hi, hne with
    | 1, _, _ => exact (Option.some.inj hget).symm
    | 2, _, _ => exact (Option.some.inj hget).symm
    | 3, _, _ => exact (Option.some.inj hget).symm
    | 4, _, _ => exact (Option.some.inj hget).symm
  apply hviolation (c, i) (List.mem_zipIdx_iff_getElem?.2 hc)
  simp [hflag, hnull, hnumber]

/-- The cells that a listing goes by are those of the decision. -/
theorem Database.HoldsDecisions.cell_of_mem {db : Database} (h : db.HoldsDecisions) {t : Table}
    (ht : db.find? Migration.decisionsShape.table = some t) (hk : t.IsKeyed) {row : Row}
    (hrow : row ∈ t.rows) :
    row.cell 0 = .text (Decision.ofRow row).id ∧
      row.cell 1 = .text (Decision.ofRow row).createdAt ∧
      row.cell 4 = .text (Decision.ofRow row).status.text := by
  obtain ⟨id, hid⟩ := hk.keyed row hrow
  have hfound : t.row? id = some row := (Table.row?_eq_some_iff hk).2 ⟨hrow, Row.hasKey_iff.2 hid⟩
  have hcells : db.cells? Store.decisionsTable id = some row.cells := by
    refine (cells?_eq ht id).trans ?_
    rw [Table.cells?, hfound]
    rfl
  obtain ⟨d, -, hdcells⟩ := h id row.cells hcells
  obtain ⟨number, cells⟩ := row
  dsimp only at hdcells
  rw [hdcells]
  exact ⟨rfl, rfl, rfl⟩

namespace Decision

/-- A row has the status that is looked for if that is the one of its decision. -/
theorem satisfies_status {t : Table} (hkeyed : t.IsTextKeyed)
    (hcolumn : t.columnIndex? "status" = some 4) {row : Row}
    (hcell : row.cell 4 = .text (ofRow row).status.text) (status : Status) :
    t.satisfies [("status", .text status.text)] row = true ↔ (ofRow row).status = status := by
  have htext : t.satisfies [("status", .text status.text)] row =
      decide (row.cell 4 = .text status.text) := Table.satisfies_text hkeyed hcolumn status.text row
  rw [htext, decide_eq_true_eq, hcell, Value.text.injEq]
  exact ⟨fun heq => congrArg Status.mk heq, fun heq => congrArg Status.text heq⟩

/-- A row that is sorted before another by time and id is that of a decision that comes first. -/
theorem precedes_ofRow {a b : Row} (haid : a.cell 0 = .text (ofRow a).id)
    (hacreated : a.cell 1 = .text (ofRow a).createdAt) (hbid : b.cell 0 = .text (ofRow b).id)
    (hbcreated : b.cell 1 = .text (ofRow b).createdAt)
    (h : Direction.ascending.Separates (a.ranks [1, 0]) (b.ranks [1, 0])) :
    (ofRow a).Precedes (ofRow b) := by
  rw [precedes_iff, Prod.Lex.toLex_lt_toLex]
  simpa [Direction.Separates, Row.ranks, haid, hacreated, hbid, hbcreated, Value.rank,
    List.cons_lt_cons_iff] using h

end Decision

namespace Store.IsInService

variable {s : Store} (h : s.IsInService)
include h

/-- Where the engine keeps nulls out, each row is that of a decision. -/
theorem holdsDecisions (hfilled : s.database.IsFilled) : s.database.HoldsDecisions := by
  obtain ⟨t, ht, hl, hk⟩ := h.exists_table (m := .decisions) (by decide)
  intro id cells hcells
  have hfound : s.database.cells? Migration.decisions.shape.table id = some cells := hcells
  rw [Database.cells?_eq ht, Table.cells?, Option.map_eq_some_iff] at hfound
  obtain ⟨row, hrow, rfl⟩ := hfound
  obtain ⟨hmem, hkey⟩ := Table.mem_of_row? hrow
  have hcell := Row.hasKey_iff.1 hkey
  have htext : ∀ i < 5, ∃ s, row.cell i = .text s := by
    intro i hi
    by_cases hzero : i = 0
    · exact ⟨id, by rw [hzero, hcell]⟩
    · exact Value.exists_text (Row.isTextual_cell (hk.textual row hmem) i)
        (hfilled.cell_ne_null ht hl hmem i hi hzero)
  refine ⟨.ofRow row, ?_, exists_decisionCells ((hk.width row hmem).trans hl.length_eq) htext⟩
  simp [Decision.ofRow, Row.text, hcell, Value.text?]

/-- Whatever is done to a store whose rows are decisions, they stay decisions. -/
theorem holdsDecisions_run (hd : s.database.HoldsDecisions) (op : Operation) :
    (op.run s).database.HoldsDecisions := by
  have hcells : (op.run s).database.cells? decisionsTable =
      op.onCells .decisions (s.database.cells? decisionsTable) :=
    h.cells?_run op (m := .decisions) (by decide)
  unfold Database.HoldsDecisions
  rw [hcells]
  cases op with
  | insertDecision new =>
    rw [Operation.onCells_of_target rfl]
    intro id cells hfound
    by_cases hid : id = new.id
    · subst hid
      rw [Function.update_self] at hfound
      cases hold : s.database.cells? decisionsTable new.id with
      | none =>
        rw [hold] at hfound
        cases hfound
        exact ⟨new, rfl, rfl⟩
      | some old =>
        rw [hold] at hfound
        cases hfound
        exact hd _ _ hold
    · rw [Function.update_of_ne hid] at hfound
      exact hd id cells hfound
  | updateStatus target status =>
    rw [Operation.onCells_of_target rfl]
    intro id cells hfound
    by_cases hid : id = target
    · subst hid
      rw [Function.update_self] at hfound
      obtain ⟨old, hold, rfl⟩ := Option.map_eq_some_iff.1 hfound
      obtain ⟨d, hdid, rfl⟩ := hd _ _ hold
      exact ⟨{ d with status }, hdid, rfl⟩
    · rw [Function.update_of_ne hid] at hfound
      exact hd id cells hfound
  | setOverride _ _ _ | clearOverride _ | getOverride _ | listOverrides | isProcessed _
  | recentEvents _ | getDecision _ | decisionsWithStatus _ _ | markEvent _ _ _ => exact hd

/-! ## The table as a map -/

/-- An operation does to the table of decisions what it is to do to the map. -/
theorem decision?_run (hd : s.database.HoldsDecisions) (op : Operation) :
    (op.run s).database.decision? = op.onDecisions s.database.decision? := by
  unfold Database.decision?
  cases op with
  | insertDecision d =>
    rw [h.view_run Decision.ofRow rfl]
    show Function.update _ _ _ = Function.update _ _ _
    unfold Database.view
    cases s.database.cells? Migration.decisions.shape.table d.id <;> rfl
  | updateStatus id status =>
    rw [h.view_run Decision.ofRow rfl]
    show Function.update _ _ _ = Function.update _ _ _
    unfold Database.view
    cases hold : s.database.cells? Migration.decisions.shape.table id with
    | none => rfl
    | some cells =>
      obtain ⟨d, -, rfl⟩ := hd id cells hold
      rfl
  | setOverride _ _ _ | clearOverride _ | getOverride _ | listOverrides | isProcessed _
  | recentEvents _ | getDecision _ | decisionsWithStatus _ _ | markEvent _ _ _ =>
    apply h.view_run_of_ne Decision.ofRow (by decide)
    intro key htarget
    cases htarget

/-! ## Looks -/

/-- Asking for a decision gives what the map has. -/
theorem getDecision_answer (id : String) :
    (s.getDecision id).2 = .ok (s.database.decision? id) := by
  obtain ⟨t, ht, hl, hk⟩ := h.exists_table (m := .decisions) (by decide)
  have hkeyed := hl.isTextKeyed (builtIn_textKeyed .decisions (by decide))
  have hcolumn : t.columnIndex? "decision_id" = some 0 :=
    (hl.columnIndex? _).trans (by decide +kernel)
  have hhead : ((Query.decision id).rows t).head? = t.row? id := by
    apply Query.head?_rows_of_key hk
    · simp [Query.decision]
    · intro row
      exact Table.satisfies_text hkeyed hcolumn id row
  rw [getDecision_eq h.access h.attuned ht hl hk.textual, hhead]
  exact congrArg Except.ok (Database.view_eq ht (fun _ => rfl) id).symm

/-- The listing shows the first ones of the decisions with the status. -/
theorem decisionsWithStatus_answer (hd : s.database.HoldsDecisions) (status : Status)
    (limit : Int) :
    ∃ l, (s.decisionsWithStatus status limit).2 = .ok (l.take (listingLimit limit)) ∧
      Enumerates (fun d => s.database.decision? d.id = some d ∧ d.status = status)
        Decision.Precedes l := by
  obtain ⟨t, ht, hl, hk⟩ := h.exists_table (m := .decisions) (by decide)
  have hkeyed := hl.isTextKeyed (builtIn_textKeyed .decisions (by decide))
  have hcolumn : t.columnIndex? "status" = some 4 := (hl.columnIndex? _).trans (by decide +kernel)
  have hplaces : t.places ["created_at", "decision_id"] = [1, 0] :=
    (hl.places _).trans (by decide +kernel)
  have hcell := fun (row : Row) (hrow : row ∈ t.rows) => hd.cell_of_mem ht hk hrow
  refine ⟨((Query.decisionsWithStatus status limit).selected t).map .ofRow, ?_, ?_⟩
  · rw [decisionsWithStatus_eq h.access h.attuned ht hl hk.textual, Query.rows_eq_take rfl,
      List.map_take]
  · have horder : (Query.decisionsWithStatus status limit).order =
        ["created_at", "decision_id"].map fun name => (name, .ascending) := rfl
    apply Query.enumerates_selected hk.textual horder hk
    · rw [hplaces]
      simp
    · intro d
      have hview : s.database.decision? d.id = some d ↔
          ∃ row ∈ t.rows, Decision.ofRow row = d :=
        Database.view_eq_some_iff ht (fun _ => rfl) hk fun _ => rfl
      have hsatisfies : ∀ row ∈ t.rows,
          (t.satisfies (Query.decisionsWithStatus status limit).criteria row = true ↔
            (Decision.ofRow row).status = status) := fun row hrow =>
        Decision.satisfies_status hkeyed hcolumn (hcell row hrow).2.2 status
      constructor
      · rintro ⟨hfound, hstatus⟩
        obtain ⟨row, hrow, rfl⟩ := hview.1 hfound
        exact ⟨row, hrow, (hsatisfies row hrow).2 hstatus, rfl⟩
      · rintro ⟨row, hrow, hselected, rfl⟩
        exact ⟨hview.2 ⟨row, hrow, rfl⟩, (hsatisfies row hrow).1 hselected⟩
    · intro a ha b hb hseparates
      rw [hplaces] at hseparates
      obtain ⟨haid, hacreated, -⟩ := hcell a ha
      obtain ⟨hbid, hbcreated, -⟩ := hcell b hb
      exact Decision.precedes_ofRow haid hacreated hbid hbcreated hseparates

/-- The operations on decisions answer what the map says. -/
theorem answer_decisions (hd : s.database.HoldsDecisions) {op : Operation}
    (hop : op.IsOnDecisions) :
    s.database.decision?.Answers op (op.answer s) := by
  have hsome : ∀ id, (s.database.decision? id).isSome =
      (s.database.cells? Migration.decisions.shape.table id).isSome :=
    Database.isSome_view s.database .decisions Decision.ofRow
  cases op with
  | insertDecision d =>
    by_cases hrepeats : (Operation.insertDecision d).Repeats s.database
    · obtain ⟨table, hanswer⟩ := h.answer_repeat hrepeats
      rw [hanswer]
      exact .refuse ((hsome d.id).trans (Operation.repeats_insertDecision.1 hrepeats)) rfl
    · have hnew : s.database.decision? d.id = none := by
        rw [← Option.not_isSome_iff_eq_none, hsome]
        exact fun hthere => hrepeats (Operation.repeats_insertDecision.2 hthere)
      rw [h.answer_write (.insertDecision d) hrepeats (m := .decisions) rfl]
      exact .insert hnew
  | getDecision id =>
    have hanswer : (Operation.getDecision id).answer s =
        .ok (.decision (s.database.decision? id)) :=
      congrArg (Except.map Reply.decision) (h.getDecision_answer id)
    rw [hanswer]
    exact .get id
  | updateStatus id status =>
    have hanswer := h.answer_write (.updateStatus id status) (m := .decisions)
      (by rintro ⟨d, heq, -⟩; cases heq) rfl
    have hflag : ∀ old, (Operation.updateStatus id status).tell
        ((Operation.updateStatus id status).written old) = .flag old.isSome := by
      intro old
      cases old <;> rfl
    rw [hanswer, hflag, ← hsome]
    exact .update id status
  | decisionsWithStatus status limit =>
    obtain ⟨l, hlist, hlists⟩ := h.decisionsWithStatus_answer hd status limit
    have hanswer : (Operation.decisionsWithStatus status limit).answer s =
        .ok (.decisions (l.take (listingLimit limit))) :=
      congrArg (Except.map Reply.decisions) hlist
    rw [hanswer]
    exact .list hlists limit
  | setOverride _ _ _ | clearOverride _ | getOverride _ | listOverrides | isProcessed _
  | recentEvents _ | markEvent _ _ _ => cases hop

/-- What is refused changes nothing. -/
theorem database_of_error {op : Operation} {fault : Fault} (hanswer : op.answer s = .error fault) :
    (op.run s).database = s.database := by
  have hserves := Operation.serves h.access h.attuned h.healthy h.sound op
  by_cases hrepeats : op.Repeats s.database
  · exact (hserves.refuses hrepeats).2
  · obtain ⟨reply, hreply⟩ := hserves.answers hrepeats
    rw [hreply] at hanswer
    cases hanswer

end Store.IsInService

/-! ## Runs -/

namespace Store

/-- The table of decisions all along a run. -/
theorem decision?_runs {s : Store} (h : s.IsInService) (hd : s.database.HoldsDecisions)
    (ops : List Operation) :
    (runs Operation.run ops s).database.HoldsDecisions ∧
      (runs Operation.run ops s).database.decision? =
        ops.foldl Operation.onDecisions s.database.decision? := by
  induction ops generalizing s with
  | nil => exact ⟨hd, rfl⟩
  | cons op rest ih =>
    rw [List.foldl_cons, ← h.decision?_run hd op]
    exact ih (h.run op) (h.holdsDecisions_run hd op)

/-- What an operation does to the decisions of a store that holds those of a map. -/
structure ServesDecisions (m : DecisionMap) (s : Store) (op : Operation) : Prop where
  answers : m.Answers op (op.answer s)
  becomes : (op.run s).database.decision? = op.onDecisions m
  /-- What is refused changes nothing. -/
  refused : ∀ fault, op.answer s = .error fault → (op.run s).database = s.database
  /-- The rows of all other keys stay as they are. -/
  only : ∀ u key, op.target? = some (u, key) →
    s.database.OnlyRow u.shape.table key (op.run s).database

/-- **The decisions are a map.** After any run of operations over a store in service, the next one
on decisions answers from the map that the run made of the decisions, and changes it. -/
theorem decisions_as_map {s : Store} (h : s.IsInService) (hfilled : s.database.IsFilled)
    (ops : List Operation) {op : Operation} (hop : op.IsOnDecisions) :
    ServesDecisions (ops.foldl Operation.onDecisions s.database.decision?)
      (runs Operation.run ops s) op := by
  have hend := h.runs ops
  obtain ⟨hd, hmap⟩ := decision?_runs h (h.holdsDecisions hfilled) ops
  rw [← hmap]
  constructor
  · exact hend.answer_decisions hd hop
  · exact hend.decision?_run hd op
  · intro fault hanswer
    exact hend.database_of_error hanswer
  · exact (Operation.serves hend.access hend.attuned hend.healthy hend.sound op).writes

/-- A decision that is there is inserted again, one is moved to another status, and those that
stayed are listed. -/
theorem decisions_as_map_moved :
    (opened ⟨Registry.builtIn.map fun m => m.shape.asTable⟩).IsInService ∧
      (opened ⟨Registry.builtIn.map fun m => m.shape.asTable⟩).database.IsFilled ∧
      (Operation.decisionsWithStatus .pending (-1)).IsOnDecisions ∧
      ServesDecisions
        ([.insertDecision ⟨"b", "2024", "", "{}", .pending⟩,
          .insertDecision ⟨"a", "2024", " ", "", .pending⟩,
          .insertDecision ⟨"a", "", "", "", .applied⟩, .updateStatus "b" ⟨" pending"⟩].foldl
            Operation.onDecisions
            (opened ⟨Registry.builtIn.map fun m => m.shape.asTable⟩).database.decision?)
        (runs Operation.run
          [.insertDecision ⟨"b", "2024", "", "{}", .pending⟩,
            .insertDecision ⟨"a", "2024", " ", "", .pending⟩,
            .insertDecision ⟨"a", "", "", "", .applied⟩, .updateStatus "b" ⟨" pending"⟩]
          (opened ⟨Registry.builtIn.map fun m => m.shape.asTable⟩))
        (.decisionsWithStatus .pending (-1)) := by
  have hservice := isInService_builtIn
  have hfilled : (opened ⟨Registry.builtIn.map fun m => m.shape.asTable⟩).database.IsFilled := by
    decide +kernel
  exact ⟨hservice, hfilled, trivial, decisions_as_map hservice hfilled _ trivial⟩

/-- The connection asked for a decision when their table had the key under another spelling. Of the
table that replaced it, which is healthy, it cannot read one. -/
theorem not_servesDecisions_replaced :
    let s := (Operation.insertDecision ⟨"a", "", "", "{}", .pending⟩).run
      (replaced .decisions (.getDecision "a"))
    s.access = .opened .free ∧ s.database.IsHealthy ∧ s.database.IsSound ∧ s.database.IsFilled ∧
      ¬ ServesDecisions s.database.decision? s (.getDecision "a") := by
  intro s
  obtain ⟨hanswer, haccess, hhealthy, hsound, hfilled⟩ :
      (Operation.getDecision "a").answer s = .error (.unreadable "decision_id") ∧
        s.access = .opened .free ∧ s.database.IsHealthy ∧ s.database.IsSound ∧
        s.database.IsFilled := by decide +kernel
  refine ⟨haccess, hhealthy, hsound, hfilled, fun hserves => ?_⟩
  have hanswers := hserves.answers
  rw [hanswer] at hanswers
  cases hanswers

end Store

end DispatchStore
