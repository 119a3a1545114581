import DispatchStore.Proofs.Store.Contents
import Mathlib.Data.Prod.Lex

/-!
# The ledger of events as a map

A store in service answers for its ledger as a map from ids to rows (`Database.event?`): asking
tells whether the map has the id (`Store.IsInService.isProcessed_answer`), and marking tells whether
it did not (`Store.IsInService.markEvent_answer`). Nothing but marking changes the map
(`Store.IsInService.event?_run`). A listing shows its rows from the latest one on, as many as the
limit allows (`Store.IsInService.recentEvents_answer`).
-/

namespace DispatchStore

/-! ## Answers -/

namespace Database

/-- The row of an event in the ledger. -/
def event? (db : Database) : String → Option ProcessedEvent := db.view .events .ofRow

end Database

namespace Store.IsInService

variable {s : Store} (h : s.IsInService)
include h

/-- Asking tells whether the map has the id. -/
theorem isProcessed_answer (id : String) :
    (s.isProcessed id).2 = .ok (s.database.event? id).isSome := by
  obtain ⟨t, ht, hl, hk⟩ := h.exists_table (m := .events) (by decide)
  have hkeyed := hl.isTextKeyed (builtIn_textKeyed .events (by decide))
  have hhead : ((asking id).rows t).head? = t.row? id := by
    apply Query.head?_rows_of_key hk
    · simp [asking]
    · intro row
      exact Table.satisfies_text hkeyed (events_columnIndex? hl) id row
  have hview : s.database.event? id = (t.row? id).map .ofRow :=
    Database.view_eq ht (fun _ => rfl) id
  rw [isProcessed_eq h.access h.attuned ht hl, hview, Option.isSome_map, ← hhead]
  cases (asking id).rows t <;> rfl

/-- Marking tells whether the map did not have the id yet. -/
theorem markEvent_answer (now : Timestamp) (id : String) (eventType : Option String) :
    (s.markEvent now id eventType).2 = .ok (s.database.event? id).isNone := by
  have hanswer := h.answer_write (.markEvent now id eventType) (m := .events)
    (by rintro ⟨d, heq, -⟩; cases heq) rfl
  have hflag : ∀ old, (Operation.markEvent now id eventType).tell
      ((Operation.markEvent now id eventType).written old) = .flag (!old.isSome) := by
    intro old
    cases old <;> rfl
  have hsome : (s.database.event? id).isSome =
      (s.database.cells? Migration.events.shape.table id).isSome :=
    Database.isSome_view s.database .events ProcessedEvent.ofRow id
  rw [hflag, ← hsome, Option.not_isSome] at hanswer
  change (s.markEvent now id eventType).2.map Reply.flag = _ at hanswer
  cases hresult : (s.markEvent now id eventType).2 with
  | error fault =>
    rw [hresult] at hanswer
    cases hanswer
  | ok b =>
    rw [hresult] at hanswer
    exact congrArg Except.ok (Reply.flag.inj (Except.ok.inj hanswer))

/-- Operations that do not mark leave the ledger as it is. -/
theorem event?_run {op : Operation} (hop : ∀ id, ¬ op.Marks id) :
    (op.run s).database.event? = s.database.event? := by
  apply h.view_run_of_ne ProcessedEvent.ofRow (by decide)
  intro key htarget
  cases op with
  | markEvent now id eventType => exact hop id ⟨now, eventType, rfl⟩
  | setOverride _ _ _ | clearOverride _ | getOverride _ | listOverrides | isProcessed _
  | recentEvents _ | insertDecision _ | getDecision _ | updateStatus _ _
  | decisionsWithStatus _ _ => cases htarget

/-- A run of operations that do not mark leaves the ledger as it is. -/
theorem event?_runs {ops : List Operation} (hops : ∀ op ∈ ops, ∀ id, ¬ op.Marks id) :
    (DispatchStore.runs Operation.run ops s).database.event? = s.database.event? := by
  induction ops generalizing s with
  | nil => rfl
  | cons op rest ih =>
    have hrest := ih (h.run op) fun o ho => hops o (List.mem_cons_of_mem _ ho)
    exact hrest.trans (h.event?_run (hops op List.mem_cons_self))

end Store.IsInService

/-! ## The latest events -/

namespace ProcessedEvent

/-- The time at which an event was recorded, as it is written; none comes before all others. -/
def time (e : ProcessedEvent) : WithBot String := e.processedAt.elim ⊥ fun s => (s : WithBot String)

/-- One event comes before another in a listing: it is the later one, or of the same time and with
the larger id. -/
def Precedes (a b : ProcessedEvent) : Prop := b.time < a.time ∨ b.time = a.time ∧ b.id < a.id

/-- An event comes before those of a smaller time, and of a smaller id at one time. -/
theorem precedes_iff {a b : ProcessedEvent} :
    a.Precedes b ↔ toLex (b.time, b.id) < toLex (a.time, a.id) := by
  rw [Prod.Lex.toLex_lt_toLex]
  exact Iff.rfl

/-- Of two events at most one comes before the other. -/
theorem precedes_asymm {a b : ProcessedEvent} (h : a.Precedes b) : ¬ b.Precedes a := by
  rw [precedes_iff] at h ⊢
  exact lt_asymm h

/-- The third cell of a row ranks as the time of its event. -/
theorem rank_time {row : Row} (h : (row.cell 2).isTextual = true) :
    (row.cell 2).rank = (ofRow row).time := by
  unfold time ofRow Row.text?
  cases hcell : row.cell 2 with
  | null => rfl
  | text s => rfl
  | int n =>
    rw [hcell] at h
    cases h
  | real x =>
    rw [hcell] at h
    cases h

/-- A row that is sorted behind another by time and id is that of an event that comes first. -/
theorem precedes_ofRow {a b : Row} {id id' : String} (hid : a.cell 0 = .text id)
    (hid' : b.cell 0 = .text id') (ha : (a.cell 2).isTextual = true)
    (hb : (b.cell 2).isTextual = true)
    (h : Direction.descending.Separates (a.ranks [2, 0]) (b.ranks [2, 0])) :
    (ofRow a).Precedes (ofRow b) := by
  have hranks : [(ofRow b).time, (id' : WithBot String)] <
      [(ofRow a).time, (id : WithBot String)] := by
    simpa only [Direction.Separates, Row.ranks, List.map_cons, List.map_nil, rank_time ha,
      rank_time hb, hid, hid', Value.rank_text] using h
  have hids : (ofRow a).id = id ∧ (ofRow b).id = id' := by
    simp [ofRow, Row.text, hid, hid', Value.text?]
  unfold Precedes
  rw [hids.1, hids.2]
  simpa [List.cons_lt_cons_iff] using hranks

end ProcessedEvent

/-- The listing shows the first ones of all events. -/
theorem Store.IsInService.recentEvents_answer {s : Store} (h : s.IsInService) (limit : Int) :
    ∃ l, (s.recentEvents limit).2 = .ok (l.take (listingLimit limit)) ∧
      Enumerates (fun e => s.database.event? e.id = some e) ProcessedEvent.Precedes l := by
  obtain ⟨t, ht, hl, hk⟩ := h.exists_table (m := .events) (by decide)
  have hplaces : t.places ["processed_at", "event_id"] = [2, 0] :=
    (hl.places _).trans (by decide +kernel)
  have horder : (Query.recentEvents limit).order =
      ["processed_at", "event_id"].map fun name => (name, .descending) := rfl
  refine ⟨((Query.recentEvents limit).selected t).map .ofRow, ?_, ?_⟩
  · rw [recentEvents_eq h.access h.attuned ht hl hk.textual, Query.rows_eq_take rfl, List.map_take]
  · apply Query.enumerates_selected hk.textual horder hk
    · rw [hplaces]
      simp
    · intro e
      have hview : s.database.event? e.id = some e ↔ ∃ row ∈ t.rows, ProcessedEvent.ofRow row = e :=
        Database.view_eq_some_iff ht (fun _ => rfl) hk fun _ => rfl
      rw [hview]
      refine exists_congr fun row => and_congr_right fun _ => ?_
      have hsatisfies : t.satisfies (Query.recentEvents limit).criteria row = true := rfl
      rw [hsatisfies, eq_self, true_and]
    · intro a ha b hb hseparates
      rw [hplaces] at hseparates
      obtain ⟨id, hid⟩ := hk.keyed a ha
      obtain ⟨id', hid'⟩ := hk.keyed b hb
      exact ProcessedEvent.precedes_ofRow hid hid' (Row.isTextual_cell (hk.textual a ha) 2)
        (Row.isTextual_cell (hk.textual b hb) 2) hseparates

end DispatchStore
