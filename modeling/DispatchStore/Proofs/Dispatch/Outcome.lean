import DispatchStore.Proofs.Store.Events
import DispatchStore.Proofs.Table.Lookup

/-!
# The outcome of a dispatch

What a dispatch comes to over a store of any kind: one that is closed or held by somebody else, with
a ledger of events of other columns or none, or over a connection that remembers another schema. The
handler is any function, and leaves the store as it likes.

* **Asking** (`Store.isProcessed_answer`): if the ledger can be asked, the answer says whether it
  lists the id; the store stays as it is in any case.
* **Marking** (`Store.markEvent_answer`): if the ledger cannot be written, the store stays as it is.
  Otherwise a listed id is left alone, and for any other one row is added.
* **The dispatch** (`Store.dispatch_outcome`): how it ends and which of these states it leaves.
-/

namespace DispatchStore

open Store (eventsTable)

/-- The ledger of events has a row with the id, as the engine compares it with the column. -/
def Lists (db : Database) (id : String) : Prop :=
  ∃ t, db.find? eventsTable = some t ∧
    ∃ row ∈ t.rows, t.satisfies [("event_id", .text id)] row = true

/-- One row was added to the ledger of events, and nothing else was changed: a row with the given
id, type and time, as the columns hold them. It is the only one with the id. -/
def Adds (id : String) (eventType : Option String) (now : Timestamp) (db db' : Database) : Prop :=
  ∃ t number, db.find? eventsTable = some t ∧
    let row : Row := ⟨number, t.cellsOf [("event_id", .text id),
      ("event_type", eventType.elim .null .text), ("processed_at", .text now.iso)]⟩
    (db' = db.modify eventsTable fun _ => { t with rows := t.rows ++ [row] }) ∧
      t.satisfies [("event_id", .text id)] row = true ∧
      ∀ old ∈ t.rows, t.satisfies [("event_id", .text id)] old = false

/-! ## Asking -/

namespace Store

/-- A ledger that can be asked tells whether it lists the id. -/
theorem isProcessed_answer {s : Store} {id : String} {b : Bool} (h : (s.isProcessed id).2 = .ok b) :
    b = true ↔ Lists s.database id := by
  have hread : (s.isProcessed id).2 =
      (s.read (asking id)).2.bind fun records => .ok !records.isEmpty := rfl
  rw [hread] at h
  cases hrecords : (s.read (asking id)).2 with
  | error fault =>
    rw [hrecords] at h
    cases h
  | ok records =>
    rw [hrecords] at h
    obtain ⟨t, names, ht, -, rfl⟩ := exists_of_read hrecords
    have hb : (!((((asking id).rows t).map (t.cells (asking id).columns)).map
        (List.zip names)).isEmpty) = b := Except.ok.inj h
    have hfind : s.database.find? eventsTable = some t := ht
    rw [← hb, Bool.not_eq_true', List.isEmpty_map, List.isEmpty_map, List.isEmpty_eq_false_iff,
      ne_eq, Query.rows_eq_nil_iff (by simp [asking])]
    unfold Lists
    rw [hfind]
    simp [asking]

end Store

/-! ## Marking -/

/-- Marking that was carried out found the id in the ledger and left it alone, or added a row. -/
theorem exists_of_marking {db db' : Database} {lock : WriteLock} {now : Timestamp} {id : String}
    {eventType : Option String} {n : Nat} (hproper : db.IsProper)
    (h : (marking now id eventType).exec lock db = .ok (db', n)) :
    (n = 0 ∧ Lists db id ∧ db' = db) ∨ (n = 1 ∧ ¬ Lists db id ∧ Adds id eventType now db db') := by
  rcases Statement.exec_eq_ok h with ⟨hcheck, -, -⟩ | ⟨hcheck, happly⟩
  · obtain ⟨hwrites, -⟩ := Statement.check_keep hcheck
    cases hwrites
  obtain ⟨-, t, ht, -, hkey⟩ := Statement.check_keep hcheck
  obtain ⟨u, hu, happly⟩ := bind_eq_ok_iff.1 happly
  rw [Option.some.inj ((Statement.find?_of_table hu).symm.trans ht)] at happly
  obtain ⟨⟨t', k⟩, hinsert, happly⟩ := bind_eq_ok_iff.1 happly
  cases happly
  obtain ⟨i, c, hkeyed⟩ := Table.exists_isKeyedBy (hproper.table ht) hkey
  have hmore : ∀ v ∈ [("event_type", eventType.elim Value.null .text),
      ("processed_at", .text now.iso)], t.isRowNumber v.1 = false := by
    have hnames : ∀ name ∈ ["event_type", "processed_at"],
        Text.sameLetters "event_id" name = false ∧
          Table.rowNumberNames.any (Text.sameLetters name) = false := by decide
    intro v hv
    obtain ⟨hne, hother⟩ := hnames v.1 (List.mem_map_of_mem (f := Prod.fst) hv)
    exact hkeyed.isRowNumber_of_ne hne hother
  have hlists : Lists db id ↔ ∃ row ∈ t.rows, t.satisfies [("event_id", .text id)] row = true := by
    unfold Lists
    rw [ht]
    simp
  rcases hkeyed.insert_keep hmore hinsert with ⟨rfl, rfl, hfound⟩ | ⟨number, rfl, rfl, hold, hnew⟩
  · exact .inl ⟨rfl, hlists.2 hfound, hproper.modify_self ht⟩
  · refine .inr ⟨rfl, fun hlisted => ?_, t, number, ht, rfl, hnew, hold⟩
    obtain ⟨row, hrow, hsat⟩ := hlists.1 hlisted
    rw [hold row hrow] at hsat
    cases hsat

/-- How marking ends: it fails and leaves the store as it is, or the id is in the ledger
afterwards. -/
theorem Store.markEvent_answer (s : Store) (now : Timestamp) (id : String)
    (eventType : Option String) :
    let marked := s.markEvent now id eventType
    (∀ fault, marked.2 = .error fault → s.SameContent marked.1) ∧
      ∀ b, marked.2 = .ok b → marked.1.access = s.access ∧ (s.database.IsProper →
        (Lists s.database id → b = false ∧ marked.1.database = s.database) ∧
        (¬ Lists s.database id → b = true ∧
          Adds id eventType now s.database marked.1.database)) := by
  have hmark : (s.markEvent now id eventType).2 =
      (s.write (marking now id eventType)).2.map fun n => decide (0 < n) := rfl
  have hstore : (s.markEvent now id eventType).1 = (s.write (marking now id eventType)).1 := rfl
  dsimp only
  rw [hmark, hstore]
  rcases s.write_cases (marking now id eventType) with ⟨fault, hfault, hsame⟩ |
    ⟨n, hn, haccess, hexec⟩
  · rw [hfault]
    refine ⟨fun _ _ => hsame, fun b hb => ?_⟩
    cases hb
  · rw [hn]
    refine ⟨fun fault hfault => ?_, fun b hb => ⟨haccess, fun hproper => ?_⟩⟩
    · cases hfault
    cases hb
    rcases exists_of_marking hproper hexec with ⟨rfl, hlisted, hdatabase⟩ | ⟨rfl, hnot, hadds⟩
    · exact ⟨fun _ => ⟨rfl, hdatabase⟩, fun hnot => absurd hlisted hnot⟩
    · exact ⟨fun hlisted => absurd hlisted hnot, fun _ => ⟨rfl, hadds⟩⟩

/-! ## The dispatch -/

/-- What a dispatch comes to that called the handler, which ended as `handled`. -/
structure EndsHandled (now : Timestamp) (e : Event) (handled : Store × Except String Unit)
    (d : Dispatched) : Prop where
  calls : d.calls = 1
  /-- A failure of the handler is reported, and the store is left as the handler left it. -/
  failed : ∀ reason, handled.2 = .error reason →
    d.outcome = .error (.handler reason) ∧ (StoreError.handler reason).isKeyViolation = false ∧
      d.store = handled.1
  /-- So it is if the ledger cannot be written. -/
  unmarked : handled.2 = .ok () → ∀ fault,
    (handled.1.markEvent now e.id (some e.eventType)).2 = .error fault →
    d.outcome = .error (.database fault) ∧ handled.1.SameContent d.store
  /-- Otherwise the event is processed. Its row is added unless the handler left one in the
  ledger. -/
  processed : handled.2 = .ok () → ∀ b,
    (handled.1.markEvent now e.id (some e.eventType)).2 = .ok b →
    d.outcome = .ok .processed ∧ d.store.access = handled.1.access ∧
      (handled.1.database.IsProper →
        (Lists handled.1.database e.id → d.store.database = handled.1.database) ∧
        (¬ Lists handled.1.database e.id →
          Adds e.id (some e.eventType) now handled.1.database d.store.database))

/-- What a dispatch comes to. -/
structure EndsDispatched (s : Store) (now : Timestamp) (handler : Handler) (e : Event)
    (d : Dispatched) : Prop where
  calls : d.calls ≤ 1
  /-- Asking the ledger leaves the store as it is for the handler. -/
  asked : s.SameContent (s.isProcessed e.id).1
  unasked : ∀ fault, (s.isProcessed e.id).2 = .error fault →
    d.calls = 0 ∧ d.outcome = .error (.database fault) ∧ s.SameContent d.store
  listed : ∀ b, (s.isProcessed e.id).2 = .ok b → Lists s.database e.id →
    d.calls = 0 ∧ d.outcome = .ok .duplicate ∧ s.SameContent d.store
  handled : ∀ b, (s.isProcessed e.id).2 = .ok b → ¬ Lists s.database e.id →
    EndsHandled now e (handler e (s.isProcessed e.id).1) d

namespace Store

section Dispatch

variable {s : Store} {now : Timestamp} {handler : Handler} {e : Event}

/-- If the ledger cannot be asked, the handler is not called and the fault is reported. -/
theorem dispatch_unasked {fault : Fault} (h : (s.isProcessed e.id).2 = .error fault) :
    s.dispatch now handler e = ⟨(s.isProcessed e.id).1, 0, .error (.database fault)⟩ := by
  unfold dispatch
  generalize s.isProcessed e.id = asked at h
  obtain ⟨s₁, answer⟩ := asked
  dsimp only at h
  rw [h]

/-- If the ledger lists the event, the handler is not called. -/
theorem dispatch_listed (h : (s.isProcessed e.id).2 = .ok true) :
    s.dispatch now handler e = ⟨(s.isProcessed e.id).1, 0, .ok .duplicate⟩ := by
  unfold dispatch
  generalize s.isProcessed e.id = asked at h
  obtain ⟨s₁, answer⟩ := asked
  dsimp only at h
  rw [h]

/-- If the ledger does not list the event, the handler is called, and the end depends on how it
ended. -/
theorem dispatch_called (h : (s.isProcessed e.id).2 = .ok false) :
    EndsHandled now e (handler e (s.isProcessed e.id).1) (s.dispatch now handler e) := by
  unfold dispatch
  generalize s.isProcessed e.id = asked at h
  obtain ⟨s₁, answer⟩ := asked
  dsimp only at h ⊢
  rw [h]
  dsimp only
  obtain ⟨s₂, result⟩ := handler e s₁
  cases result with
  | error reason =>
    refine ⟨rfl, fun _ hreason => ?_, fun hok => ?_, fun hok => ?_⟩
    · cases hreason
      exact ⟨rfl, rfl, rfl⟩
    · cases hok
    · cases hok
  | ok u =>
    obtain ⟨hrefused, hmarked⟩ := s₂.markEvent_answer now e.id (some e.eventType)
    refine ⟨?_, fun _ hreason => ?_, fun _ fault hfault => ?_, fun _ b hb => ?_⟩
    · dsimp only
      obtain ⟨s₃, answer⟩ := s₂.markEvent now e.id (some e.eventType)
      cases answer <;> rfl
    · cases hreason
    · have hsame := hrefused fault hfault
      dsimp only at hfault hsame ⊢
      generalize s₂.markEvent now e.id (some e.eventType) = marked at hfault hsame
      obtain ⟨s₃, answer⟩ := marked
      dsimp only at hfault hsame
      subst hfault
      exact ⟨rfl, hsame⟩
    · obtain ⟨haccess, hledger⟩ := hmarked b hb
      dsimp only at hb haccess hledger ⊢
      generalize s₂.markEvent now e.id (some e.eventType) = marked at hb haccess hledger
      obtain ⟨s₃, answer⟩ := marked
      dsimp only at hb haccess hledger
      subst hb
      refine ⟨rfl, haccess, fun hproper => ?_⟩
      obtain ⟨hthere, hnew⟩ := hledger hproper
      exact ⟨fun hlisted => (hthere hlisted).2, fun hnot => (hnew hnot).2⟩

end Dispatch

/-- **One dispatch**, whatever the store, the handler and the event are. If the ledger cannot be
asked the event is not handled, and if it lists the id the event is a duplicate; the store stays as
it is. Otherwise the handler is called once. -/
theorem dispatch_outcome (s : Store) (now : Timestamp) (handler : Handler) (e : Event) :
    EndsDispatched s now handler e (s.dispatch now handler e) := by
  have hasked : s.SameContent (s.isProcessed e.id).1 := s.readAs_sameContent _ _
  have hanswer : ∀ b, (s.isProcessed e.id).2 = .ok b → (b = true ↔ Lists s.database e.id) :=
    fun b => isProcessed_answer
  have hcalled : ∀ b, (s.isProcessed e.id).2 = .ok b → ¬ Lists s.database e.id →
      EndsHandled now e (handler e (s.isProcessed e.id).1) (s.dispatch now handler e) := by
    intro b hb hnot
    cases b with
    | true => exact absurd ((hanswer true hb).1 rfl) hnot
    | false => exact dispatch_called hb
  refine ⟨?_, hasked, fun fault hfault => ?_, fun b hb hlisted => ?_, hcalled⟩
  · cases hresult : (s.isProcessed e.id).2 with
    | error fault =>
      rw [dispatch_unasked hresult]
      exact Nat.zero_le 1
    | ok b =>
      cases b with
      | true =>
        rw [dispatch_listed hresult]
        exact Nat.zero_le 1
      | false => exact (dispatch_called hresult).calls.le
  · rw [dispatch_unasked hfault]
    exact ⟨rfl, rfl, hasked⟩
  · have hb' : b = true := (hanswer b hb).2 hlisted
    rw [hb'] at hb
    rw [dispatch_listed hb]
    exact ⟨rfl, rfl, hasked⟩

end Store

end DispatchStore
