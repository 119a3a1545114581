import DispatchStore.Proofs.Dispatch.Alike
import DispatchStore.Proofs.Store.EventMap
import DispatchStore.Proofs.Time.TextOrder

/-!
# The ledger of events as a log

The ledger grows by the first recording of each event and never changes otherwise. A run of actions
makes a log of first recordings (`log`), and the ledger is that log (`ledger_is_log`): recording
tells whether the log has the event, and what the log has is what the rows show. If the clock
advances by a millisecond at least from one recording to the next, the order of the log is also that
of the times as they are written, so that the latest events are the last ones of the log.

A handler follows a plan, and may do to the store what operations do, except that it does not mark
events itself.
-/

namespace DispatchStore

/-- What has its key for itself is found by it. -/
theorem find?_of_nodup {α β : Type} [DecidableEq β] {key : α → β} {l : List α}
    (h : (l.map key).Nodup) {a : α} (ha : a ∈ l) : (l.find? fun x => key x == key a) = some a := by
  have hsome : (l.find? fun x => key x == key a).isSome = true :=
    List.find?_isSome.2 ⟨a, ha, beq_self_eq_true _⟩
  obtain ⟨b, hb⟩ := Option.isSome_iff_exists.1 hsome
  have hkey : key b = key a := by simpa using List.find?_some hb
  rw [hb, List.inj_on_of_nodup_map h (List.mem_of_find?_eq_some hb) ha hkey]

/-! ## Recordings -/

/-- The recording of an event. -/
structure Recording where
  now : Timestamp
  id : String
  eventType : Option String

namespace Recording

/-- The row that a first recording leaves. -/
def event (r : Recording) : ProcessedEvent := ⟨r.id, r.eventType, some r.now.iso⟩

/-- A log after one more recording. Only the first one of an event is entered. -/
def enter (log : List Recording) (r : Recording) : List Recording :=
  if log.any fun x => x.id == r.id then log else log ++ [r]

/-- The row of an event in a log. -/
def find? (log : List Recording) (id : String) : Option ProcessedEvent :=
  (log.find? fun r => r.id == id).map event

variable {log : List Recording}

/-- An event has no row in a log exactly if no entry has its id. -/
theorem find?_eq_none_iff {id : String} : find? log id = none ↔ ∀ r ∈ log, r.id ≠ id := by
  unfold find?
  rw [Option.map_eq_none_iff, List.find?_eq_none]
  simp

/-- A log has an entry of an id exactly if it has a row for it. -/
theorem any_eq_isSome (log : List Recording) (id : String) :
    (log.any fun r => r.id == id) = (find? log id).isSome := by
  unfold find?
  rw [Option.isSome_map, List.isSome_find?]

/-- One more entry is the row of its event, unless the event had one. -/
theorem find?_append (log : List Recording) (r : Recording) (id : String) :
    find? (log ++ [r]) id = (find? log id).or (if r.id = id then some r.event else none) := by
  unfold find?
  rw [List.find?_append, Option.map_or, List.find?_singleton]
  by_cases hid : r.id = id
  · simp [hid]
  · simp [hid]

/-- Entering a recording leaves all other events and gives its own a row, if it had none. -/
theorem find?_enter (log : List Recording) (r : Recording) :
    find? (enter log r) =
      Function.update (find? log) r.id (some ((find? log r.id).getD r.event)) := by
  unfold enter
  rw [any_eq_isSome]
  funext id
  by_cases hid : id = r.id
  · subst hid
    rw [Function.update_self]
    cases hold : find? log r.id with
    | none => simp [find?_append, hold]
    | some e => simp [hold]
  · rw [Function.update_of_ne hid]
    cases hold : find? log r.id with
    | none => simp [find?_append, Ne.symm hid]
    | some e => simp

/-- Entering keeps the ids of a log different. -/
theorem nodup_enter (h : (log.map id).Nodup) (r : Recording) : ((enter log r).map id).Nodup := by
  unfold enter
  by_cases hany : (log.any fun x => x.id == r.id) = true
  · rw [if_pos hany]
    exact h
  · rw [if_neg hany, List.map_append, List.map_singleton]
    refine List.nodup_append.2 ⟨h, List.nodup_singleton _, ?_⟩
    intro a ha b hb heq
    obtain ⟨x, hx, rfl⟩ := List.mem_map.1 ha
    rw [List.mem_singleton.1 hb] at heq
    exact hany (List.any_eq_true.2 ⟨x, hx, by simp [heq]⟩)

/-- What is in a log is found in it. -/
theorem find?_eq_some_iff (h : (log.map id).Nodup) {e : ProcessedEvent} :
    find? log e.id = some e ↔ e ∈ log.map event := by
  unfold find?
  rw [Option.map_eq_some_iff, List.mem_map]
  constructor
  · rintro ⟨r, hr, rfl⟩
    exact ⟨r, List.mem_of_find?_eq_some hr, rfl⟩
  · rintro ⟨r, hr, rfl⟩
    exact ⟨r, find?_of_nodup h hr, rfl⟩

end Recording

namespace Action

/-- What an action records unless the event is recorded. A dispatch whose handler fails records
nothing. -/
def recording? : Action → Store → Option Recording
  | operation (.markEvent now id eventType), _ => some ⟨now, id, eventType⟩
  | operation _, _ => none
  | dispatch now plan e, s =>
    match plan.verdict e (s.isProcessed e.id).1 with
    | .ok () => some ⟨now, e.id, some e.eventType⟩
    | .error _ => none

/-- The handler of a dispatch does not mark events. -/
def LeavesLedger : Action → Prop
  | dispatch _ plan _ => ∀ e s, ∀ op ∈ plan.operations e s, ∀ id, ¬ op.Marks id
  | operation _ => True

end Action

/-- The log of first recordings that actions make. -/
def log (s : Store) (actions : List Action) : List Recording :=
  ((trail Action.run s actions).filterMap fun p => p.1.recording? p.2).foldl Recording.enter []

/-! ## The ledger -/

namespace Store.IsInService

variable {s : Store} (h : s.IsInService)
include h

/-- Marking enters a recording. -/
theorem event?_mark (now : Timestamp) (id : String) (eventType : Option String)
    {log : List Recording} (hlog : s.database.event? = Recording.find? log) :
    ((Operation.markEvent now id eventType).run s).database.event? =
      Recording.find? (Recording.enter log ⟨now, id, eventType⟩) := by
  rw [Recording.find?_enter, ← hlog]
  unfold Database.event?
  rw [h.view_run ProcessedEvent.ofRow rfl]
  show Function.update _ _ _ = Function.update _ _ _
  unfold Database.view
  cases s.database.cells? Migration.events.shape.table id with
  | none => cases eventType <;> rfl
  | some cells => rfl

/-- An operation enters what it marks. -/
theorem event?_operation (op : Operation) {log : List Recording}
    (hlog : s.database.event? = Recording.find? log) :
    (op.run s).database.event? =
      Recording.find? (((Action.operation op).recording? s).elim log (Recording.enter log)) := by
  cases op with
  | markEvent now id eventType => exact h.event?_mark now id eventType hlog
  | setOverride _ _ _ | clearOverride _ | getOverride _ | listOverrides | isProcessed _
  | recentEvents _ | insertDecision _ | getDecision _ | updateStatus _ _
  | decisionsWithStatus _ _ =>
    refine (h.event?_run ?_).trans hlog
    rintro id ⟨_, _, heq⟩
    cases heq

/-- A dispatch enters the event whose handler it called and saw through. -/
theorem event?_dispatch (now : Timestamp) {plan : Plan} {e : Event}
    (hplan : (Action.dispatch now plan e).LeavesLedger) {log : List Recording}
    (hlog : s.database.event? = Recording.find? log) :
    (s.dispatch now plan.handler e).store.IsInService ∧
      (s.dispatch now plan.handler e).store.database.event? = Recording.find?
        (((Action.dispatch now plan e).recording? s).elim log (Recording.enter log)) := by
  have hasked := h.run (.isProcessed e.id)
  have hsame : ((Operation.isProcessed e.id).run s).database.event? = s.database.event? := rfl
  have hhandled := hasked.runs (plan.operations e ((Operation.isProcessed e.id).run s))
  have hledger := hasked.event?_runs (hplan e ((Operation.isProcessed e.id).run s))
  rw [hsame, hlog] at hledger
  have hrecording : (Action.dispatch now plan e).recording? s =
      match plan.verdict e ((Operation.isProcessed e.id).run s) with
      | .ok () => some ⟨now, e.id, some e.eventType⟩
      | .error _ => none := rfl
  rw [dispatch_eq, h.isProcessed_answer, hrecording, hlog]
  dsimp only
  cases hfound : (Recording.find? log e.id).isSome with
  | true =>
    -- the handler is not called, and a recording would not have been the first one
    refine ⟨hasked, ?_⟩
    rw [hsame, hlog]
    cases plan.verdict e ((Operation.isProcessed e.id).run s) with
    | error reason => rfl
    | ok u =>
      have hkept : Recording.enter log ⟨now, e.id, some e.eventType⟩ = log := by
        unfold Recording.enter
        rw [Recording.any_eq_isSome, if_pos hfound]
      exact (congrArg Recording.find? hkept).symm
  | false =>
    cases plan.verdict e ((Operation.isProcessed e.id).run s) with
    | error reason => exact ⟨hhandled, hledger⟩
    | ok u =>
      dsimp only
      rw [hhandled.markEvent_answer]
      dsimp only
      exact ⟨hhandled.run _, hhandled.event?_mark now e.id (some e.eventType) hledger⟩

/-- An action enters what it records. -/
theorem event?_act {a : Action} (ha : a.LeavesLedger) {log : List Recording}
    (hlog : s.database.event? = Recording.find? log) :
    (a.run s).IsInService ∧
      (a.run s).database.event? =
      Recording.find? ((a.recording? s).elim log (Recording.enter log)) := by
  cases a with
  | operation op => exact ⟨h.run op, h.event?_operation op hlog⟩
  | dispatch now plan e => exact h.event?_dispatch now ha hlog

/-- Actions enter what they record. -/
theorem event?_acts {actions : List Action} (ha : ∀ a ∈ actions, a.LeavesLedger)
    {log : List Recording} (hlog : s.database.event? = Recording.find? log) :
    (DispatchStore.runs Action.run actions s).IsInService ∧
      (DispatchStore.runs Action.run actions s).database.event? = Recording.find?
        (((trail Action.run s actions).filterMap fun p => p.1.recording? p.2).foldl
          Recording.enter log) := by
  induction actions generalizing s log with
  | nil => exact ⟨h, hlog⟩
  | cons a rest ih =>
    obtain ⟨hservice, hentered⟩ := h.event?_act (ha a List.mem_cons_self) hlog
    obtain ⟨hend, hall⟩ := ih hservice (fun b hb => ha b (List.mem_cons_of_mem _ hb)) hentered
    refine ⟨hend, hall.trans ?_⟩
    rw [trail, List.filterMap_cons]
    cases a.recording? s <;> rfl

end Store.IsInService

/-- In a log that actions make every event has one entry at most. -/
theorem nodup_log (s : Store) (actions : List Action) :
    ((log s actions).map Recording.id).Nodup := by
  have hfold : ∀ (recordings entered : List Recording), (entered.map Recording.id).Nodup →
      ((recordings.foldl Recording.enter entered).map Recording.id).Nodup := by
    intro recordings
    induction recordings with
    | nil => exact fun entered hentered => hentered
    | cons r rest ih => exact fun entered hentered => ih _ (Recording.nodup_enter hentered r)
  exact hfold _ [] List.nodup_nil

/-! ## Runs -/

/-- The clock advances by a millisecond at least from each entry to the next, within the years that
are written with four digits. -/
structure Recording.Advances (log : List Recording) : Prop where
  years : ∀ r ∈ log, r.now.HasShortYear
  clock : log.Pairwise fun a b => a.now.truncated.compare b.now.truncated = .lt

instance (log : List Recording) : Decidable (Recording.Advances log) :=
  decidable_of_iff ((∀ r ∈ log, r.now.HasShortYear) ∧
    log.Pairwise fun a b => a.now.truncated.compare b.now.truncated = .lt)
    ⟨fun h => ⟨h.1, h.2⟩, fun h => ⟨h.years, h.clock⟩⟩

/-- The entries of a log, the last one first, are in the order of a listing. -/
theorem Recording.Advances.enumerates {log : List Recording} (h : Advances log)
    (hnodup : (log.map Recording.id).Nodup) :
    Enumerates (fun e => find? log e.id = some e) ProcessedEvent.Precedes
      (log.reverse.map event) := by
  constructor
  · intro e
    rw [find?_eq_some_iff hnodup, List.map_reverse, List.mem_reverse]
  · rw [List.pairwise_map, List.pairwise_reverse]
    refine h.clock.imp_of_mem fun {a b} ha hb hlater => ?_
    have hkey : a.now.truncated.key < b.now.truncated.key := by
      by_contra hnot
      unfold Timestamp.compare compareOfLessAndEq at hlater
      rw [if_neg hnot] at hlater
      split_ifs at hlater
    have hiso := (Timestamp.iso_lt_iff (h.years a ha) (h.years b hb)).2 hkey
    exact .inl (WithBot.coe_lt_coe.2 hiso)

/-- The ledger of a store is a log. -/
structure Store.KeepsLog (s : Store) (log : List Recording) : Prop where
  /-- Marking tells whether this is the first recording of the event. -/
  marks : ∀ now id eventType, (s.markEvent now id eventType).2 = .ok (decide (∀ r ∈ log, r.id ≠ id))
  processed : ∀ id, (s.isProcessed id).2 = .ok (decide (∃ r ∈ log, r.id = id))
  /-- Each event has the row of its entry. -/
  rows : ∀ id, s.database.event? id = Recording.find? log id
  /-- Each event has one entry. -/
  distinct : (log.map Recording.id).Nodup
  /-- A listing shows the last entries, the latest one first. -/
  recent : ∀ limit,
    (s.recentEvents limit).2 = .ok ((log.reverse.take (listingLimit limit)).map Recording.event)

/-- **The ledger is a log.** After any actions whose handlers leave the ledger to the dispatcher,
the ledger that was empty holds the first recordings, in their order. -/
theorem ledger_is_log {s : Store} (h : s.IsInService)
    (hempty : ∀ t, s.database.find? Store.eventsTable = some t → t.rows = [])
    {actions : List Action}
    (hhandlers : ∀ a ∈ actions, a.LeavesLedger) (hclock : Recording.Advances (log s actions)) :
    (runs Action.run actions s).KeepsLog (log s actions) := by
  have hinitial : s.database.event? = Recording.find? [] := by
    funext id
    exact Option.map_eq_none_iff.2 (Database.cells?_of_empty hempty id)
  obtain ⟨hend, hledger⟩ := h.event?_acts hhandlers hinitial
  have hlog : (runs Action.run actions s).database.event? =
    Recording.find? (log s actions) := hledger
  constructor
  · intro now id eventType
    rw [hend.markEvent_answer, hlog]
    refine congrArg Except.ok ?_
    rw [Bool.eq_iff_iff, Option.isNone_iff_eq_none, Recording.find?_eq_none_iff, decide_eq_true_eq]
  · intro id
    rw [hend.isProcessed_answer, hlog]
    refine congrArg Except.ok ?_
    rw [Bool.eq_iff_iff, decide_eq_true_eq, ← Recording.any_eq_isSome, List.any_eq_true]
    simp
  · intro id
    rw [hlog]
  · exact nodup_log s actions
  · intro limit
    obtain ⟨l, hlist, henumerates⟩ := hend.recentEvents_answer limit
    rw [hlog] at henumerates
    have hsame := henumerates.unique (hclock.enumerates (nodup_log s actions))
      fun _ _ => ProcessedEvent.precedes_asymm
    rw [hlist, hsame, List.map_take]

/-- A plan that looks at the overrides, and then fails if the event has no source. -/
def wary : Plan where
  operations := fun _ _ => [.listOverrides]
  verdict := fun e _ => if e.source = "" then .error "no source" else .ok ()

/-- A millisecond after the beginning of the year. -/
def Store.soon : Timestamp :=
  { Store.still 0 with nano := 1000000, nano_lt := by decide, leap_ends_minute := by decide }

/-- An event is marked, a handler fails, an event is processed, and both events are recorded
again. -/
theorem ledger_is_log_again :
    let s := Store.opened ⟨Registry.builtIn.map fun m => m.shape.asTable⟩
    let actions : List Action :=
      [.operation (.markEvent (Store.still 0) "b" none),
        .dispatch (Store.still 0) wary ⟨"a", "created", "", .null⟩,
        .dispatch Store.soon wary ⟨"a", "created", "shop", .null⟩,
        .operation (.markEvent Store.soon "b" (some "late")),
        .dispatch Store.soon wary ⟨"a", "deleted", "shop", .null⟩]
    s.IsInService ∧ (∀ t, s.database.find? Store.eventsTable = some t → t.rows = []) ∧
      (∀ a ∈ actions, a.LeavesLedger) ∧ Recording.Advances (log s actions) ∧
      (runs Action.run actions s).KeepsLog (log s actions) := by
  intro s actions
  have hservice : s.IsInService := Store.isInService_builtIn
  have hempty : ∀ t, s.database.find? Store.eventsTable = some t → t.rows = [] := by
    show ∀ t ∈ s.database.find? Store.eventsTable, t.rows = []
    decide +kernel
  have hwary : ∀ now e, (Action.dispatch now wary e).LeavesLedger := by
    intro now e e' s' op hop id
    rw [List.mem_singleton.1 hop]
    rintro ⟨_, _, heq⟩
    cases heq
  have hhandlers : ∀ a ∈ actions, a.LeavesLedger := by
    simp only [actions, List.forall_mem_cons]
    exact ⟨trivial, hwary _ _, hwary _ _, trivial, hwary _ _,
      fun a ha => absurd ha List.not_mem_nil⟩
  have hclock : Recording.Advances (log s actions) := by decide +kernel
  exact ⟨hservice, hempty, hhandlers, hclock, ledger_is_log hservice hempty hhandlers hclock⟩

/-- The connection listed the events when the ledger had the key under another spelling. Of the
ledger that replaced it, which is healthy and empty, it cannot list the one event that is
recorded. -/
theorem not_keepsLog_replaced :
    let s := Store.replaced .events (.recentEvents 1)
    let actions : List Action := [.operation (.markEvent (Store.still 0) "e" none)]
    s.access = .opened .free ∧ s.database.IsHealthy ∧ s.database.IsSound ∧
      (∀ t, s.database.find? Store.eventsTable = some t → t.rows = []) ∧
      (∀ a ∈ actions, a.LeavesLedger) ∧ Recording.Advances (log s actions) ∧
      ¬ (runs Action.run actions s).KeepsLog (log s actions) := by
  intro s actions
  obtain ⟨hlisting, hclock⟩ :
      ((runs Action.run actions s).recentEvents 1).2 = .error (.unreadable "event_id") ∧
        Recording.Advances (log s actions) := by decide +kernel
  obtain ⟨haccess, hhealthy, hsound, hempty⟩ :
      s.access = .opened .free ∧ s.database.IsHealthy ∧ s.database.IsSound ∧
        ∀ t ∈ s.database.find? Store.eventsTable, t.rows = [] := by decide +kernel
  refine ⟨haccess, hhealthy, hsound, hempty, ?_, hclock, fun hkeeps => ?_⟩
  · simp only [actions, List.forall_mem_cons]
    exact ⟨trivial, fun a ha => absurd ha List.not_mem_nil⟩
  · have hrecent := hkeeps.recent 1
    rw [hlisting] at hrecent
    cases hrecent

end DispatchStore
