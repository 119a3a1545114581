import DispatchStore.Proofs.Dispatch.Log
import DispatchStore.Proofs.Json.RoundTrip
import DispatchStore.Proofs.Store.DecisionMap
import DispatchStore.Proofs.Store.Usable

/-!
# The ledger and the decisions in step

The recording handler refuses an event whose payload asks for it and keeps a decision on every other
one (`Handler.recording`). The decision and the record of the event are written one after the other,
by two statements; all the same the ledger and the table of decisions tell of the same events, those
that were processed (`Store.InStep`), as long as nobody else inserts decisions or marks events. A
dispatch adds an event to both or changes nothing (`Store.IsUsable.dispatch_recording`), and other
operations change neither what is recorded nor what was decided (`Store.IsUsable.tells_run`).

None of this depends on what the connection remembers: before the handler is called the connection
has looked for the event, and from then on it knows the schema.
-/

namespace DispatchStore

/-! ## What is processed -/

/-- The id of the decision on the event with the given id. -/
def decisionId (id : String) : String := "decision-" ++ id

/-- Decisions on different events have different ids. -/
theorem decisionId_injective : Function.Injective decisionId := by
  intro a b h
  have hlists := congrArg String.toList h
  unfold decisionId at hlists
  rw [String.toList_append, String.toList_append] at hlists
  exact String.toList_inj.1 (List.append_cancel_left hlists)

namespace Event

/-- The decision on an event. -/
def decision (made : Timestamp) (e : Event) : Decision :=
  .create (decisionId e.id) made.iso e.eventType e.payload

/-- How a dispatch of the event ends if the given events were processed before. -/
def outcomeAfter (processed : List Event) (e : Event) : Except StoreError Outcome :=
  if processed.any fun x => x.id == e.id then .ok .duplicate
  else if e.payload.hasKey "reject" then .error (.handler ("rejected " ++ e.id))
  else .ok .processed

end Event

namespace Action

/-- A dispatch to the recording handler, or an operation that neither marks events nor inserts
decisions. -/
def IsRecording : Action → Prop
  | dispatch _ plan _ => ∃ made, plan.handler = Handler.recording made
  | operation op => (∀ id, ¬ op.Marks id) ∧ ∀ d, op ≠ .insertDecision d

/-- The events that are processed when an action has followed. -/
def processedAfter (processed : List Event) : Action → List Event
  | dispatch _ _ e =>
    if e.outcomeAfter processed = .ok .processed then processed ++ [e] else processed
  | operation _ => processed

end Action

/-- The database holds the records of the given events and the decisions on them, and no others. -/
structure Database.TellsOf (db : Database) (processed : List Event) : Prop where
  rows : db.HoldsDecisions
  recorded : ∀ id, (db.event? id).isSome = processed.any fun e => e.id == id
  decided : ∀ key, (db.decision? key).map (fun d => (d.kind, d.payload)) =
    (processed.find? fun e => decisionId e.id == key).map fun e => (e.eventType, e.payload.render)

/-! ## The recording handler -/

/-- What the recording handler does. -/
def recorder (made : Timestamp) : Plan where
  operations := fun e _ =>
    if e.payload.hasKey "reject" then [] else [.insertDecision (e.decision made)]
  verdict := fun e s =>
    if e.payload.hasKey "reject" then .error ("rejected " ++ e.id)
    else (s.insertDecision (e.decision made)).2.mapError Fault.message

/-- The plan of the recorder is the recording handler. -/
@[simp]
theorem recorder_handler (made : Timestamp) : (recorder made).handler = Handler.recording made := by
  funext e s
  unfold Plan.handler recorder Handler.recording
  dsimp only
  split
  · rfl
  · rfl

/-- A dispatch to the recording handler looks for the event, inserts the decision unless the event
is to be refused, and marks the event. -/
theorem dispatch_recording_eq (s : Store) (made now : Timestamp) (e : Event) :
    s.dispatch now (Handler.recording made) e =
      let asked := (Operation.isProcessed e.id).run s
      match (s.isProcessed e.id).2 with
      | .error fault => ⟨asked, 0, .error (.database fault)⟩
      | .ok true => ⟨asked, 0, .ok .duplicate⟩
      | .ok false =>
        if e.payload.hasKey "reject" then ⟨asked, 1, .error (.handler ("rejected " ++ e.id))⟩
        else
          let handled := (Operation.insertDecision (e.decision made)).run asked
          match (asked.insertDecision (e.decision made)).2 with
          | .error fault => ⟨handled, 1, .error (.handler fault.message)⟩
          | .ok () =>
            let marked := (Operation.markEvent now e.id (some e.eventType)).run handled
            match (handled.markEvent now e.id (some e.eventType)).2 with
            | .error fault => ⟨marked, 1, .error (.database fault)⟩
            | .ok _ => ⟨marked, 1, .ok .processed⟩ := by
  rw [← recorder_handler, dispatch_eq]
  unfold recorder
  dsimp only
  rcases (s.isProcessed e.id).2 with fault | found
  · rfl
  cases found with
  | true => rfl
  | false =>
    cases e.payload.hasKey "reject" with
    | true => rfl
    | false =>
      generalize (Operation.isProcessed e.id).run s = asked
      dsimp only [Bool.false_eq_true, if_false]
      cases (asked.insertDecision (e.decision made)).2 with
      | error fault => rfl
      | ok u => rfl

namespace Store.IsUsable

variable {s : Store} (h : s.IsUsable)
include h

/-- A usable store serves. -/
theorem serving : Serving s :=
  ⟨h.access, hasEvents_of_refusal? (h.healthy.shapes .events (by decide))⟩

/-- A usable store tells whether its ledger has the id. -/
theorem isProcessed_answer (id : String) :
    (s.isProcessed id).2 = .ok (s.database.event? id).isSome := by
  have hnew := h.isInService.isProcessed_answer id
  obtain ⟨b, hb, hholds⟩ := isProcessed_spec h.access h.serving.events id
  obtain ⟨b', hb', hholds'⟩ :=
    isProcessed_spec h.isInService.access (s := opened s.database) h.serving.events id
  rw [hb'] at hnew
  have hsame : b = b' := Bool.eq_iff_iff.2 (hholds.trans hholds'.symm)
  rw [hb, hsame]
  exact hnew

/-- A decision whose id is new is inserted by a connection that knows the schema. -/
theorem insert_current (hc : s.Current) (hrows : s.database.HoldsDecisions) {d : Decision}
    (hnew : s.database.decision? d.id = none) :
    let handled := (Operation.insertDecision d).run s
    (s.insertDecision d).2 = .ok () ∧ handled.database.HoldsDecisions ∧
      handled.database.decision? = Function.update s.database.decision? d.id (some d) ∧
      handled.database.event? = s.database.event? := by
  intro handled
  have hservice := h.isInService
  have hrepeats : ¬ (Operation.insertDecision d).Repeats (opened s.database).database := by
    intro hthere
    have hview : (s.database.decision? d.id).isSome = true :=
      (Database.isSome_view s.database .decisions Decision.ofRow d.id).trans
        (Operation.repeats_insertDecision.1 hthere)
    rw [hnew] at hview
    cases hview
  have hanswer := hservice.answer_write (.insertDecision d) hrepeats (m := .decisions) rfl
  obtain ⟨hdatabase, hanswered⟩ := Operation.run_current h.access hc (m := .decisions) rfl hanswer
  refine ⟨?_, ?_, ?_, ?_⟩
  · have hresult : (s.insertDecision d).2.map (fun _ => Reply.done) = .ok .done := hanswered
    cases hinsert : (s.insertDecision d).2 with
    | error fault =>
      rw [hinsert] at hresult
      cases hresult
    | ok u => rfl
  · rw [hdatabase]
    exact hservice.holdsDecisions_run hrows _
  · have honto : (Operation.insertDecision d).onDecisions s.database.decision? =
        Function.update s.database.decision? d.id (some ((s.database.decision? d.id).getD d)) := rfl
    rw [hnew, Option.getD_none] at honto
    rw [hdatabase, ← honto]
    exact hservice.decision?_run hrows _
  · rw [hdatabase]
    refine hservice.event?_run ?_
    rintro id ⟨_, _, heq⟩
    cases heq

/-- An event that has no record is marked by a connection that knows the schema. -/
theorem mark_current (hc : s.Current) (hrows : s.database.HoldsDecisions) {id : String}
    (hnew : s.database.event? id = none) (now : Timestamp) (eventType : Option String) :
    let marked := (Operation.markEvent now id eventType).run s
    (∃ b, (s.markEvent now id eventType).2 = .ok b) ∧ marked.database.HoldsDecisions ∧
      marked.database.decision? = s.database.decision? ∧
      marked.database.event? =
        Function.update s.database.event? id (some ⟨id, eventType, some now.iso⟩) := by
  intro marked
  have hservice := h.isInService
  have hanswer := hservice.answer_write (.markEvent now id eventType) (m := .events)
    (by rintro ⟨d, heq, -⟩; cases heq) rfl
  obtain ⟨hdatabase, -⟩ := Operation.run_current h.access hc (m := .events) rfl hanswer
  have hcells : s.database.cells? Migration.events.shape.table id = none :=
    Option.map_eq_none_iff.1 hnew
  refine ⟨markEvent_spec h.access hc h.serving.events now id eventType, ?_, ?_, ?_⟩
  · rw [hdatabase]
    exact hservice.holdsDecisions_run hrows _
  · rw [hdatabase]
    exact hservice.decision?_run hrows _
  · rw [hdatabase]
    refine (hservice.view_run ProcessedEvent.ofRow (m := .events) rfl).trans ?_
    show Function.update s.database.event? id (Option.map _
      (Operation.cellsAfter _ (s.database.cells? Migration.events.shape.table id))) = _
    rw [hcells]
    cases eventType <;> rfl

end Store.IsUsable

/-! ## One action -/

namespace Database.TellsOf

variable {db : Database} {processed : List Event} (h : db.TellsOf processed)
include h

/-- An event that was not processed has neither a record nor a decision. -/
theorem eq_none {e : Event} (hnew : (processed.any fun x => x.id == e.id) = false) :
    db.event? e.id = none ∧ db.decision? (decisionId e.id) = none := by
  constructor
  · rw [← Option.not_isSome_iff_eq_none, h.recorded, hnew]
    exact Bool.false_ne_true
  · have hother : (processed.find? fun x => decisionId x.id == decisionId e.id) = none := by
      rw [List.find?_eq_none]
      intro x hx hid
      have hsame : x.id = e.id := decisionId_injective (by simpa using hid)
      rw [List.any_eq_false] at hnew
      exact hnew x hx (by simp [hsame])
    have hdecided := h.decided (decisionId e.id)
    rwa [hother, Option.map_none, Option.map_eq_none_iff] at hdecided

/-- An event that gets a record and a decision is told of behind the others. -/
theorem append {e : Event} (hnew : (processed.any fun x => x.id == e.id) = false) {db' : Database}
    (hrows : db'.HoldsDecisions) {made : Timestamp}
    (hdecision : db'.decision? =
      Function.update db.decision? (decisionId e.id) (some (e.decision made)))
    {record : ProcessedEvent}
    (hrecord : db'.event? = Function.update db.event? e.id (some record)) :
    db'.TellsOf (processed ++ [e]) := by
  refine ⟨hrows, fun id => ?_, fun key => ?_⟩
  · rw [hrecord, List.any_append, List.any_cons, List.any_nil, Bool.or_false, ← h.recorded]
    by_cases hid : id = e.id
    · subst hid
      simp
    · rw [Function.update_of_ne hid]
      have hother : (e.id == id) = false := by simpa using Ne.symm hid
      rw [hother, Bool.or_false]
  · rw [hdecision, List.find?_append, Option.map_or, ← h.decided, List.find?_singleton]
    by_cases hkey : key = decisionId e.id
    · subst hkey
      rw [Function.update_self, (h.eq_none hnew).2]
      simp [Event.decision, Decision.create]
    · rw [Function.update_of_ne hkey]
      have hother : ¬ (decisionId e.id == key) = true := by simpa using Ne.symm hkey
      rw [if_neg hother, Option.map_none, Option.or_none]

end Database.TellsOf

/-- An operation that inserts no decision leaves the ids, kinds and payloads of all. -/
theorem Operation.onDecisions_content {op : Operation} (hop : ∀ d, op ≠ .insertDecision d)
    (m : DecisionMap) (key : String) :
    (op.onDecisions m key).map (fun d => (d.kind, d.payload)) =
      (m key).map fun d => (d.kind, d.payload) := by
  cases op with
  | insertDecision d => exact absurd rfl (hop d)
  | updateStatus id status =>
    show (Function.update m id _ key).map _ = _
    by_cases hkey : key = id
    · subst hkey
      rw [Function.update_self, Option.map_map]
      rfl
    · rw [Function.update_of_ne hkey]
  | setOverride _ _ _ | clearOverride _ | getOverride _ | listOverrides | isProcessed _
  | recentEvents _ | getDecision _ | decisionsWithStatus _ _ | markEvent _ _ _ => rfl

/-- What a dispatch to the recording handler comes to when the given events were processed
before. -/
structure Dispatched.Follows (d : Dispatched) (db : Database) (processed : List Event)
    (made now : Timestamp) (e : Event) : Prop where
  outcome : d.outcome = e.outcomeAfter processed
  /-- Unless the event is processed nothing changes. -/
  unchanged : d.outcome ≠ .ok .processed → d.store.database = db
  decision : d.outcome = .ok .processed → d.store.database.decision? =
    Function.update db.decision? (decisionId e.id) (some (e.decision made))
  record : d.outcome = .ok .processed → d.store.database.event? =
    Function.update db.event? e.id (some ⟨e.id, some e.eventType, some now.iso⟩)

namespace Store.IsUsable

variable {s : Store} (h : s.IsUsable)
include h

/-- Operations that neither mark events nor insert decisions leave what the database tells. -/
theorem tells_run {processed : List Event} (ht : s.database.TellsOf processed) {op : Operation}
    (hop : (Action.operation op).IsRecording) : (op.run s).database.TellsOf processed := by
  rcases op.run_eq_or h.access with hsame | hnew
  · rw [hsame]
    exact ht
  · have hservice := h.isInService
    have hevents : (op.run (opened s.database)).database.event? = s.database.event? :=
      hservice.event?_run hop.1
    have hdecisions : (op.run (opened s.database)).database.decision? =
        op.onDecisions s.database.decision? := hservice.decision?_run ht.rows op
    rw [hnew]
    refine ⟨hservice.holdsDecisions_run ht.rows op, fun id => ?_, fun key => ?_⟩
    · rw [hevents]
      exact ht.recorded id
    · rw [hdecisions, Operation.onDecisions_content hop.2]
      exact ht.decided key

section Dispatch

variable {processed : List Event} (ht : s.database.TellsOf processed)
    (made now : Timestamp) {e : Event}
include ht

/-- An event that was processed is passed over. -/
theorem dispatch_again (hany : (processed.any fun x => x.id == e.id) = true) :
    s.dispatch now (Handler.recording made) e =
      ⟨(Operation.isProcessed e.id).run s, 0, .ok .duplicate⟩ := by
  rw [dispatch_recording_eq, h.isProcessed_answer, ht.recorded, hany]

/-- An event that asks for it is refused, and nothing is written. -/
theorem dispatch_refused (hany : (processed.any fun x => x.id == e.id) = false)
    (hreject : e.payload.hasKey "reject" = true) :
    s.dispatch now (Handler.recording made) e =
      ⟨(Operation.isProcessed e.id).run s, 1, .error (.handler ("rejected " ++ e.id))⟩ := by
  rw [dispatch_recording_eq, h.isProcessed_answer, ht.recorded, hany, hreject]
  rfl

/-- Any other event is processed: its decision is inserted and then the event is marked. -/
theorem dispatch_accepted (hany : (processed.any fun x => x.id == e.id) = false)
    (hreject : e.payload.hasKey "reject" = false) :
    ∃ marked, s.dispatch now (Handler.recording made) e = ⟨marked, 1, .ok .processed⟩ ∧
      marked.IsUsable ∧ marked.database.HoldsDecisions ∧
      marked.database.decision? =
        Function.update s.database.decision? (decisionId e.id) (some (e.decision made)) ∧
      marked.database.event? =
        Function.update s.database.event? e.id (some ⟨e.id, some e.eventType, some now.iso⟩) := by
  obtain ⟨hevent, hnone⟩ := ht.eq_none hany
  have hasked := h.run (.isProcessed e.id)
  have hcurrent : ((Operation.isProcessed e.id).run s).Current :=
    (serving_isProcessed h.serving e.id).2.1
  obtain ⟨hinserted, hrows, hdecisions, hevents⟩ :=
    hasked.insert_current hcurrent ht.rows (d := e.decision made) hnone
  have hhandled := hasked.run (.insertDecision (e.decision made))
  have hknows := Operation.current_run hasked.access hcurrent (.insertDecision (e.decision made))
  obtain ⟨⟨b, hb⟩, hrows', hdecisions', hevents'⟩ := hhandled.mark_current hknows hrows
    ((congrFun hevents e.id).trans hevent) now (some e.eventType)
  refine ⟨_, ?_, hhandled.run (.markEvent now e.id (some e.eventType)), hrows',
    hdecisions'.trans hdecisions, ?_⟩
  · rw [dispatch_recording_eq, h.isProcessed_answer, ht.recorded, hany]
    simp only [hreject, Bool.false_eq_true, if_false, hinserted, hb]
  · rw [hevents', hevents]
    rfl

/-- A dispatch tells of the event in both tables or changes nothing. -/
theorem dispatch_recording (e : Event) :
    let d := s.dispatch now (Handler.recording made) e
    d.store.IsUsable ∧ d.Follows s.database processed made now e ∧
      d.store.database.TellsOf
        (if e.outcomeAfter processed = .ok .processed then processed ++ [e] else processed) := by
  have hasked := h.run (.isProcessed e.id)
  unfold Event.outcomeAfter
  by_cases hany : (processed.any fun x => x.id == e.id) = true
  · have hends : e.outcomeAfter processed = .ok .duplicate := if_pos hany
    rw [h.dispatch_again ht made now hany, if_pos hany]
    exact ⟨hasked, ⟨hends.symm, fun _ => rfl, nofun, nofun⟩, ht⟩
  · have hends : e.outcomeAfter processed =
        if e.payload.hasKey "reject" then .error (.handler ("rejected " ++ e.id))
        else .ok .processed := if_neg hany
    rw [if_neg hany]
    rw [Bool.not_eq_true] at hany
    by_cases hreject : e.payload.hasKey "reject" = true
    · rw [if_pos hreject] at hends ⊢
      rw [h.dispatch_refused ht made now hany hreject]
      exact ⟨hasked, ⟨hends.symm, fun _ => rfl, nofun, nofun⟩, ht⟩
    · rw [if_neg hreject] at hends ⊢
      rw [Bool.not_eq_true] at hreject
      obtain ⟨marked, hd, husable, hrows, hdecision, hrecord⟩ :=
        h.dispatch_accepted ht made now hany hreject
      rw [hd]
      exact ⟨husable, ⟨hends.symm, fun hnot => absurd rfl hnot, fun _ => hdecision,
        fun _ => hrecord⟩, ht.append hany hrows hdecision hrecord⟩

end Dispatch

/-- An action tells of the event that it processes, if there is one. -/
theorem tells_act {processed : List Event} (ht : s.database.TellsOf processed) {a : Action}
    (ha : a.IsRecording) :
    (a.run s).IsUsable ∧ (a.run s).database.TellsOf (a.processedAfter processed) := by
  cases a with
  | operation op => exact ⟨h.run op, h.tells_run ht ha⟩
  | dispatch now plan e =>
    obtain ⟨made, hplan⟩ := ha
    obtain ⟨husable, -, htells⟩ := h.dispatch_recording ht made now e
    have hrun : (Action.dispatch now plan e).run s =
        (s.dispatch now (Handler.recording made) e).store := by
      rw [← hplan]
      rfl
    rw [hrun]
    exact ⟨husable, htells⟩

/-- Actions tell of the events that they process. -/
theorem tells_acts {processed : List Event} (ht : s.database.TellsOf processed)
    {actions : List Action} (ha : ∀ a ∈ actions, a.IsRecording) :
    (runs Action.run actions s).IsUsable ∧
      (runs Action.run actions s).database.TellsOf
        (actions.foldl Action.processedAfter processed) := by
  induction actions generalizing s processed with
  | nil => exact ⟨h, ht⟩
  | cons a rest ih =>
    obtain ⟨husable, htells⟩ := h.tells_act ht (ha a List.mem_cons_self)
    exact ih husable htells fun b hb => ha b (List.mem_cons_of_mem _ hb)

end Store.IsUsable

/-! ## Runs -/

/-- No event is processed twice. -/
theorem Action.nodup_processedAfter {processed : List Event} (h : (processed.map Event.id).Nodup)
    (a : Action) : ((a.processedAfter processed).map Event.id).Nodup := by
  cases a with
  | operation op => exact h
  | dispatch now plan e =>
    unfold processedAfter
    dsimp only
    split
    · next hends =>
      rw [List.map_append, List.map_singleton]
      refine List.nodup_append.2 ⟨h, List.nodup_singleton _, ?_⟩
      intro id hid other hother heq
      obtain ⟨x, hx, rfl⟩ := List.mem_map.1 hid
      rw [List.mem_singleton.1 hother] at heq
      have hany : (processed.any fun y => y.id == e.id) = true :=
        List.any_eq_true.2 ⟨x, hx, by simp [heq]⟩
      unfold Event.outcomeAfter at hends
      rw [if_pos hany] at hends
      cases hends
    · exact h

/-- No run processes an event a second time. -/
theorem nodup_processed (actions : List Action) {processed : List Event}
    (h : (processed.map Event.id).Nodup) :
    ((actions.foldl Action.processedAfter processed).map Event.id).Nodup := by
  induction actions generalizing processed with
  | nil => exact h
  | cons a rest ih => exact ih (a.nodup_processedAfter h)

/-- The ledger and the table of decisions tell of the given events and of no others. -/
structure Store.InStep (s : Store) (processed : List Event) : Prop where
  usable : s.IsUsable
  distinct : (processed.map Event.id).Nodup
  recorded : ∀ id, (s.database.event? id).isSome = true ↔ ∃ e ∈ processed, e.id = id
  /-- Events that are recorded and decisions correspond one to one. -/
  paired : Set.BijOn decisionId {id | (s.database.event? id).isSome = true}
    {key | (s.database.decision? key).isSome = true}
  /-- Each decision has the kind of its event and the payload as it is written, which reads back. -/
  decisions : ∀ e ∈ processed, ∃ d, s.database.decision? (decisionId e.id) = some d ∧
    d.kind = e.eventType ∧ d.payload = e.payload.render ∧
    (e.payload.IsReadable Json.maxLevels → d.readPayload .json = .ok e.payload)

/-- What a database tells of distinct events are the two tables in step. -/
theorem Store.IsUsable.inStep {s : Store} (h : s.IsUsable) {processed : List Event}
    (ht : s.database.TellsOf processed) (hdistinct : (processed.map Event.id).Nodup) :
    s.InStep processed := by
  have hrecorded : ∀ id, (s.database.event? id).isSome = true ↔ ∃ e ∈ processed, e.id = id := by
    intro id
    rw [ht.recorded, List.any_eq_true]
    simp
  have hdecided : ∀ key, (s.database.decision? key).isSome = true ↔
      ∃ e ∈ processed, decisionId e.id = key := by
    intro key
    have hsome := congrArg Option.isSome (ht.decided key)
    rw [Option.isSome_map, Option.isSome_map] at hsome
    rw [hsome, List.find?_isSome]
    simp
  refine ⟨h, hdistinct, hrecorded, ⟨?_, decisionId_injective.injOn, ?_⟩, ?_⟩
  · intro id hid
    obtain ⟨e, he, rfl⟩ := (hrecorded id).1 hid
    exact (hdecided _).2 ⟨e, he, rfl⟩
  · intro key hkey
    obtain ⟨e, he, rfl⟩ := (hdecided key).1 hkey
    exact ⟨e.id, (hrecorded e.id).2 ⟨e, he, rfl⟩, rfl⟩
  · intro e he
    obtain ⟨d, hd⟩ := Option.isSome_iff_exists.1 ((hdecided _).2 ⟨e, he, rfl⟩)
    have hids : (processed.map fun x => decisionId x.id).Nodup := by
      have hmap := hdistinct.map decisionId_injective
      rwa [List.map_map] at hmap
    have hfound : (processed.find? fun x => decisionId x.id == decisionId e.id) = some e :=
      find?_of_nodup hids he
    have hcontent := ht.decided (decisionId e.id)
    rw [hd, hfound] at hcontent
    obtain ⟨hkind, hpayload⟩ := Prod.mk.inj (Option.some.inj hcontent)
    refine ⟨d, hd, hkind, hpayload, fun hreadable => ?_⟩
    unfold Decision.readPayload
    rw [show d.payload = e.payload.render from hpayload]
    exact hreadable.run_render

/-- **The ledger and the decisions stay in step.** From empty tables on, any dispatches to the
recording handler and any operations that neither mark events nor insert decisions leave both with
the events that were processed, and the next dispatch processes its event unless it was processed
before or is refused. -/
theorem recording_in_step {s : Store} (h : s.IsUsable)
    (hevents : ∀ t, s.database.find? Store.eventsTable = some t → t.rows = [])
    (hdecisions : ∀ t, s.database.find? Store.decisionsTable = some t → t.rows = [])
    {actions : List Action} (ha : ∀ a ∈ actions, a.IsRecording) :
    let processed := actions.foldl Action.processedAfter []
    let reached := runs Action.run actions s
    reached.InStep processed ∧ ∀ made now e,
      (reached.dispatch now (Handler.recording made) e).Follows
        reached.database processed made now e := by
  intro processed reached
  have hnone : ∀ key, s.database.cells? Store.decisionsTable key = none :=
    Database.cells?_of_empty hdecisions
  have hempty : s.database.TellsOf [] := by
    refine ⟨fun id cells hcells => ?_, fun id => ?_, fun key => ?_⟩
    · rw [hnone id] at hcells
      cases hcells
    · have hid : s.database.event? id = none :=
        Option.map_eq_none_iff.2 (Database.cells?_of_empty hevents id)
      rw [hid]
      rfl
    · have hkey : s.database.decision? key = none := Option.map_eq_none_iff.2 (hnone key)
      rw [hkey]
      rfl
  obtain ⟨husable, htells⟩ := h.tells_acts hempty ha
  refine ⟨husable.inStep htells (nodup_processed actions List.nodup_nil), fun made now e => ?_⟩
  exact (husable.dispatch_recording htells made now e).2.1

/-- An event is refused, dispatched again with another payload and then once more, while an override
is set and the status of its decision changed. -/
theorem recording_in_step_retried :
    let s := Store.opened ⟨Registry.builtIn.map fun m => m.shape.asTable⟩
    let actions : List Action :=
      [.dispatch (Store.still 0) (recorder (Store.still 0))
          ⟨"a", "created", "", .object [("reject", .bool true)]⟩,
        .operation (.setOverride (Store.still 0) "k" none),
        .dispatch (Store.still 0) (recorder (Store.still 0)) ⟨"a", "created", "", .ofInt 7⟩,
        .operation (.updateStatus "decision-a" .applied),
        .dispatch (Store.still 0) (recorder (Store.still 0)) ⟨"a", "deleted", "", .null⟩]
    s.IsUsable ∧ (∀ t, s.database.find? Store.eventsTable = some t → t.rows = []) ∧
      (∀ t, s.database.find? Store.decisionsTable = some t → t.rows = []) ∧
      (∀ a ∈ actions, a.IsRecording) ∧
      (let processed := actions.foldl Action.processedAfter []
      let reached := runs Action.run actions s
      reached.InStep processed ∧ ∀ made now e,
        (reached.dispatch now (Handler.recording made) e).Follows
          reached.database processed made now e) := by
  intro s actions
  have husable : s.IsUsable :=
    ⟨rfl, Store.isInService_builtIn.healthy, Store.isInService_builtIn.sound⟩
  have hevents : ∀ t, s.database.find? Store.eventsTable = some t → t.rows = [] := by
    show ∀ t ∈ s.database.find? Store.eventsTable, t.rows = []
    decide +kernel
  have hdecisions : ∀ t, s.database.find? Store.decisionsTable = some t → t.rows = [] := by
    show ∀ t ∈ s.database.find? Store.decisionsTable, t.rows = []
    decide +kernel
  have hactions : ∀ a ∈ actions, a.IsRecording := by
    simp only [actions, List.forall_mem_cons]
    refine ⟨⟨_, recorder_handler _⟩, ⟨?_, nofun⟩, ⟨_, recorder_handler _⟩, ⟨?_, nofun⟩,
      ⟨_, recorder_handler _⟩, fun a ha => absurd ha List.not_mem_nil⟩
    · rintro id ⟨_, _, heq⟩
      cases heq
    · rintro id ⟨_, _, heq⟩
      cases heq
  exact ⟨husable, hevents, hdecisions, hactions,
    recording_in_step husable hevents hdecisions hactions⟩

end DispatchStore
