import DispatchStore.Proofs.Schema.Resumption
import DispatchStore.Proofs.Store.Events

/-!
# Processing at most once

Events are dispatched one after the other, each with a handler of its own, and in between anybody
may carry out operations. A handler is a `Plan`: it looks at the event and the store, carries out
the operations that it chooses and then succeeds or fails. Nothing keeps it from marking events
behind the back of the dispatcher, its own or others.

* **One dispatch** (`dispatch_recorded`, `dispatch_unrecorded`): a recorded event is passed over;
  for any other the handler is called, and if it succeeds the event is recorded.
* **One action** (`Action.run_events`): what is recorded stays so, and nothing is recorded but by
  marking or by a dispatch that processed it.
* **Any run** (`dispatch_at_most_once`): what follows for the calls of handlers.
-/

namespace DispatchStore

/-- A handler that changes the store by operations only. What it chooses may depend on all that is
in the store, hence also on what its own operations are going to answer. -/
structure Plan where
  operations : Event → Store → List Operation
  verdict : Event → Store → Except String Unit

/-- The handler that follows a plan. -/
def Plan.handler (plan : Plan) : Handler := fun e s =>
  (runs Operation.run (plan.operations e s) s, plan.verdict e s)

/-- What is done to a store from outside. -/
inductive Action where
  | dispatch (now : Timestamp) (plan : Plan) (e : Event)
  | operation (op : Operation)

/-- The handler was called and succeeded, whatever came of the recording. -/
def Dispatched.succeeded (d : Dispatched) : Bool :=
  d.calls == 1 && match d.outcome with
    | .error (.handler _) => false
    | _ => true

/-- The event is recorded. -/
def Recorded (s : Store) (id : String) : Prop := (s.isProcessed id).2 = .ok true

namespace Action

/-- The store after an action. -/
def run : Action → Store → Store
  | dispatch now plan e, s => (s.dispatch now plan.handler e).store
  | operation op, s => op.run s

/-- What a dispatch of the event with the given id leaves behind. -/
def dispatched? (id : String) : Action → Store → Option Dispatched
  | dispatch now plan e, s => if e.id = id then some (s.dispatch now plan.handler e) else none
  | operation _, _ => none

/-- The event is marked by an operation, or by the operations of a handler that is called. -/
def Marks (id : String) : Action → Store → Prop
  | dispatch now plan e, s => (s.dispatch now plan.handler e).calls = 1 ∧
    ∃ op ∈ plan.operations e (s.isProcessed e.id).1, op.Marks id
  | operation op, _ => op.Marks id

/-- The event is processed by a dispatch, or marked by its handler, or marked by an operation that
is not refused. -/
def Records (id : String) : Action → Store → Prop
  | dispatch now plan e, s =>
    (e.id = id ∧ (s.dispatch now plan.handler e).outcome = .ok .processed) ∨
      (dispatch now plan e).Marks id s
  | operation op, s => ∃ now eventType b, op = .markEvent now id eventType ∧
    (s.markEvent now id eventType).2 = .ok b

end Action

/-- The store is open, and its ledger of events is there. -/
structure Serving (s : Store) : Prop where
  opened : s.access = .opened .free
  events : HasEvents s.database

/-- In a serving store an event is recorded exactly if its id stands in the ledger. -/
theorem recorded_iff {s : Store} (h : Serving s) (id : String) :
    Recorded s id ↔ Holds s.database id := by
  obtain ⟨b, hb, hholds⟩ := Store.isProcessed_spec h.opened h.events id
  unfold Recorded
  rw [hb, ← hholds]
  exact ⟨fun heq => Except.ok.inj heq, fun heq => congrArg Except.ok heq⟩

/-- A serving store denies an event exactly if its id does not stand in the ledger. -/
theorem isProcessed_eq_false_iff {s : Store} (h : Serving s) (id : String) :
    (s.isProcessed id).2 = .ok false ↔ ¬ Holds s.database id := by
  obtain ⟨b, hb, hholds⟩ := Store.isProcessed_spec h.opened h.events id
  rw [hb, ← hholds]
  cases b <;> simp

/-- Looking for an event leaves a store that serves and knows its schema. -/
theorem serving_isProcessed {s : Store} (h : Serving s) (id : String) :
    Serving (s.isProcessed id).1 ∧ (s.isProcessed id).1.Current ∧
      (s.isProcessed id).1.database = s.database :=
  ⟨⟨h.opened, h.events⟩, Store.current_readAs h.opened _ _, rfl⟩

/-! ## The operations of a handler -/

/-- An operation over a connection that knows the schema records what it marks. -/
theorem run_current {s : Store} (h : Serving s) (hc : s.Current) (op : Operation) :
    Serving (op.run s) ∧ (op.run s).Current ∧
      ∀ id, Holds (op.run s).database id ↔ Holds s.database id ∨ op.Marks id := by
  obtain ⟨haccess, -⟩ := op.run_database s
  obtain ⟨hevents, hholds⟩ := op.run_events h.opened h.events
  refine ⟨⟨haccess.trans h.opened, hevents⟩, op.current_run h.opened hc, fun id => ?_⟩
  obtain ⟨hkept, honly⟩ := hholds id
  refine ⟨honly, ?_⟩
  rintro (hid | ⟨now, eventType, rfl⟩)
  · exact hkept hid
  · obtain ⟨b, hb⟩ := Store.markEvent_spec h.opened hc h.events now id eventType
    exact Store.holds_of_markEvent h.opened h.events hb

/-- Many operations record what they mark and nothing else. -/
theorem runs_current {s : Store} (h : Serving s) (hc : s.Current) (ops : List Operation) :
    Serving (runs Operation.run ops s) ∧ (runs Operation.run ops s).Current ∧
      ∀ id, Holds (runs Operation.run ops s).database id ↔
        Holds s.database id ∨ ∃ op ∈ ops, op.Marks id := by
  induction ops generalizing s with
  | nil =>
    refine ⟨h, hc, fun id => ?_⟩
    simp [runs]
  | cons op rest ih =>
    obtain ⟨hserving, hcurrent, hholds⟩ := run_current h hc op
    obtain ⟨hserving', hcurrent', hholds'⟩ := ih hserving hcurrent
    refine ⟨hserving', hcurrent', fun id => ?_⟩
    refine (hholds' id).trans ?_
    rw [hholds id, or_assoc, List.exists_mem_cons_iff]

/-! ## One dispatch -/

section Dispatch

variable {s : Store} (h : Serving s)
include h

/-- A recorded event is passed over. -/
theorem dispatch_recorded {e : Event} (hid : Holds s.database e.id) (now : Timestamp)
    (handler : Handler) :
    s.dispatch now handler e = ⟨(s.isProcessed e.id).1, 0, .ok .duplicate⟩ := by
  have hprocessed : (s.isProcessed e.id).2 = .ok true := (recorded_iff h e.id).2 hid
  unfold Store.dispatch
  rcases hs : s.isProcessed e.id with ⟨s', result⟩
  rw [hs] at hprocessed
  rw [show result = .ok true from hprocessed]

/-- For an event that is not recorded the handler is called. It marks what it marks, and if it
succeeds the event is processed and recorded. -/
theorem dispatch_unrecorded {e : Event} (hid : ¬ Holds s.database e.id) (now : Timestamp)
    (plan : Plan) :
    let d := s.dispatch now plan.handler e
    let marked := fun id => ∃ op ∈ plan.operations e (s.isProcessed e.id).1, op.Marks id
    d.calls = 1 ∧ Serving d.store ∧
      ((d.outcome = .ok .processed ∧
          ∀ id, Holds d.store.database id ↔ (Holds s.database id ∨ marked id) ∨ id = e.id) ∨
        (∃ reason, d.outcome = .error (.handler reason)) ∧
          ∀ id, Holds d.store.database id ↔ Holds s.database id ∨ marked id) := by
  have hprocessed : (s.isProcessed e.id).2 = .ok false := (isProcessed_eq_false_iff h e.id).2 hid
  obtain ⟨hserving, hcurrent, hsame⟩ := serving_isProcessed h e.id
  unfold Store.dispatch
  generalize s.isProcessed e.id = asked at hprocessed hserving hcurrent hsame
  obtain ⟨s₁, result⟩ := asked
  dsimp only at hprocessed hserving hcurrent hsame ⊢
  rw [hprocessed]
  dsimp only [Plan.handler]
  obtain ⟨hserving₂, hcurrent₂, hholds₂⟩ :=
    runs_current hserving hcurrent (plan.operations e s₁)
  rw [hsame] at hholds₂
  cases hverdict : plan.verdict e s₁ with
  | error reason => exact ⟨rfl, hserving₂, .inr ⟨⟨reason, rfl⟩, hholds₂⟩⟩
  | ok u =>
    dsimp only
    -- the recording behind the handler is one more operation
    obtain ⟨hserving₃, -, hholds₃⟩ :=
      run_current hserving₂ hcurrent₂ (.markEvent now e.id (some e.eventType))
    obtain ⟨b, hb⟩ := Store.markEvent_spec hserving₂.opened hcurrent₂ hserving₂.events now e.id
      (some e.eventType)
    have hmarks : ∀ id, (Operation.markEvent now e.id (some e.eventType)).Marks id ↔ id = e.id := by
      intro id
      constructor
      · rintro ⟨_, _, heq⟩
        cases heq
        rfl
      · rintro rfl
        exact ⟨now, some e.eventType, rfl⟩
    dsimp only [Operation.run] at hserving₃ hholds₃
    generalize Store.markEvent _ now e.id (some e.eventType) = recorded at hserving₃ hholds₃ hb
    obtain ⟨s₃, answer⟩ := recorded
    dsimp only at hserving₃ hholds₃ hb
    subst hb
    refine ⟨rfl, hserving₃, .inl ⟨rfl, fun id => ?_⟩⟩
    rw [hholds₃ id, hmarks id, hholds₂ id]

end Dispatch

/-! ## One action -/

namespace Action

/-- What an action does to the ledger of events: all that was recorded stays, what it records is
there, and what is new was marked or processed by it. -/
structure Keeps (id : String) (a : Action) (s : Store) : Prop where
  kept : Holds s.database id → Holds (a.run s).database id
  recorded : a.Records id s → Holds (a.run s).database id
  only : Holds (a.run s).database id → Holds s.database id ∨ a.Marks id s ∨
    ∃ d, a.dispatched? id s = some d ∧ d.outcome = .ok .processed

/-- An operation keeps the ledger of events. -/
theorem keeps_operation {s : Store} (h : Serving s) (op : Operation) :
    Serving (op.run s) ∧ ∀ id, (operation op).Keeps id s := by
  obtain ⟨haccess, -⟩ := op.run_database s
  obtain ⟨hevents, hholds⟩ := op.run_events h.opened h.events
  refine ⟨⟨haccess.trans h.opened, hevents⟩, fun id => ⟨(hholds id).1, ?_, ?_⟩⟩
  · rintro ⟨now, eventType, b, rfl, hb⟩
    exact Store.holds_of_markEvent h.opened h.events hb
  · intro hid
    rcases (hholds id).2 hid with hold | hmarks
    · exact .inl hold
    · exact .inr (.inl hmarks)

/-- A dispatch of a recorded event does nothing to the ledger of events. -/
theorem keeps_recorded {s : Store} (h : Serving s) {e : Event} (hid : Holds s.database e.id)
    (now : Timestamp) (plan : Plan) :
    Serving ((dispatch now plan e).run s) ∧ ∀ id, (dispatch now plan e).Keeps id s := by
  have hdispatch := dispatch_recorded h hid now plan.handler
  have hrun : (dispatch now plan e).run s = (s.isProcessed e.id).1 :=
    congrArg Dispatched.store hdispatch
  obtain ⟨hserving, -, hsame⟩ := serving_isProcessed h e.id
  rw [hrun]
  refine ⟨hserving, fun id => ⟨?_, ?_, ?_⟩⟩
  · rw [hrun, hsame]
    exact fun hold => hold
  · rintro (⟨-, houtcome⟩ | ⟨hcalls, -⟩)
    · rw [hdispatch] at houtcome
      cases houtcome
    · rw [hdispatch] at hcalls
      cases hcalls
  · rw [hrun, hsame]
    exact .inl

/-- A dispatch that calls the handler adds to the ledger of events what the handler marks, and the
event if the handler succeeded. -/
theorem keeps_unrecorded {s : Store} (h : Serving s) {e : Event} (hid : ¬ Holds s.database e.id)
    (now : Timestamp) (plan : Plan) :
    Serving ((dispatch now plan e).run s) ∧ ∀ id, (dispatch now plan e).Keeps id s := by
  obtain ⟨hcalls, hserving, hends⟩ := dispatch_unrecorded h hid now plan
  refine ⟨hserving, fun id => ?_⟩
  rcases hends with ⟨houtcome, hholds⟩ | ⟨⟨reason, houtcome⟩, hholds⟩
  · -- the handler succeeded
    refine ⟨fun hold => (hholds id).2 (.inl (.inl hold)), ?_, ?_⟩
    · rintro (⟨rfl, -⟩ | ⟨-, hmarked⟩)
      · exact (hholds e.id).2 (.inr rfl)
      · exact (hholds id).2 (.inl (.inr hmarked))
    · intro hnew
      rcases (hholds id).1 hnew with (hold | hmarked) | rfl
      · exact .inl hold
      · exact .inr (.inl ⟨hcalls, hmarked⟩)
      · exact .inr (.inr ⟨_, if_pos rfl, houtcome⟩)
  · -- the handler failed
    refine ⟨fun hold => (hholds id).2 (.inl hold), ?_, ?_⟩
    · rintro (⟨-, hprocessed⟩ | ⟨-, hmarked⟩)
      · rw [houtcome] at hprocessed
        cases hprocessed
      · exact (hholds id).2 (.inr hmarked)
    · intro hnew
      rcases (hholds id).1 hnew with hold | hmarked
      · exact .inl hold
      · exact .inr (.inl ⟨hcalls, hmarked⟩)

/-- An action leaves a store that serves, and takes nothing out of the ledger of events. -/
theorem run_events {s : Store} (h : Serving s) (a : Action) :
    Serving (a.run s) ∧ ∀ id, a.Keeps id s := by
  cases a with
  | operation op => exact keeps_operation h op
  | dispatch now plan e =>
    by_cases hid : Holds s.database e.id
    · exact keeps_recorded h hid now plan
    · exact keeps_unrecorded h hid now plan

/-- A dispatch that ends with its event processed has recorded it. -/
theorem records_of_processed {s : Store} {a : Action} {id : String} {d : Dispatched}
    (hd : a.dispatched? id s = some d) (houtcome : d.outcome = .ok .processed) :
    a.Records id s := by
  cases a with
  | operation op => cases hd
  | dispatch now plan e =>
    rw [dispatched?] at hd
    split at hd
    · rename_i heq
      cases hd
      exact .inl ⟨heq, houtcome⟩
    · cases hd

section Dispatched

variable {s : Store} {a : Action} {id : String} {d : Dispatched} (h : Serving s)
  (hd : a.dispatched? id s = some d)
include h hd

/-- A dispatch of a recorded event. -/
theorem dispatched_recorded (hid : Holds s.database id) :
    d.outcome = .ok .duplicate ∧ d.calls = 0 ∧ d.store.database = s.database := by
  cases a with
  | operation op => cases hd
  | dispatch now plan e =>
    rw [dispatched?] at hd
    split at hd
    · rename_i heq
      subst heq
      rw [dispatch_recorded h hid] at hd
      cases hd
      exact ⟨rfl, rfl, rfl⟩
    · cases hd

/-- A dispatch of an event that is not recorded. -/
theorem dispatched_unrecorded (hid : ¬ Holds s.database id) :
    d.calls = 1 ∧
      (d.outcome = .ok .processed ∨ ∃ reason, d.outcome = .error (.handler reason)) := by
  cases a with
  | operation op => cases hd
  | dispatch now plan e =>
    rw [dispatched?] at hd
    split at hd
    · rename_i heq
      subst heq
      obtain ⟨hcalls, -, hends⟩ := dispatch_unrecorded h hid now plan
      cases hd
      refine ⟨hcalls, ?_⟩
      rcases hends with ⟨houtcome, -⟩ | ⟨hreason, -⟩
      · exact .inl houtcome
      · exact .inr hreason
    · cases hd

/-- A handler that succeeded has its event processed: nothing keeps the dispatcher from recording
it. -/
theorem succeeded_iff : d.succeeded = true ↔ d.outcome = .ok .processed := by
  unfold Dispatched.succeeded
  by_cases hid : Holds s.database id
  · obtain ⟨houtcome, hcalls, -⟩ := dispatched_recorded h hd hid
    rw [houtcome, hcalls]
    simp
  · obtain ⟨hcalls, houtcome | ⟨reason, houtcome⟩⟩ := dispatched_unrecorded h hd hid
    · rw [houtcome, hcalls]
      simp
    · rw [houtcome, hcalls]
      simp

end Dispatched

end Action

/-! ## Any run -/

/-- All along a run the store serves. -/
theorem serving_trail {s : Store} (h : Serving s) (actions : List Action) :
    Serving (runs Action.run actions s) ∧ ∀ p ∈ trail Action.run s actions, Serving p.2 := by
  obtain ⟨hend, hall⟩ := trail_invariant Action.run (I := Serving) (P := fun _ => True)
    (fun a _ _ h => (a.run_events h).1) (fun _ _ => trivial) h
  exact ⟨hend, fun p hp => (hall p hp).2⟩

/-- What is recorded stays recorded. -/
theorem holds_trail {s : Store} (h : Serving s) {actions : List Action} {id : String}
    (hid : Holds s.database id) : ∀ p ∈ trail Action.run s actions, Holds p.2.database id := by
  induction actions generalizing s with
  | nil =>
    intro p hp
    cases hp
  | cons a rest ih =>
    obtain ⟨hserving, hkeeps⟩ := a.run_events h
    intro p hp
    rcases List.mem_cons.1 hp with rfl | hp
    · exact hid
    · exact ih hserving ((hkeeps id).kept hid) p hp

/-- What can be said only of dispatches that process the event can be said of one at most. -/
theorem countP_le_one {P : Dispatched → Bool} {id : String}
    (hP : ∀ a s d, Serving s → Action.dispatched? id a s = some d → P d = true →
      d.outcome = .ok .processed) {s : Store} (h : Serving s) (actions : List Action) :
    (trail Action.run s actions).countP (fun p => (p.1.dispatched? id p.2).any P) ≤ 1 := by
  induction actions generalizing s with
  | nil => exact Nat.zero_le 1
  | cons a rest ih =>
    obtain ⟨hserving, hkeeps⟩ := a.run_events h
    rw [trail, List.countP_cons]
    cases hany : (a.dispatched? id s).any P with
    | false => simpa [hany] using ih hserving
    | true =>
      -- the event is recorded now, so that no later dispatch processes it
      obtain ⟨d, hd, hPd⟩ := (Option.any_eq_true _ _).1 hany
      have hholds : Holds (a.run s).database id :=
        (hkeeps id).recorded (Action.records_of_processed hd (hP a s d h hd hPd))
      have hrest : (trail Action.run (a.run s) rest).countP
          (fun p => (p.1.dispatched? id p.2).any P) = 0 := by
        rw [List.countP_eq_zero]
        intro p hp hPp
        obtain ⟨d', hd', hPd'⟩ := (Option.any_eq_true _ _).1 hPp
        have hserving' := (serving_trail hserving rest).2 p hp
        have hprocessed := hP p.1 p.2 d' hserving' hd' hPd'
        rw [(Action.dispatched_recorded hserving' hd' (holds_trail hserving hholds p hp)).1]
          at hprocessed
        cases hprocessed
      rw [hrest]
      exact Nat.le_refl 1

/-- An event that nothing marks and whose handlers fail is not recorded in a run. -/
theorem not_holds_runs {s : Store} (h : Serving s) {actions : List Action} {id : String}
    (hid : ¬ Holds s.database id) (hmarks : ∀ p ∈ trail Action.run s actions, ¬ p.1.Marks id p.2)
    (hfails : ∀ p ∈ trail Action.run s actions, ∀ d, p.1.dispatched? id p.2 = some d →
      d.succeeded = false) : ¬ Holds (runs Action.run actions s).database id := by
  induction actions generalizing s with
  | nil => exact hid
  | cons a rest ih =>
    obtain ⟨hserving, hkeeps⟩ := a.run_events h
    refine ih hserving (fun hnew => ?_) (fun p hp => hmarks p (List.mem_cons_of_mem _ hp))
      fun p hp => hfails p (List.mem_cons_of_mem _ hp)
    rcases (hkeeps id).only hnew with hold | hmarked | ⟨d, hd, houtcome⟩
    · exact hid hold
    · exact hmarks (a, s) List.mem_cons_self hmarked
    · have hsucceeded := (Action.succeeded_iff h hd).2 houtcome
      rw [hfails (a, s) List.mem_cons_self d hd] at hsucceeded
      cases hsucceeded

/-- What becomes of one event in a run. -/
structure AtMostOnce (s : Store) (actions : List Action) (id : String) : Prop where
  /-- One dispatch at most reports the event as processed. -/
  processed : (trail Action.run s actions).countP (fun p =>
    (p.1.dispatched? id p.2).any fun d => decide (d.outcome = .ok .processed)) ≤ 1
  /-- A handler succeeds once at most. -/
  succeeded : (trail Action.run s actions).countP (fun p =>
    (p.1.dispatched? id p.2).any Dispatched.succeeded) ≤ 1
  /-- The event is recorded by whatever processes or marks it. -/
  recorded : ∀ before a after, actions = before ++ a :: after →
    a.Records id (runs Action.run before s) → Recorded (a.run (runs Action.run before s)) id
  /-- Once it is recorded, every later dispatch passes it over and changes nothing. -/
  passedOver : ∀ before after, actions = before ++ after →
    Recorded (runs Action.run before s) id →
    ∀ p ∈ trail Action.run (runs Action.run before s) after, ∀ d, p.1.dispatched? id p.2 = some d →
      d.outcome = .ok .duplicate ∧ d.calls = 0 ∧ d.store.database = p.2.database
  /-- If it was not recorded, nothing marks it and its handlers fail, it stays unrecorded, and the
  next dispatch calls the handler. -/
  retried : (s.isProcessed id).2 = .ok false →
    (∀ p ∈ trail Action.run s actions, ¬ p.1.Marks id p.2) →
    (∀ p ∈ trail Action.run s actions, ∀ d, p.1.dispatched? id p.2 = some d →
      d.succeeded = false) →
    ((runs Action.run actions s).isProcessed id).2 = .ok false ∧
      ∀ now plan e, e.id = id →
        ((runs Action.run actions s).dispatch now (Plan.handler plan) e).calls = 1

/-- **At most once.** Whatever is dispatched and done over an open store whose ledger of events has
the declared shape, every event is processed once at most, never after it was recorded, and again
after its handler failed. -/
theorem dispatch_at_most_once {s : Store} (hopen : s.access = .opened .free)
    (hshape : Migration.eventsShape.refusal? s.database = none) (actions : List Action)
    (id : String) : AtMostOnce s actions id := by
  have hs : Serving s := ⟨hopen, hasEvents_of_refusal? hshape⟩
  refine ⟨?_, ?_, ?_, ?_, ?_⟩
  · -- processed
    refine countP_le_one (fun a s d h hd hprocessed => ?_) hs actions
    exact of_decide_eq_true hprocessed
  · -- succeeded
    refine countP_le_one (fun a s d h hd hsucceeded => ?_) hs actions
    exact (Action.succeeded_iff h hd).1 hsucceeded
  · -- recorded
    intro before a after _ hrecords
    have hserving := (serving_trail hs before).1
    obtain ⟨hserving', hkeeps⟩ := a.run_events hserving
    exact (recorded_iff hserving' id).2 ((hkeeps id).recorded hrecords)
  · -- passed over
    intro before after _ hrecorded p hp d hd
    have hserving := (serving_trail hs before).1
    have hholds := (recorded_iff hserving id).1 hrecorded
    exact Action.dispatched_recorded ((serving_trail hserving after).2 p hp) hd
      (holds_trail hserving hholds p hp)
  · -- retried
    intro hnew hmarks hfails
    have hend := (serving_trail hs actions).1
    have hnot := not_holds_runs hs ((isProcessed_eq_false_iff hs id).1 hnew) hmarks hfails
    refine ⟨(isProcessed_eq_false_iff hend id).2 hnot, ?_⟩
    rintro now plan e rfl
    exact (dispatch_unrecorded hend hnot now plan).1

/-- A new store with the built-in tables. -/
def migrated : Store :=
  .opened (Database.empty.script .free (Registry.builtIn.flatMap Migration.statements)).1

/-- A plan that marks its event itself, and then fails if it has no source. -/
def hasty : Plan where
  operations := fun e _ => [.markEvent (Store.still 0) e.id none]
  verdict := fun e _ => if e.source = "" then .error "no source" else .ok ()

/-- An event that its handler marked is passed over although the handler failed. -/
theorem dispatch_at_most_once_hasty :
    AtMostOnce migrated
      [.dispatch (Store.still 0) hasty ⟨"event-1", "created", "", .null⟩, .operation .listOverrides,
        .dispatch (Store.still 0) hasty ⟨"event-1", "created", "shop", .null⟩] "event-1" :=
  dispatch_at_most_once rfl (by decide +kernel) _ _

end DispatchStore
