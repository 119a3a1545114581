import DispatchStore.Store.Decisions
import DispatchStore.Store.Error
import DispatchStore.Store.Events

/-!
# Dispatching events

An event is given to a handler unless it was processed before. It is recorded only after the handler
succeeded, so that an event whose handler failed can be dispatched again. A handler may do anything
to the store, also record the event itself.
-/

namespace DispatchStore

/-- What is done with an event. It changes the store and fails with a reason or not at all.
Source: `EventHandler`, specification §17 -/
abbrev Handler := Event → Store → Store × Except String Unit

/-- How a dispatch ends.
Source: `DispatchOutcome`, specification §17 -/
inductive Outcome where
  /-- The handler ran and the event is recorded. -/
  | processed
  /-- The event was recorded before; the handler did not run. -/
  | duplicate
deriving DecidableEq

/-- What a dispatch leaves behind. -/
structure Dispatched where
  store : Store
  /-- How often the handler ran. -/
  calls : Nat
  outcome : Except StoreError Outcome

/-- Dispatches an event. A recording by somebody else in the meantime counts as this one's.
Source: `dispatch`, specification §17 -/
def Store.dispatch (s : Store) (now : Timestamp) (handler : Handler) (e : Event) : Dispatched :=
  match s.isProcessed e.id with
  | (s, .error fault) => ⟨s, 0, .error (.database fault)⟩
  | (s, .ok true) => ⟨s, 0, .ok .duplicate⟩
  | (s, .ok false) =>
    match handler e s with
    | (s, .error reason) => ⟨s, 1, .error (.handler reason)⟩
    | (s, .ok ()) =>
      match s.markEvent now e.id (some e.eventType) with
      | (s, .error fault) => ⟨s, 1, .error (.database fault)⟩
      | (s, .ok _) => ⟨s, 1, .ok .processed⟩

namespace Handler

/-- The handler that does nothing. -/
def idle : Handler := fun _ s => (s, .ok ())

/-- The handler that always fails. -/
def failing (reason : String) : Handler := fun _ s => (s, .error reason)

/-- The handler that closes the store. -/
def closing : Handler := fun _ s => (s.close, .ok ())

/-- The handler that records the event itself, with a type of its own. -/
def marking (now : Timestamp) (eventType : String) : Handler := fun e s =>
  let (s, result) := s.markEvent now e.id (some eventType)
  (s, (result.map fun _ => ()).mapError Fault.message)

/-- The handler that keeps a pending decision for each event and refuses an event whose payload has
the key `reject`. -/
def recording (now : Timestamp) : Handler := fun e s =>
  if e.payload.hasKey "reject" then (s, .error ("rejected " ++ e.id))
  else
    let decision := Decision.create ("decision-" ++ e.id) now.iso e.eventType e.payload
    let (s, result) := s.insertDecision decision
    (s, result.mapError Fault.message)

end Handler

end DispatchStore
