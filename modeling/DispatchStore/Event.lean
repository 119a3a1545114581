import DispatchStore.Text.Blank
import DispatchStore.Json.Decoder

/-!
# Events

An event comes from outside with an id, a type, a source and a payload. The id tells deliveries of
one event apart from other events. An event that was processed leaves a row with its id, its type
and the time of its recording.
-/

namespace DispatchStore

/-- An event that is to be handled.
Source: `Event`, specification §16 -/
structure Event where
  /-- The key under which the event is processed once. -/
  id : String
  eventType : String
  source : String
  payload : Json

/-- A row of the ledger of processed events.
Source: `ProcessedEvent`, specification §16 -/
structure ProcessedEvent where
  id : String
  eventType : Option String
  /-- The stored time, returned as it was written. -/
  processedAt : Option String
deriving DecidableEq

namespace Event

/-- The event with the id that its producer gave it. The blank characters around an id do not count,
and a blank id leaves the event as it is.
Source: `with_id`, specification §16 -/
def withId (id : String) (e : Event) : Event :=
  if Text.isBlankText id then e else { e with id := Text.trim id }

/-- The JSON form of an event. -/
def toJson (e : Event) : Json :=
  .object [("event_id", .text e.id), ("event_type", .text e.eventType),
    ("source", .text e.source), ("payload", e.payload)]

/-- The fields of an event that were read so far. -/
structure Draft where
  id : Option String := none
  eventType : Option String := none
  source : Option String := none
  payload : Option Json := none

/-- The fields of the JSON form. -/
def fields : List (Json.Field Draft) :=
  [.of "event_id" (·.id) (fun v d => { d with id := some v }) .text false,
    .of "event_type" (·.eventType) (fun v d => { d with eventType := some v }) .text false,
    .of "source" (·.source) (fun v d => { d with source := some v }) .text false,
    .of "payload" (·.payload) (fun v d => { d with payload := some v }) .json true]

/-- The event of a draft. Without a payload the payload is null. -/
def Draft.complete (d : Draft) : Except Json.Fault Event := do
  let id ← Json.Record.need "event_id" d.id
  let eventType ← Json.Record.need "event_type" d.eventType
  let source ← Json.Record.need "source" d.source
  return ⟨id, eventType, source, d.payload.getD .null⟩

/-- Reads an event from its JSON form. -/
def decoder : Json.Decoder Event := Json.Record.decoder "Event" fields {} Draft.complete

end Event

namespace ProcessedEvent

/-- The JSON form of a row. -/
def toJson (e : ProcessedEvent) : Json :=
  .object [("event_id", .text e.id), ("event_type", .ofText? e.eventType),
    ("processed_at", .ofText? e.processedAt)]

/-- The fields of a row that were read so far. -/
structure Draft where
  id : Option String := none
  eventType : Option (Option String) := none
  processedAt : Option (Option String) := none

/-- The fields of the JSON form. -/
def fields : List (Json.Field Draft) :=
  [.of "event_id" (·.id) (fun v d => { d with id := some v }) .text false,
    .of "event_type" (·.eventType) (fun v d => { d with eventType := some v })
      (.optional .text) false,
    .of "processed_at" (·.processedAt) (fun v d => { d with processedAt := some v })
      (.optional .text) false]

/-- The row of a draft. The type and the time may be missing. -/
def Draft.complete (d : Draft) : Except Json.Fault ProcessedEvent := do
  let id ← Json.Record.need "event_id" d.id
  return ⟨id, d.eventType.getD none, d.processedAt.getD none⟩

/-- Reads a row from its JSON form. -/
def decoder : Json.Decoder ProcessedEvent :=
  Json.Record.decoder "ProcessedEvent" fields {} Draft.complete

end ProcessedEvent

end DispatchStore
