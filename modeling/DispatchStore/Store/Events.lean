import DispatchStore.Event
import DispatchStore.Time.Timestamp
import DispatchStore.Store.Basic

/-!
# The ledger of processed events

An event is recorded once: a second recording of its id keeps the row that is there.
-/

namespace DispatchStore

/-- The processed event in a record. -/
def ProcessedEvent.ofRecord (r : Record) : Except Fault ProcessedEvent := do
  let id ← r.text "event_id"
  let eventType ← r.text? "event_type"
  let processedAt ← r.text? "processed_at"
  return ⟨id, eventType, processedAt⟩

namespace Store

/-- The name of the table. -/
def eventsTable : String := "processed_events"

/-- All columns of the table. -/
def eventsColumns : List String := ["event_id", "event_type", "processed_at"]

/-- Records an event, and says whether it was not recorded before.
Source: `mark_event_processed`, specification §15 -/
def markEvent (s : Store) (now : Timestamp) (id : String) (eventType : Option String) :
    Store × Except Fault Bool :=
  let values := [("event_id", .text id), ("event_type", eventType.elim .null .text),
    ("processed_at", .text now.iso)]
  let (s, result) := s.write (.insert eventsTable values (.keep "event_id"))
  (s, result.map (0 < ·))

/-- Whether an event is recorded.
Source: `is_event_processed`, specification §15 -/
def isProcessed (s : Store) (id : String) : Store × Except Fault Bool :=
  s.readAs ⟨eventsTable, [], [("event_id", .text id)], [], some 1⟩ fun records =>
    .ok !records.isEmpty

/-- The events recorded last, the latest one first.
Source: `list_recent_processed_events`, specification §15 -/
def recentEvents (s : Store) (limit : Int) : Store × Except Fault (List ProcessedEvent) :=
  s.readAs ⟨eventsTable, eventsColumns, [],
    [("processed_at", .descending), ("event_id", .descending)], some (listingLimit limit)⟩
    fun records => records.mapM ProcessedEvent.ofRecord

end Store

end DispatchStore
