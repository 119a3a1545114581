import DispatchStore.Decision
import DispatchStore.Store.Basic

/-!
# Decisions in the store

A decision is inserted once and after that only its status changes.
-/

namespace DispatchStore

/-- The decision in a record, with its status as it stands there.
Source: `decision_from_row` -/
def Decision.ofRecord (r : Record) : Except Fault Decision := do
  let id ← r.text "decision_id"
  let createdAt ← r.text "created_at"
  let kind ← r.text "kind"
  let payload ← r.text "payload_json"
  let status ← r.text "status"
  return ⟨id, createdAt, kind, payload, ⟨status⟩⟩

namespace Store

/-- The name of the table. -/
def decisionsTable : String := "processed_decisions"

/-- All columns of the table. -/
def decisionsColumns : List String :=
  ["decision_id", "created_at", "kind", "payload_json", "status"]

/-- Inserts a decision; its id must not be there yet.
Source: `insert_decision`, specification §15 -/
def insertDecision (s : Store) (d : Decision) : Store × Except Fault Unit :=
  let values := [("decision_id", .text d.id), ("created_at", .text d.createdAt),
    ("kind", .text d.kind), ("payload_json", .text d.payload), ("status", .text d.status.text)]
  let (s, result) := s.write (.insert decisionsTable values .refuse)
  (s, result.map fun _ => ())

/-- The decision with the given id.
Source: `get_decision`, specification §15 -/
def getDecision (s : Store) (id : String) : Store × Except Fault (Option Decision) :=
  let query : Query := ⟨decisionsTable, decisionsColumns, [("decision_id", .text id)], [], some 1⟩
  s.readAs query fun records => records.head?.mapM Decision.ofRecord

/-- Gives a decision another status, and says whether there is such a decision.
Source: `update_decision_status`, specification §15 -/
def updateStatus (s : Store) (id : String) (status : Status) : Store × Except Fault Bool :=
  let (s, result) :=
    s.write (.update decisionsTable "status" status.text [("decision_id", .text id)])
  (s, result.map (0 < ·))

/-- The decisions with a status, the oldest one first.
Source: `list_decisions_by_status`, specification §15 -/
def decisionsWithStatus (s : Store) (status : Status) (limit : Int) :
    Store × Except Fault (List Decision) :=
  s.readAs ⟨decisionsTable, decisionsColumns, [("status", .text status.text)],
    [("created_at", .ascending), ("decision_id", .ascending)], some (listingLimit limit)⟩
    fun records => records.mapM Decision.ofRecord

end Store

end DispatchStore
