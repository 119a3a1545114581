import DispatchStore.Text.Blank
import DispatchStore.Json.Decoder

/-!
# Decisions

A decision is kept with the time it was made, its kind, its payload as JSON text and a status that
changes while it is carried out. The vocabulary of statuses is open: a status is any text that is
not blank, without the blank characters around it. A status that was stored otherwise is read as it
stands, so that a row and a search for its status agree.
-/

namespace DispatchStore

/-- The status of a decision.
Source: `DecisionStatus`, specification §16 -/
structure Status where
  /-- The text as it is stored. -/
  text : String
deriving DecidableEq

namespace Status

/-- The status with the given text, trimmed. A blank text is no status. -/
def of? (s : String) : Option Status := if Text.isBlankText s then none else some ⟨Text.trim s⟩

/-- The reason why a blank text is no status. -/
def blankMessage : String := "decision status must not be empty"

/-- A decision that was made and not yet carried out. -/
def pending : Status := ⟨"pending"⟩

/-- A decision that was carried out. -/
def applied : Status := ⟨"applied"⟩

/-- A decision that could not be carried out. -/
def failed : Status := ⟨"failed"⟩

/-- The statuses with a name of their own. -/
def known : List Status := [pending, applied, failed]

/-- The JSON form of a status. -/
def toJson (s : Status) : Json := .text s.text

/-- Reads a status from its JSON form. -/
def decoder : Json.Decoder Status :=
  Json.Decoder.refined .text fun s =>
    match of? s with
    | some status => .ok status
    | none => .error blankMessage

end Status

/-- A row of the table of decisions.
Source: `Decision`, specification §16 -/
structure Decision where
  id : String
  /-- The stored time, returned as it was written. -/
  createdAt : String
  kind : String
  /-- The payload as JSON text. -/
  payload : String
  status : Status
deriving DecidableEq

namespace Decision

/-- A pending decision.
Source: `new` of a decision, specification §16 -/
def create (id createdAt kind : String) (payload : Json) : Decision :=
  ⟨id, createdAt, kind, payload.render, .pending⟩

/-- Reads the payload as a value of type `α`.
Source: `payload` of a decision -/
def readPayload {α : Type} (d : Decision) (as : Json.Decoder α) : Except Json.Error α :=
  as.run d.payload

/-- The JSON form of a decision. -/
def toJson (d : Decision) : Json :=
  .object [("decision_id", .text d.id), ("created_at", .text d.createdAt), ("kind", .text d.kind),
    ("payload_json", .text d.payload), ("status", d.status.toJson)]

/-- The fields of a decision that were read so far. -/
structure Draft where
  id : Option String := none
  createdAt : Option String := none
  kind : Option String := none
  payload : Option String := none
  status : Option Status := none

/-- The fields of the JSON form. -/
def fields : List (Json.Field Draft) :=
  [.of "decision_id" (·.id) (fun v d => { d with id := some v }) .text false,
    .of "created_at" (·.createdAt) (fun v d => { d with createdAt := some v }) .text false,
    .of "kind" (·.kind) (fun v d => { d with kind := some v }) .text false,
    .of "payload_json" (·.payload) (fun v d => { d with payload := some v }) .text false,
    .of "status" (·.status) (fun v d => { d with status := some v }) Status.decoder false]

/-- The decision of a draft. -/
def Draft.complete (d : Draft) : Except Json.Fault Decision := do
  let id ← Json.Record.need "decision_id" d.id
  let createdAt ← Json.Record.need "created_at" d.createdAt
  let kind ← Json.Record.need "kind" d.kind
  let payload ← Json.Record.need "payload_json" d.payload
  let status ← Json.Record.need "status" d.status
  return ⟨id, createdAt, kind, payload, status⟩

/-- Reads a decision from its JSON form. -/
def decoder : Json.Decoder Decision := Json.Record.decoder "Decision" fields {} Draft.complete

end Decision

end DispatchStore
