import DispatchStore.Database.Statement
import DispatchStore.Schema.Shape

/-!
# Migrations

A migration is a numbered step of the schema: statements, and beside them the shape that they give
their table in an empty database. Each of the three built-in migrations creates one table unless a
table of its name is there. Their numbers leave gaps for others.
-/

namespace DispatchStore

/-- A numbered step of the schema.
Source: `Migration`, specification §11 -/
structure Migration where
  version : Int
  name : String
  statements : List Statement
  /-- The shape of its table after the step. -/
  shape : TableShape
deriving DecidableEq

namespace Migration

/-- Runs the statements alone, outside a transaction and without recording them.
Source: `apply` of a unit, specification §4 and §11 -/
def apply (lock : WriteLock) (db : Database) (m : Migration) :
    Database × Except EngineError Unit :=
  db.script lock m.statements

/-! ## The built-in migrations -/

/-- The shape of the table of overrides.
Source: `SHAPE` of unit 010, specification §3 -/
def overridesShape : TableShape :=
  ⟨"runtime_overrides", [.key "key", .optional "value", .optional "updated_at"]⟩

/-- The shape of the ledger of processed events.
Source: `SHAPE` of unit 011, specification §3 -/
def eventsShape : TableShape :=
  ⟨"processed_events", [.key "event_id", .optional "event_type", .optional "processed_at"]⟩

/-- The shape of the table of decisions.
Source: `SHAPE` of unit 016, specification §3 -/
def decisionsShape : TableShape :=
  ⟨"processed_decisions",
    [.key "decision_id", .required "created_at", .required "kind", .required "payload_json",
      .required "status"]⟩

/-- Creates the table of overrides.
Source: unit 010, specification §4.1 -/
def overrides : Migration where
  version := 10
  name := "runtime_overrides"
  statements :=
    [.create "runtime_overrides"
      [⟨"key", "TEXT", false, true⟩, ⟨"value", "TEXT", false, false⟩,
        ⟨"updated_at", "TEXT", false, false⟩] true .bare]
  shape := overridesShape

/-- Creates the ledger of processed events.
Source: unit 011, specification §4.2 -/
def events : Migration where
  version := 11
  name := "processed_events"
  statements :=
    [.create "processed_events"
      [⟨"event_id", "TEXT", false, true⟩, ⟨"event_type", "TEXT", false, false⟩,
        ⟨"processed_at", "TEXT", false, false⟩] true .bare]
  shape := eventsShape

/-- Creates the table of decisions.
Source: unit 016, specification §4.3 -/
def decisions : Migration where
  version := 16
  name := "processed_decisions"
  statements :=
    [.create "processed_decisions"
      [⟨"decision_id", "TEXT", false, true⟩, ⟨"created_at", "TEXT", true, false⟩,
        ⟨"kind", "TEXT", true, false⟩, ⟨"payload_json", "TEXT", true, false⟩,
        ⟨"status", "TEXT", true, false⟩] true .bare]
  shape := decisionsShape

end Migration

end DispatchStore
