import DispatchStore.Schema.Ledger
import DispatchStore.Schema.Registry

/-!
# Bringing a schema up to date

A pass over a registry applies every migration that is not recorded yet, in ascending order, each in
one transaction with its row in the ledger. It stops at the first migration that fails, of which
nothing stays; the ones before it stay applied and recorded. Afterwards the shapes of all tables are
compared if that was asked for, also of those that were there before; a difference undoes nothing.
-/

namespace DispatchStore

/-- Why a pass fails.
Source: `MigrationError`, specification §12 and §13 -/
inductive MigrationError where
  /-- A migration or its recording failed. -/
  | failed (version : Int) (name : String) (fault : Fault)
  | mismatch (table : String) (difference : ShapeDifference)
  | invalidRegistry (fault : RegistryFault)
  /-- The database could not be opened or its ledger not be read. -/
  | database (fault : Fault)
deriving DecidableEq

/-- The text of the error. -/
def MigrationError.message : MigrationError → String
  | failed version name fault =>
    "migration " ++ versionText version ++ " (" ++ name ++ ") failed: " ++ fault.message
  | mismatch table difference =>
    "table " ++ table ++ " does not match its declared shape: " ++ difference.message
  | invalidRegistry fault => "invalid migration registry: " ++ fault.message
  | database fault => fault.message

/-- What a pass did.
Source: `MigrationReport`, specification §13 -/
structure Report where
  /-- The versions that it applied, ascending. -/
  applied : List Int
  /-- The highest recorded version after it. -/
  currentVersion : Int
deriving DecidableEq

/-- Why the table of a shape is refused: it departs from the shape, or it cannot be looked at.
Source: `verify_shape`, specification §12 -/
def TableShape.refusal? (shape : TableShape) (db : Database) : Option MigrationError :=
  match db.describe shape.table with
  | .error e => some (.database (.engine e))
  | .ok live => (shape.difference? live).map (.mismatch shape.table)

/-- The time at which the migration of a version is recorded. -/
abbrev Clock := Int → Timestamp

namespace Migration

/-- Applies and records a migration; either both take effect or nothing.
Source: `apply_recorded`, specification §13 -/
def applyRecorded (lock : WriteLock) (clock : Clock) (db : Database) (m : Migration) :
    Except EngineError Database :=
  db.transaction lock [m.statements, [Ledger.recording m.version (clock m.version).iso]]

end Migration

namespace Registry

/-- Applies the migrations whose version is not among the recorded ones, up to the first that
fails. The result holds the versions that were applied. -/
def applyPending (lock : WriteLock) (clock : Clock) (recorded : List Int) :
    Database → Registry → Database × Except MigrationError (List Int)
  | db, [] => (db, .ok [])
  | db, m :: rest =>
    if recorded.contains m.version then applyPending lock clock recorded db rest
    else
      match m.applyRecorded lock clock db with
      | .error e => (db, .error (.failed m.version m.name (.engine e)))
      | .ok db' =>
        let (db'', applied) := applyPending lock clock recorded db' rest
        (db'', applied.map (m.version :: ·))

/-- Why the first table that is refused is refused. -/
def refusal? (r : Registry) (db : Database) : Option MigrationError :=
  r.findSome? fun m => m.shape.refusal? db

/-- A pass over a registry.
Source: `run` of the runner, specification §13 -/
def upgrade (lock : WriteLock) (clock : Clock) (verify : Bool) (r : Registry) (db : Database) :
    Database × Except MigrationError Report :=
  match r.fault? with
  | some fault => (db, .error (.invalidRegistry fault))
  | none =>
    match Ledger.appliedVersions lock db with
    | (db, .error fault) => (db, .error (.database fault))
    | (db, .ok recorded) =>
      match applyPending lock clock recorded db r with
      | (db, .error e) => (db, .error e)
      | (db, .ok applied) =>
        match if verify then r.refusal? db else none with
        | some e => (db, .error e)
        | none =>
          match Ledger.currentVersion lock db with
          | (db, .error fault) => (db, .error (.database fault))
          | (db, .ok version) => (db, .ok ⟨applied, version⟩)

end Registry

end DispatchStore
