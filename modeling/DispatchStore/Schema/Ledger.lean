import DispatchStore.Time.Timestamp
import DispatchStore.Database.Query
import DispatchStore.Database.Statement

/-!
# The ledger of versions

The table `schema_version` keeps one row for each migration that was applied: its version, which
numbers the rows, and the time of its recording. Reading it creates it first if it is missing. A
table of that name with other columns is left as it is.
-/

namespace DispatchStore.Ledger

/-- The name of the table. -/
def tableName : String := "schema_version"

/-- Creates the table unless there is one.
Source: `VERSION_TABLE_SQL`, specification §13 -/
def creation : Statement :=
  .create tableName [⟨"version", "INTEGER", false, true⟩, ⟨"applied_at", "TEXT", true, false⟩] true
    .bare

/-- Records a version. -/
def recording (version : Int) (appliedAt : String) : Statement :=
  .insert tableName [("version", .int version), ("applied_at", .text appliedAt)] .refuse

/-- The versions in ascending order. -/
def versions : Query := ⟨tableName, ["version"], [], [("version", .ascending)], none⟩

/-- The cell that was read from one column. -/
def onlyCell (cells : List Value) : Value := cells.head?.getD .null

/-- The database with the table.
Source: `ensure_version_table`, specification §13 -/
def ensure (lock : WriteLock) (db : Database) : Except EngineError Database :=
  (creation.exec lock db).map Prod.fst

/-- The cells of the version column in ascending order. -/
def cells (db : Database) : Except Fault (List Value) :=
  (versions.run db).mapError .engine |>.map (·.map onlyCell)

/-- The recorded versions, ascending, of a database that has the table. -/
def recorded (db : Database) : Except Fault (List Int) := do
  (← cells db).mapM Value.number

/-- The larger of two cells; null is less than all others. -/
def larger (a b : Value) : Value := if a.le b then b else a

/-- The highest recorded version of a database that has the table, or zero. -/
def highest (db : Database) : Except Fault Int := do
  ((← cells db).foldl larger .null).number

/-- Reads something from the table after creating it if needed. The table stays if reading fails. -/
def reading {α : Type} (lock : WriteLock) (read : Database → Except Fault α) (db : Database) :
    Database × Except Fault α :=
  match ensure lock db with
  | .ok db' => (db', read db')
  | .error e => (db, .error (.engine e))

/-- All recorded versions, ascending.
Source: `applied_versions`, specification §13 -/
def appliedVersions (lock : WriteLock) (db : Database) : Database × Except Fault (List Int) :=
  reading lock recorded db

/-- The highest recorded version, or zero if there is none.
Source: `current_version`, specification §13 -/
def currentVersion (lock : WriteLock) (db : Database) : Database × Except Fault Int :=
  reading lock highest db

end DispatchStore.Ledger
