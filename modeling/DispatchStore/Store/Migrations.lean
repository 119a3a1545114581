import DispatchStore.Schema.Upgrade
import DispatchStore.Store.Basic

/-!
# Migrations of a store

What is done to the ledger begins with its creation, unless it is there. If that gets through to the
database, a pass goes as `Registry.upgrade` says; what is added here is what the connection
remembers afterwards: the statements that the pass compiled, in their order, and the schema. A
migration that changed the schema and was undone leaves the schema to be looked at again.
-/

namespace DispatchStore

/-- A statement that is compiled, and the database that it is compiled for. -/
structure Compilation where
  template : Template
  statement : Statement
  database : Database

/-- The connection after a compilation. -/
def Connection.after (c : Connection) (x : Compilation) : Connection :=
  (c.knowing x.database).compiled x.template x.statement x.database

namespace Database

/-- The databases that statements find, up to the first statement that fails. -/
def stages (lock : WriteLock) : Database → List Statement → List (Statement × Database)
  | _, [] => []
  | db, s :: rest => (s, db) :: match s.exec lock db with
    | .ok (db', _) => stages lock db' rest
    | .error _ => []

end Database

namespace Ledger

/-- The compilation of the creation of the table. -/
def compilation (db : Database) : Compilation := ⟨.ofStatement creation, creation, db⟩

end Ledger

namespace Migration

/-- The compilations of a migration with its recording. -/
def compilations (lock : WriteLock) (clock : Clock) (db : Database) (m : Migration) :
    List Compilation :=
  let recording := Ledger.recording m.version (clock m.version).iso
  (db.stages lock.inside (m.statements ++ [recording])).zipIdx.map fun x =>
    let template :=
      if x.2 < m.statements.length then .part x.2 m.statements else .ofStatement recording
    ⟨template, x.1.1, x.1.2⟩

end Migration

namespace Registry

/-- The compilations of the migrations that are applied, also those of the one that fails; `last`
are those that follow if none fails. -/
def pendingCompilations (lock : WriteLock) (clock : Clock) (recorded : List Int)
    (last : Database → List Compilation) : Database → Registry → List Compilation
  | db, [] => last db
  | db, m :: rest =>
    if recorded.contains m.version then pendingCompilations lock clock recorded last db rest
    else m.compilations lock clock db ++ match m.applyRecorded lock clock db with
      | .ok db' => pendingCompilations lock clock recorded last db' rest
      | .error _ => []

/-- The compilations of a pass behind the creation of the ledger. In the end the ledger is read,
which begins with its creation again. -/
def compilations (lock : WriteLock) (clock : Clock) (verify : Bool) (r : Registry)
    (db : Database) : List Compilation :=
  let last := fun (db : Database) =>
    if verify && (r.refusal? db).isSome then [] else [Ledger.compilation db]
  match Ledger.appliedVersions lock db with
  | (db, .ok recorded) => pendingCompilations lock clock recorded last db r
  | (_, .error _) => []

end Registry

namespace Store

/-- Creates the ledger and then does something with the database, if the creation gets through to
it; `compilations` are those of what is done. -/
def withLedger {ε α : Type} (s : Store) (ofFault : Fault → ε)
    (f : WriteLock → Database → Database × Except ε α)
    (compilations : WriteLock → Database → List Compilation) : Store × Except ε α :=
  let creation := Ledger.compilation s.database
  match s.connection.obstacle? s.access creation.template creation.statement with
  | some fault =>
    let connection := s.connection.stopped creation.template creation.statement
    ({ s with connection }, .error (ofFault fault))
  | none =>
    let lock := s.access.lock
    let (database, result) := f lock s.database
    let remembered := (compilations lock s.database).foldl Connection.after
      ((s.connection.informed s.database).after creation)
    let known := match result with
      | .ok _ => some database.schema
      | .error _ => if remembered.known = some database.schema then remembered.known else none
    ({ s with database, connection := { remembered with known } }, result)

/-- All recorded versions, ascending.
Source: `applied_versions`, specification §13 -/
def appliedVersions (s : Store) : Store × Except Fault (List Int) :=
  s.withLedger id Ledger.appliedVersions fun _ _ => []

/-- The highest recorded version, or zero if there is none.
Source: `current_version`, specification §13 -/
def currentVersion (s : Store) : Store × Except Fault Int :=
  s.withLedger id Ledger.currentVersion fun _ _ => []

/-- A pass over a registry.
Source: `run` of the runner, specification §13 -/
def upgrade (s : Store) (clock : Clock) (verify : Bool) (r : Registry) :
    Store × Except MigrationError Report :=
  match s.access, r.fault? with
  | .closed, _ => (s, .error (.database .poolClosed))
  | _, some fault => (s, .error (.invalidRegistry fault))
  | _, none =>
    s.withLedger .database (fun lock db => r.upgrade lock clock verify db) fun lock db =>
      r.compilations lock clock verify db

/-- Compares a table with a shape.
Source: `verify_shape`, specification §12 -/
def verify (s : Store) (shape : TableShape) : Store × Except MigrationError Unit :=
  match s.inspect shape.refusal? with
  | (s, .error fault) => (s, .error (.database fault))
  | (s, .ok (some e)) => (s, .error e)
  | (s, .ok none) => (s, .ok ())

end Store

end DispatchStore
