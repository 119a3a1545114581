import DispatchStore.Database.Connection

/-!
# The store

A store is a database together with the connection and the access to it. Reads see the database as
it is; a write fails while another connection is writing. Once the store is closed everything fails.
What fails leaves the database as it was.

Sections are cited from the specification of the store (SPEC_FULL), with the name that an operation
has there.
-/

namespace DispatchStore

/-- A database, the access to it and what the connection remembers of it.
Source: `Repository`, specification §15 -/
structure Store where
  database : Database
  access : Access
  connection : Connection
deriving DecidableEq

namespace Store

/-- A store that nobody else uses. -/
def opened (db : Database) : Store := ⟨db, .opened .free, .new⟩

/-- The store after it was closed. -/
def close (s : Store) : Store := { s with access := .closed }

/-- Runs a statement, and counts the rows that were written. -/
def write (s : Store) (statement : Statement) : Store × Except Fault Nat :=
  match s.connection.exec s.access (.ofStatement statement) statement s.database with
  | (database, connection, result) => ({ s with database, connection }, result)

/-- Runs statements up to the first one that fails. -/
def script (s : Store) (statements : List Statement) : Store × Except Fault Unit :=
  match s.connection.script s.access statements s.database with
  | (database, connection, result) => ({ s with database, connection }, result)

/-- Reads the records of a query. -/
def read (s : Store) (q : Query) : Store × Except Fault (List Record) :=
  match s.connection.read s.access q s.database with
  | (connection, result) => ({ s with connection }, result)

/-- Reads the records of a query and takes something from them. -/
def readAs {α : Type} (s : Store) (q : Query) (f : List Record → Except Fault α) :
    Store × Except Fault α :=
  match s.read q with
  | (s, result) => (s, result.bind f)

/-- Looks at the database. -/
def inspect {α : Type} (s : Store) (f : Database → α) : Store × Except Fault α :=
  match s.connection.inspect s.access f s.database with
  | (connection, result) => ({ s with connection }, result)

/-- The most rows that one listing returns.
Source: `MAX_LIST_LIMIT` -/
def maxListing : Int := 500

/-- The number of rows that a listing returns at most: at least one, and no more than the bound.
Source: `clamp_limit`, specification §15 -/
def listingLimit (limit : Int) : Nat := (max 1 (min limit maxListing)).toNat

end Store

end DispatchStore
