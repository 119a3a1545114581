import DispatchStore.Database.Query
import DispatchStore.Database.Statement

/-!
# Connections

A connection remembers the schema as it last saw it, and every statement that it compiled: whether
it writes, and how it names the cells that it reads. Other connections may change the schema in the
meantime. Then a statement is compiled again before it runs, but what fails before that fails by
what was remembered: a write that is held off, a new statement that is refused for another reason
than a name that was not found. The names of cells are never looked up again.

A connection that remembers nothing, or nothing that has changed, does what `Statement.exec` and
`Query.run` say.
-/

namespace DispatchStore

/-- How a connection reaches its database. -/
inductive Access where
  | opened (lock : WriteLock)
  /-- The database cannot be looked at. -/
  | blocked (error : EngineError)
  | closed
deriving DecidableEq

namespace Access

/-- What keeps a connection from writing. -/
def lock : Access → WriteLock
  | opened lock => lock
  | blocked e => .refused e
  | closed => .free

/-- Why a statement fails as it begins. -/
def fault? (writes : Bool) : Access → Option Fault
  | closed => some .poolClosed
  | blocked e => some (.engine e)
  | opened (.refused e) => if writes then some (.engine e) else none
  | opened _ => none

end Access

/-- The text of a statement, in which the values are left open. -/
inductive Template where
  /-- A statement of a script, by its place there. -/
  | part (index : Nat) (script : List Statement)
  | statement (s : Statement)
  | query (q : Query)
deriving DecidableEq

namespace Template

/-- Whether the text is that of a query. -/
def isQuery : Template → Bool
  | .query _ => true
  | _ => false

/-- The named values left open. -/
def openValues (values : List (String × Value)) : List (String × Value) :=
  values.map fun v => (v.1, .null)

/-- The text of a statement. -/
def ofStatement : Statement → Template
  | .insert table values onConflict => .statement (.insert table (openValues values) onConflict)
  | .update table column _ criteria => .statement (.update table column "" (openValues criteria))
  | .delete table criteria spelling => .statement (.delete table (openValues criteria) spelling)
  | s => .statement s

/-- The text of a query. -/
def ofQuery (q : Query) : Template :=
  .query { q with criteria := openValues q.criteria, limit := q.limit.map fun _ => 0 }

end Template

/-- What is remembered of a statement. -/
structure Prepared where
  writes : Bool
  /-- The names of the cells that it reads. -/
  names : List String
deriving DecidableEq

/-- What a connection remembers. -/
structure Connection where
  /-- The tables without their rows, if it has looked. -/
  known : Option Database
  prepared : List (Template × Prepared)
deriving DecidableEq

/-- The tables without their rows. -/
def Database.schema (db : Database) : Database :=
  ⟨db.tables.map fun t => { t with rows := [] }⟩

namespace Connection

/-- A connection that remembers nothing. -/
def new : Connection := ⟨none, []⟩

/-- The connection after it changed the schema or looked at it for the first time. -/
def knowing (c : Connection) (db : Database) : Connection := { c with known := some db.schema }

/-- The connection after it looked at the schema. Statements that were compiled for a database
without tables are forgotten when there are some. -/
def informed (c : Connection) (db : Database) : Connection :=
  if c.known = some .empty && db.schema ≠ .empty then
    { c.knowing db with prepared := c.prepared.filter fun x => x.1.isQuery }
  else c.knowing db

/-- The connection after it forgot a statement. -/
def forget (c : Connection) (template : Template) : Connection :=
  { c with prepared := c.prepared.filter fun x => x.1 ≠ template }

/-- The connection after it compiled a statement. -/
def remember (c : Connection) (template : Template) (p : Prepared) : Connection :=
  let others := c.forget template
  { others with prepared := (template, p) :: others.prepared }

/-- The connection after it compiled a statement for a schema. A statement for which that fails is
not kept. -/
def compiled (c : Connection) (template : Template) (s : Statement) (db : Database) :
    Connection :=
  match s.check db with
  | .ok writes => c.remember template ⟨writes, []⟩
  | .error _ => c.forget template

/-! ## Running statements -/

/-- What makes a statement fail before the database is looked at. -/
def obstacle? (c : Connection) (access : Access) (template : Template) (s : Statement) :
    Option Fault :=
  if access = .closed then some .poolClosed
  else match c.prepared.lookup template, c.known with
    | some p, _ => access.fault? p.writes
    | none, none => access.fault? false
    | none, some known =>
      match s.check known with
      | .ok writes => access.fault? writes
      | .error e =>
        if e.isLookup && (access.fault? false).isNone then none else some (.engine e)

/-- The connection after a statement failed before the database was looked at. -/
def stopped (c : Connection) (template : Template) (s : Statement) : Connection :=
  match c.prepared.lookup template, c.known with
  | none, some known => c.compiled template s known
  | _, _ => c

/-- Runs a statement, and counts the rows that were written. -/
def exec (c : Connection) (access : Access) (template : Template) (s : Statement)
    (db : Database) : Database × Connection × Except Fault Nat :=
  match c.obstacle? access template s with
  | some fault => (db, c.stopped template s, .error fault)
  | none =>
    let c := (c.informed db).compiled template s db
    match s.exec access.lock db with
    | .ok (db', n) => (db', c.knowing db', .ok n)
    | .error e => (db, c, .error (.engine e))

/-- Runs the statements of a script from the place `index` on. -/
def scriptFrom (all : List Statement) (access : Access) :
    Nat → List Statement → Connection → Database → Database × Connection × Except Fault Unit
  | _, [], c, db => (db, c, if access = .closed then .error .poolClosed else .ok ())
  | index, s :: rest, c, db =>
    match c.exec access (.part index all) s db with
    | (db, c, .ok _) => scriptFrom all access (index + 1) rest c db
    | (db, c, .error (.engine e)) => (db, c, .error (.engine (Statement.errorBefore rest e)))
    | (db, c, .error fault) => (db, c, .error fault)

/-- Runs statements up to the first one that fails. -/
def script (c : Connection) (access : Access) (statements : List Statement) (db : Database) :
    Database × Connection × Except Fault Unit :=
  scriptFrom statements access 0 statements c db

/-! ## Reading -/

/-- The names of the cells that a query reads. -/
def header (c : Connection) (access : Access) (q : Query) (db : Database) :
    Except Fault (List String) :=
  match c.prepared.lookup (.ofQuery q), c.known, access.fault? false with
  | some p, _, _ => .ok p.names
  | none, none, some fault => .error fault
  | none, none, none => (q.header db).mapError .engine
  | none, some known, fault =>
    match q.header known with
    | .ok names => .ok names
    | .error e => if fault.isSome then .error (.engine e) else (q.header db).mapError .engine

/-- Looks at the database. -/
def inspect {α : Type} (c : Connection) (access : Access) (f : Database → α) (db : Database) :
    Connection × Except Fault α :=
  match access.fault? false with
  | some fault => (c, .error fault)
  | none => (c.informed db, .ok (f db))

/-- Reads the records of a query. -/
def read (c : Connection) (access : Access) (q : Query) (db : Database) :
    Connection × Except Fault (List Record) :=
  if access = .closed then (c, .error .poolClosed)
  else match c.header access q db with
    | .error fault => ((c.inspect access id db).1, .error fault)
    | .ok names =>
      let (c, result) := (c.remember (.ofQuery q) ⟨false, names⟩).inspect access q.run db
      (c, result.bind fun cells => (cells.mapError .engine).map (·.map names.zip))

end Connection

end DispatchStore
