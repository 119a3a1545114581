import DispatchStore.Database.Catalog
import DispatchStore.Database.Fault
import DispatchStore.Table.Basic

/-!
# Databases

A database is a list of tables in the order of their creation. A table is found by its name in any
case of letters.

There is nothing in a database but tables. Views and triggers are left out, as are all indexes but
the one of the primary key. The tables and views that the engine has on its own are no part of the
database (`EngineTable`).
-/

namespace DispatchStore

/-- A database. -/
structure Database where
  tables : List Table
deriving DecidableEq

namespace Database

/-- A database without tables. -/
def empty : Database := ⟨[]⟩

/-- The table with the given name. -/
def find? (db : Database) (name : String) : Option Table := db.tables.find? (Table.isNamed name)

/-- The table with the given name, or the error that there is none. -/
def table (db : Database) (name : String) : Except EngineError Table :=
  match db.find? name with
  | some t => .ok t
  | none => .error (.noSuchTable name)

/-- The engine's own table with the given name, unless a table was created under it. -/
def engineTable? (db : Database) (name : String) : Option EngineTable :=
  if (db.find? name).isSome then none else EngineTable.named? name

/-- Whether a table cannot be renamed to `newName`, because a table or an index goes by that name.
What lasts no longer than the connection has names of its own. -/
def isTakenFor (db : Database) (name newName : String) : Bool :=
  let isNew := Text.sameLetters newName
  if (db.engineTable? name).any EngineTable.isTemporary then
    EngineTable.contentsNames.any isNew || EngineTable.temporaryNames.any isNew
  else
    (db.find? newName).isSome || EngineTable.contentsNames.any isNew ||
      db.tables.any fun t => t.indexName?.any isNew

/-- The database with the table of the given name changed. -/
def modify (db : Database) (name : String) (f : Table → Table) : Database :=
  ⟨db.tables.map fun t => if t.isNamed name then f t else t⟩

/-- The database without the table of the given name. -/
def remove (db : Database) (name : String) : Database :=
  ⟨db.tables.filter fun t => !t.isNamed name⟩

/-- The columns of a table, also of one of the engine; none if there is no such table. -/
def columns (db : Database) (name : String) : List Column :=
  match db.find? name with
  | some t => t.columns
  | none => (EngineTable.named? name).elim [] EngineTable.columns

/-- The columns of a table as the engine describes them. It does so by a view, which cannot be asked
while a table is in front of it.
Source: `describe_table`, specification §12 -/
def describe (db : Database) (name : String) : Except EngineError (List Column) :=
  let view := "pragma_table_info"
  if (db.find? view).isSome then .error (.notAView view) else .ok (db.columns name)

/-- The names of the tables in ascending order. -/
def tableNames (db : Database) : List String :=
  (db.tables.map Table.name).mergeSort (· ≤ ·)

end Database

end DispatchStore
