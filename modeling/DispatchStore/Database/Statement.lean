import DispatchStore.Database.Basic

/-!
# Statements

A statement changes the database or fails. What it names is looked up first; only then a write that
another connection holds off fails, and only after that the rows are looked at. A change that cannot
be saved fails last. A statement that fails changes nothing. A script runs its statements one after
the other and keeps the work of those before the first failure; a transaction does not.

Statements create, rename, extend and drop tables and write rows. What else the engine's language
has is left out: transaction control, so that only `Database.transaction` begins and ends one;
PRAGMA, of which a session keeps what it sets when it opens a database; and all statements on
indexes, views and triggers.
-/

namespace DispatchStore

/-- What keeps a connection from writing. -/
inductive WriteLock where
  | free
  /-- A write fails before anything is looked at but names. -/
  | refused (error : EngineError)
  /-- A write fails as soon as it changes something. -/
  | unsaved (error : EngineError)
  /-- A write, or the transaction around it, fails at its end. -/
  | unfinished (error : EngineError)
deriving DecidableEq

namespace WriteLock

/-- Another connection is writing. -/
def heldElsewhere : WriteLock := .refused .locked

/-- Begins a write. -/
def atBegin : WriteLock → Except EngineError Unit
  | refused e => .error e
  | _ => .ok ()

/-- Writes a change. -/
def atChange : WriteLock → Except EngineError Unit
  | unsaved e => .error e
  | _ => .ok ()

/-- Ends a write. -/
def atEnd : WriteLock → Except EngineError Unit
  | unfinished e => .error e
  | _ => .ok ()

/-- What keeps the statements of a transaction from writing before its end. -/
def inside : WriteLock → WriteLock
  | unfinished _ => free
  | lock => lock

end WriteLock

/-- What an insertion does about a row with the same key. -/
inductive OnConflict where
  /-- Fails. -/
  | refuse
  /-- Keeps the row that is there; `target` is the column of the key. -/
  | keep (target : String)
  /-- Takes over the named columns into the row that is there. -/
  | overwrite (target : String) (columns : List String)
deriving DecidableEq

/-- How a statement writes the names in it. -/
inductive Spelling where
  | bare
  /-- In quotes. Where a value is expected, a quoted name that stands for nothing is a text. -/
  | quoted
deriving DecidableEq

/-- A statement. -/
inductive Statement where
  | create (table : String) (columns : List Column) (ifNotExists : Bool) (spelling : Spelling)
  | insert (table : String) (values : List (String × Value)) (onConflict : OnConflict)
  /-- Sets one column to a text in the rows that satisfy the criteria. -/
  | update (table column value : String) (criteria : List (String × Value))
  | delete (table : String) (criteria : List (String × Value)) (spelling : Spelling)
  | drop (table : String)
  | rename (table newName : String)
  | addColumn (table : String) (column : Column)
  /-- The beginning of a creation without its end. -/
  | incomplete (table : String)
deriving DecidableEq

namespace Table

/-- Looks up a column by name. -/
def resolve (t : Table) (column : String) : Except EngineError Nat :=
  match t.columnIndex? column with
  | some i => .ok i
  | none => .error (.noSuchColumn column)

/-- Looks up the columns of criteria. -/
def resolveAll (t : Table) (columns : List String) : Except EngineError Unit :=
  columns.forM fun c => (t.resolve c).map fun _ => ()

/-- The names of the columns of the primary key. -/
def keyNames (t : Table) : List String := (t.columns.filter (·.primaryKey)).map Column.name

/-- Whether the primary key is the one named column. -/
def hasKey (t : Table) (target : String) : Bool :=
  match t.keyNames with
  | [name] => Text.sameLetters name target
  | _ => false

/-- The number that values by column name give to a new row. Of several the last one counts, and
null gives none. -/
def givenNumber? (t : Table) (values : List (String × Value)) : Except EngineError (Option Int) :=
  match values.reverse.find? fun v => t.isRowNumber v.1 with
  | none => .ok none
  | some v => match Affinity.numeric.coerce v.2 with
    | .null => .ok none
    | .int n => .ok (some n)
    | _ => .error .datatypeMismatch

/-- The row with the given values by column name. -/
def rowOf (t : Table) (values : List (String × Value)) : Except EngineError Row :=
  (t.givenNumber? values).map fun number =>
    t.withNumber (number.getD t.nextRowNumber) ⟨0, t.cellsOf values⟩

/-- Why the number of a new row is refused. A column that numbers the rows is the primary key, which
is looked at with the other keys. -/
def numberViolation? (t : Table) (row : Row) : Option EngineError :=
  if t.rowNumberIndex?.isNone && t.hasNumber row.number then
    some (.numberViolation t.name)
  else none

/-- The row `old` with the named columns taken over from `new`. -/
def takeOver (t : Table) (columns : List String) (old new : Row) : Row :=
  columns.foldl (fun row c => match t.columnIndex? c with
    | some i => row.set i (new.cell i)
    | none => row) old

/-- Inserts a row, and counts the rows that were written. -/
def insert (t : Table) (values : List (String × Value)) (onConflict : OnConflict) :
    Except EngineError (Table × Nat) := do
  let row ← t.rowOf values
  match t.nullViolation? row, t.numberViolation? row with
  | some c, _ => throw (.nullViolation t.name c.name)
  | none, some e => throw e
  | none, none =>
    match t.clash? row, onConflict with
    | none, _ => return ({ t with rows := t.rows ++ [row] }, 1)
    | some _, .refuse => throw (.keyViolation t.name t.keyNames)
    | some _, .keep _ => return (t, 0)
    | some i, .overwrite _ columns =>
      return ({ t with rows := t.rows.modify i fun old => t.takeOver columns old row }, 1)

/-- The row with the cell at a place set. A row number has to be a whole number. -/
def withCell (t : Table) (i : Nat) (value : Value) (row : Row) : Except EngineError Row :=
  if t.rowNumberIndex? == some i then
    match value with
    | .int n => .ok (t.withNumber n row)
    | _ => .error .datatypeMismatch
  else .ok (row.set i value)

/-- Sets a cell in one row after the other. No two rows may get one key; `done` are the rows before,
the last one first. -/
def updateRows (t : Table) (i : Nat) (value : Value) (criteria : List (String × Value)) :
    List Row → List Row → Except EngineError (List Row)
  | done, [] => .ok done.reverse
  | done, row :: rest =>
    if t.satisfies criteria row then do
      let new ← t.withCell i value row
      let others : Table := { t with rows := done ++ rest }
      if (others.clash? new).isSome then throw (.keyViolation t.name t.keyNames)
      updateRows t i value criteria (new :: done) rest
    else updateRows t i value criteria (row :: done) rest

/-- Sets a column to a text in the rows that satisfy the criteria, and counts them. -/
def update (t : Table) (column value : String) (criteria : List (String × Value)) :
    Except EngineError (Table × Nat) := do
  let i ← t.resolve column
  match t.columns[i]? with
  | none => throw (.noSuchColumn column)
  | some c =>
    let rows ← t.updateRows i (c.affinity.coerce (.text value)) criteria [] t.rows
    return ({ t with rows }, t.rows.countP (t.satisfies criteria))

/-- Deletes the rows that satisfy the criteria, and counts them. -/
def delete (t : Table) (criteria : List (String × Value)) : Table × Nat :=
  ({ t with rows := t.rows.filter fun r => !t.satisfies criteria r },
    t.rows.countP (t.satisfies criteria))

end Table

namespace Statement

/-- Whether a name belongs to the engine itself. -/
def isReserved (name : String) : Bool := "sqlite_".toList.isPrefixOf (Text.lower name).toList

/-- The first column whose name was there before. -/
def repeatedColumn? : List Column → Option String
  | cs => (cs.zipIdx.find? fun c => (cs.take c.2).any (Column.isNamed c.1.name)).map (·.1.name)

/-- Looks up a table that is to be changed in the way that the participle says. -/
def target (db : Database) (name participle : String) : Except EngineError Table :=
  match db.engineTable? name with
  | some t => .error (.mayNotBe t.name participle)
  | none => db.table name

/-- Looks up what the statement names. The result says whether there is anything to write. -/
def check (db : Database) : Statement → Except EngineError Bool
  | create name columns ifNotExists _ =>
    if isReserved name then .error (.reservedName name)
    else if (db.find? name).isSome then
      if ifNotExists then .ok false else .error (.tableExists name)
    else if columns.isEmpty then .error (.unexpected ")")
    else match repeatedColumn? columns with
      | some c => .error (.duplicateColumn c)
      | none => .ok true
  | insert name values onConflict => do
    let t ← target db name "modified"
    match values.find? fun v => !t.hasName v.1 with
    | some v => throw (.unknownColumn name v.1)
    | none =>
      match onConflict with
      | .refuse => return true
      | .keep target => if t.hasKey target then return true else throw .conflictTarget
      | .overwrite target _ => if t.hasKey target then return true else throw .conflictTarget
  | update name column _ criteria => do
    let t ← target db name "modified"
    t.resolveAll (column :: criteria.map Prod.fst)
    return true
  | delete name criteria spelling => do
    let t ← target db name "modified"
    if spelling = .bare then t.resolveAll (criteria.map Prod.fst)
    return true
  | drop name => do
    let _ ← target db name "dropped"
    return true
  | rename name newName => do
    if (db.engineTable? name).isNone then
      let _ ← db.table name
    if db.isTakenFor name newName then throw (.nameTaken newName)
    let _ ← target db name "altered"
    if isReserved newName then throw (.reservedName newName)
    return true
  | addColumn name column => do
    if ((db.engineTable? name).any EngineTable.isView) then throw .viewAltered
    let t ← target db name "altered"
    if (t.columnIndex? column.name).isSome then throw (.duplicateColumn column.name)
    if column.primaryKey then throw .cannotAddKey
    return true
  | incomplete name =>
    if isReserved name then .error (.reservedName name)
    else if (db.find? name).isSome then .error (.tableExists name)
    else .error .incompleteInput

/-- Carries out a statement that was checked, and counts the rows that were written. -/
def apply (db : Database) : Statement → Except EngineError (Database × Nat)
  | create name columns _ _ => .ok (⟨db.tables ++ [⟨name, columns.map Column.kept, []⟩]⟩, 0)
  | insert name values onConflict => do
    let t ← db.table name
    let (t', n) ← t.insert values onConflict
    return (db.modify name fun _ => t', n)
  | update name column value criteria => do
    let t ← db.table name
    let (t', n) ← t.update column value criteria
    return (db.modify name fun _ => t', n)
  | delete name criteria _ => do
    let t ← db.table name
    return (db.modify name fun _ => (t.delete criteria).1, (t.delete criteria).2)
  | drop name => .ok (db.remove name, 0)
  | rename name newName => .ok (db.modify name fun t => { t with name := newName }, 0)
  | addColumn name column => do
    let t ← db.table name
    if column.notNull && !t.rows.isEmpty then throw .cannotAddRequired
    return (db.modify name fun t =>
      { t with columns := t.columns ++ [column.kept], rows := t.rows.map (·.extended) }, 0)
  | incomplete _ => .error .incompleteInput

/-- Whether a statement that was carried out and wrote `n` rows has changed anything. Deleting all
rows writes, even if there are none. -/
def changes (n : Nat) : Statement → Bool
  | insert _ _ _ => 0 < n
  | update _ _ _ _ => 0 < n
  | delete _ criteria _ => criteria.isEmpty || 0 < n
  | _ => true

/-- An error of a statement with others behind it: where the end is missing, the separator before
the next one is met. -/
def errorBefore (rest : List Statement) : EngineError → EngineError
  | .incompleteInput => if rest.isEmpty then .incompleteInput else .unexpected ";"
  | e => e

/-- Runs a statement, and counts the rows that were written. -/
def exec (lock : WriteLock) (db : Database) (s : Statement) :
    Except EngineError (Database × Nat) := do
  if ← s.check db then
    lock.atBegin
    let (db', n) ← s.apply db
    if s.changes n then lock.atChange
    lock.atEnd
    return (db', n)
  else return (db, 0)

end Statement

namespace Database

/-- Runs statements up to the first one that fails. -/
def script (lock : WriteLock) (db : Database) : List Statement → Database × Except EngineError Unit
  | [] => (db, .ok ())
  | s :: rest =>
    match s.exec lock db with
    | .ok (db', _) => db'.script lock rest
    | .error e => (db, .error (Statement.errorBefore rest e))

/-- Runs scripts, one after the other, up to the first one that fails. -/
def scripts (lock : WriteLock) : Database → List (List Statement) → Except EngineError Database
  | db, [] => .ok db
  | db, statements :: rest =>
    match db.script lock statements with
    | (db', .ok ()) => scripts lock db' rest
    | (_, .error e) => .error e

/-- Runs scripts of which either all take effect or none. -/
def transaction (lock : WriteLock) (db : Database) (statements : List (List Statement)) :
    Except EngineError Database := do
  let db' ← db.scripts lock.inside statements
  lock.atEnd
  return db'

end Database

end DispatchStore
