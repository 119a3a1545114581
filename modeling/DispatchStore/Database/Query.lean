import DispatchStore.Database.Basic

/-!
# Queries

A query reads columns of the rows of one table that satisfy its criteria, in a given order and up to
a limit. The header of the result names its cells as the table spells them. Rows that the order does
not tell apart come in the order in which the query passes over them: that of the rows, or that of
the index of the primary key where the index helps. It helps if the query gives a value for its
first column or sorts by it, or if it holds all that is read and is estimated to be the smaller one.
-/

namespace DispatchStore

/-- A direction of sorting. -/
inductive Direction where
  /-- Null first. -/
  | ascending
  /-- Null last. -/
  | descending
deriving DecidableEq

/-- What is read from a table. -/
structure Query where
  table : String
  columns : List String
  criteria : List (String × Value)
  /-- The columns to sort by, the first one first. -/
  order : List (String × Direction)
  /-- The most rows to read. -/
  limit : Option Nat
deriving DecidableEq

/-- A row of a result: cells with the names of their columns. -/
abbrev Record := List (String × Value)

/-- Whether one row comes before another or is not told apart from it. -/
def Table.precedes (t : Table) : List (String × Direction) → Row → Row → Bool
  | [], _, _ => true
  | (name, direction) :: rest, a, b =>
    match t.columnIndex? name with
    | none => t.precedes rest a b
    | some i =>
      let x := a.cell i
      let y := b.cell i
      if x.same y then t.precedes rest a b
      else match direction with
        | .ascending => x.le y
        | .descending => y.le x

/-- The named columns as the table spells them. -/
def Table.spelled (t : Table) (columns : List String) : List String :=
  columns.filterMap fun name =>
    (t.columnIndex? name).bind fun i => (t.columns[i]?).map Column.name

/-- The cells of a row in the named columns. -/
def Table.cells (t : Table) (columns : List String) (row : Row) : List Value :=
  columns.filterMap fun name => (t.columnIndex? name).map row.cell

/-! ## Running a query -/

namespace Query

/-- All the columns that the query names, in the order in which it names them. -/
def names (q : Query) : List String :=
  q.columns ++ q.criteria.map Prod.fst ++ q.order.map Prod.fst

/-- The logarithm of `n` to base two in tenths, cut to a grid of eight steps for each power. -/
def coarseLog (n : Nat) : Nat :=
  if n < 2 then 0
  else
    let power := n.log2
    10 * power + [0, 2, 3, 5, 6, 7, 8, 9].getD (n * 8 / Nat.pow 2 power % 8) 0

/-- The size of a row of columns as it is estimated. -/
def estimate (columns : List Column) : Nat :=
  coarseLog (4 * (columns.foldl (fun n c => n + c.width) 0 + 1))

/-- Whether the index of a table holds all columns that the query names and is estimated to be
smaller than the table. -/
def isCovered (q : Query) (t : Table) : Bool :=
  let held := t.indexed.filterMap fun i => t.columns[i]?
  q.names.all (fun name => held.any (Column.isNamed name)) && estimate held < estimate t.columns

/-- The rows of a table in the order in which the query passes over them. -/
def passage (q : Query) (t : Table) : List Row :=
  match t.indexed with
  | [] => t.scan
  | first :: _ =>
    let isFirst := fun (name : String) => t.columnIndex? name == some first
    if q.criteria.any fun k => isFirst k.1 then t.byIndex
    else match q.order.head? with
      | some (name, direction) =>
        if isFirst name then
          match direction with
          | .ascending => t.byIndex
          | .descending => t.byIndex.reverse
        else if q.isCovered t then t.byIndex
        else t.scan
      | none => if q.isCovered t then t.byIndex else t.scan

/-- The rows that the query selects, sorted and cut off. -/
def rows (q : Query) (t : Table) : List Row :=
  let selected := ((q.passage t).filter (t.satisfies q.criteria)).mergeSort (t.precedes q.order)
  match q.limit with
  | some n => selected.take n
  | none => selected

/-- The table of a query, if it has all the columns that the query names. -/
def source (q : Query) (db : Database) : Except EngineError Table := do
  let t ← db.table q.table
  match q.names.find? fun name => (t.columnIndex? name).isNone with
  | some name => throw (.noSuchColumn name)
  | none => return t

/-- The names of the cells that a query reads. -/
def header (q : Query) (db : Database) : Except EngineError (List String) :=
  (q.source db).map (Table.spelled · q.columns)

/-- The cells that a query reads, row by row. -/
def run (q : Query) (db : Database) : Except EngineError (List (List Value)) :=
  (q.source db).map fun t => (q.rows t).map (t.cells q.columns)

end Query

namespace Record

/-- The cell with exactly the given name. -/
def cell (r : Record) (name : String) : Except Fault Value :=
  match r.find? fun c => c.1 == name with
  | some c => .ok c.2
  | none => .error (.unreadable name)

/-- A cell as a text. Null reads as the empty text. -/
def text (r : Record) (name : String) : Except Fault String := do
  match ← r.cell name with
  | .text s => return s
  | .null => return ""
  | _ => throw (.unreadable name)

/-- A cell as a text or nothing. -/
def text? (r : Record) (name : String) : Except Fault (Option String) := do
  match ← r.cell name with
  | .text s => return some s
  | .null => return none
  | _ => throw (.unreadable name)

end Record

namespace Value

/-- A value as a number. Null reads as zero. -/
def number : Value → Except Fault Int
  | int n => .ok n
  | null => .ok 0
  | real _ => .error (.notANumber "REAL")
  | text _ => .error (.notANumber "TEXT")

end Value

/-- All rows as texts, by the text of their first cell; null comes first. -/
def Table.texts (t : Table) : List (List (Option String)) :=
  let first := fun (row : Row) => Affinity.text.coerce (row.cell 0)
  (t.scan.mergeSort fun a b => (first a).le (first b)).map fun row => row.cells.map Value.text?

end DispatchStore
