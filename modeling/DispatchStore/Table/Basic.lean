import DispatchStore.Table.Column

/-!
# Tables

A table has a name, columns and rows in the order of their insertion. A row has a number, by which
the rows are ordered, and one value for each column. The cells of the primary key tell rows apart,
but a row with a null among them is like no other row. A primary key of one column declared
`INTEGER` is the number of the row: it takes whole numbers only. A row without a number gets the one
after the largest, or a free one where that is taken. Every other primary key has an index, which
lists the rows by their cells in the columns of the key.
-/

namespace DispatchStore

/-- A row: its number and its values, one for each column of its table. -/
structure Row where
  number : Int
  cells : List Value
deriving DecidableEq

/-- A table. -/
structure Table where
  name : String
  columns : List Column
  rows : List Row
deriving DecidableEq

namespace Row

/-- The cell at a place in a row. -/
def cell (row : Row) (i : Nat) : Value := row.cells[i]?.getD .null

/-- The row with the cell at a place set. -/
def set (row : Row) (i : Nat) (value : Value) : Row :=
  { row with cells := row.cells.set i value }

/-- The row with one cell more, which is null. -/
def extended (row : Row) : Row := { row with cells := row.cells ++ [.null] }

end Row

namespace Table

/-- Whether the table has the given name, in any case. -/
def isNamed (name : String) (t : Table) : Bool := Text.sameLetters t.name name

/-- The place of the column with the given name. -/
def columnIndex? (t : Table) (name : String) : Option Nat :=
  t.columns.findIdx? (Column.isNamed name)

/-- The places of the columns of the primary key. -/
def keyIndices (t : Table) : List Nat :=
  (t.columns.zipIdx.filter fun c => c.1.primaryKey).map Prod.snd

/-- The place of the column that numbers the rows, if there is one. -/
def rowNumberIndex? (t : Table) : Option Nat :=
  match t.keyIndices with
  | [i] => match t.columns[i]? with
    | some c => if Text.sameLetters c.declaredType "INTEGER" then some i else none
    | none => none
  | _ => none

/-- The cells of the primary key of a row, unless the table has none or one of them is null. -/
def keyOf? (t : Table) (row : Row) : Option (List Value) :=
  let cells := t.keyIndices.map row.cell
  if cells.isEmpty || cells.contains .null then none else some cells

/-- Whether two lists of cells are not told apart. -/
def sameCells : List Value → List Value → Bool
  | [], [] => true
  | a :: as, b :: bs => a.same b && sameCells as bs
  | _, _ => false

/-- The place of the row that has the same key as the given one. -/
def clash? (t : Table) (row : Row) : Option Nat :=
  match t.keyOf? row with
  | none => none
  | some key => t.rows.findIdx? fun other => (t.keyOf? other).any (sameCells key)

/-- The names under which the number of a row goes, besides that of a column. -/
def rowNumberNames : List String := ["rowid", "oid", "_rowid_"]

/-- Whether a name stands for the number of a row. A column with the name comes first. -/
def isRowNumber (t : Table) (name : String) : Bool :=
  match t.columnIndex? name with
  | some i => t.rowNumberIndex? == some i
  | none => rowNumberNames.any (Text.sameLetters name)

/-- Whether a name stands for a column or for the number of a row. -/
def hasName (t : Table) (name : String) : Bool :=
  (t.columnIndex? name).isSome || t.isRowNumber name

/-- The largest number of a row, apart from the largest that there can be. -/
def largestNumber? (t : Table) : Option Int :=
  t.rows.foldl (fun acc row =>
    if row.number = Value.maxInt then acc
    else match acc with
      | some m => some (max m row.number)
      | none => some row.number) none

/-- Whether a row has the given number. -/
def hasNumber (t : Table) (number : Int) : Bool := t.rows.any fun row => row.number == number

/-- The smallest positive number that no row has. -/
def freeNumber (t : Table) : Int :=
  let candidates := (List.range (t.rows.length + 1)).map fun (n : Nat) => (n : Int) + 1
  (candidates.find? fun n => !t.hasNumber n).getD 1

/-- The number for a new row: one more than the largest so far, or a free one if that is taken. -/
def nextRowNumber (t : Table) : Int :=
  let next := t.largestNumber?.elim 1 (· + 1)
  if t.hasNumber next then t.freeNumber else next

/-- The row with the given number, which is also its cell in a column that numbers the rows. -/
def withNumber (t : Table) (number : Int) (row : Row) : Row :=
  match t.rowNumberIndex? with
  | some i => { row.set i (.int number) with number }
  | none => { row with number }

/-- The rows by number. -/
def scan (t : Table) : List Row := t.rows.mergeSort fun a b => a.number ≤ b.number

/-! ## The index of the primary key -/

/-- The places of the columns of the index, if the table has one. -/
def indexed (t : Table) : List Nat := if t.rowNumberIndex?.isSome then [] else t.keyIndices

/-- The name of the index, if the table has one. -/
def indexName? (t : Table) : Option String :=
  if t.indexed.isEmpty then none else some ("sqlite_autoindex_" ++ t.name ++ "_1")

/-- Whether `a` comes before `b` or is not told apart from it by the cells at the given places. -/
def precedesAt : List Nat → Row → Row → Bool
  | [], _, _ => true
  | i :: rest, a, b =>
    if (a.cell i).same (b.cell i) then precedesAt rest a b else (a.cell i).le (b.cell i)

/-- The rows as the index lists them; rows with the same cells there by number. -/
def byIndex (t : Table) : List Row := t.scan.mergeSort (precedesAt t.indexed)

/-! ## Cells -/

/-- The cells of a row with the given values by column name. Columns that are not named are null. -/
def cellsOf (t : Table) (values : List (String × Value)) : List Value :=
  t.columns.map fun c => match values.find? fun v => c.isNamed v.1 with
    | some v => c.affinity.coerce v.2
    | none => .null

/-- The first column that refuses the null which the row has there. -/
def nullViolation? (t : Table) (row : Row) : Option Column :=
  (t.columns.zipIdx.find? fun c =>
    c.1.notNull && row.cell c.2 == .null && t.rowNumberIndex? != some c.2).map Prod.fst

/-- The places of the columns that are looked up in the index when values are given for the named
columns: the first columns of the index, up to one that is not named. -/
def lookedUp (t : Table) (names : List String) : List Nat :=
  t.indexed.takeWhile fun i => names.any fun name => t.columnIndex? name == some i

/-- A value that is looked up in the index of a column. A text is changed as if it were stored. -/
def lookupValue (c : Column) : Value → Value
  | .text s => c.affinity.coerce (.text s)
  | v => c.affinity.comparand v

/-- Whether a row has the given values in the named columns; null counts as a value. A name that
stands for nothing is the text of that name. -/
def satisfies (t : Table) (criteria : List (String × Value)) (row : Row) : Bool :=
  let keys := t.lookedUp (criteria.map Prod.fst)
  criteria.all fun k => match t.columnIndex? k.1 with
    | some i => match t.columns[i]? with
      | some c =>
        let value := if keys.contains i then lookupValue c k.2 else c.affinity.comparand k.2
        (row.cell i).same value
      | none => false
    | none =>
      if t.isRowNumber k.1 then (Value.int row.number).same (Affinity.numeric.comparand k.2)
      else (Value.text k.1).same k.2

end Table

end DispatchStore
