import DispatchStore.Table.Column

/-!
# Declared shapes

A table that is there already is never created again, whatever its columns are. A shape declares the
columns that a table should have, and `TableShape.difference?` finds the first point in which the
live columns depart from it: names agree exactly, types up to case, flags exactly.
-/

namespace DispatchStore

/-- The columns that a table should have, in order.
Source: `TableShape`, specification §12 -/
structure TableShape where
  table : String
  columns : List Column
deriving DecidableEq

/-- The first point in which live columns depart from a shape. -/
inductive ShapeDifference where
  /-- There are no columns at all. -/
  | missingTable
  /-- The column at `index` is another one. -/
  | column (index : Nat) (live expected : Column)
  /-- The columns end before this one. -/
  | missingColumn (expected : Column)
  /-- The columns go on after the last declared one. -/
  | extraColumns (names : List String)
deriving DecidableEq

/-- The text of a difference.
Source: the `detail` of a mismatch, specification §12 -/
def ShapeDifference.message : ShapeDifference → String
  | missingTable => "table does not exist"
  | column index live expected =>
    "column " ++ toString index ++ " is `" ++ live.describe ++ "`, expected `" ++
      expected.describe ++ "`"
  | missingColumn expected => "missing column `" ++ expected.describe ++ "`"
  | extraColumns names => "unexpected columns: " ++ ", ".intercalate names

namespace TableShape

/-- The first difference between declared and live columns, both from the column `index` on. -/
def differenceFrom? : Nat → List Column → List Column → Option ShapeDifference
  | _, [], [] => none
  | _, [], extra => some (.extraColumns (extra.map Column.name))
  | _, expected :: _, [] => some (.missingColumn expected)
  | index, expected :: declared, actual :: live =>
    if expected.agrees actual then differenceFrom? (index + 1) declared live
    else some (.column index actual expected)

/-- The first difference between the shape and the live columns of a table.
Source: `shape_difference`, specification §12 -/
def difference? (shape : TableShape) (live : List Column) : Option ShapeDifference :=
  if live.isEmpty then some .missingTable else differenceFrom? 0 shape.columns live

end TableShape

end DispatchStore
