import DispatchStore.Json.Printer
import DispatchStore.Json.Reader
import DispatchStore.Json.Decoder
import DispatchStore.Host.FileTree

/-!
# Snapshots of databases

The written form of a database file: one JSON object with the tables, their columns and their rows.
-/

namespace DispatchStore

namespace Value

/-- The written form of a value. -/
def toJson : Value → Json
  | null => .null
  | int n => .ofInt n
  | real (.finite .zero) => .array [.ofInt 0, .ofInt 0]
  | real (.finite (.ofOdd n k _)) => .array [.ofInt n, .ofInt k]
  | real (.infinite negative) => .bool negative
  | text s => .text s

/-- The value with the given written form. -/
def ofJson? : Json → Option Value
  | .null => some null
  | .number (.integer n) => some (int n)
  | .array [.number (.integer n), .number (.integer k)] =>
    some (real (.finite (.ofIntWithPrec n k)))
  | .bool negative => some (real (.infinite negative))
  | .text s => some (text s)
  | _ => none

end Value

namespace Column

/-- The written form of a column. -/
def toJson (c : Column) : Json :=
  .array [.text c.name, .text c.declaredType, .bool c.notNull, .bool c.primaryKey]

/-- The column with the given written form. -/
def ofJson? : Json → Option Column
  | .array [.text name, .text declaredType, .bool notNull, .bool primaryKey] =>
    some ⟨name, declaredType, notNull, primaryKey⟩
  | _ => none

end Column

namespace Table

/-- The written form of a row. -/
def rowToJson (row : Row) : Json := .array (.ofInt row.number :: row.cells.map Value.toJson)

/-- The row with the given written form. -/
def rowOfJson? : Json → Option Row
  | .array (.number (.integer n) :: cells) => (cells.mapM Value.ofJson?).map (Row.mk n)
  | _ => none

/-- The written form of a table. -/
def toJson (t : Table) : Json :=
  .array [.text t.name, .array (t.columns.map Column.toJson), .array (t.rows.map rowToJson)]

/-- The table with the given written form. -/
def ofJson? : Json → Option Table
  | .array [.text name, .array columns, .array rows] => do
    let columns ← columns.mapM Column.ofJson?
    let rows ← rows.mapM rowOfJson?
    return ⟨name, columns, rows⟩
  | _ => none

end Table

namespace Database

/-- The written form of a database. -/
def toJson (db : Database) : Json := .object [("tables", .array (db.tables.map Table.toJson))]

/-- The database with the given written form. -/
def ofJson? : Json → Option Database
  | .object [("tables", .array tables)] => (tables.mapM Table.ofJson?).map Database.mk
  | _ => none

end Database

namespace Entry

/-- What a file with the given content holds: a database if it is the written form of one. -/
def ofContent (content : String) : Entry :=
  match (Json.Decoder.json.run content).toOption.bind Database.ofJson? with
  | some db => .database db .wal db
  | none => .file content

/-- The content of a file; a directory has none. -/
def content? : Entry → Option String
  | directory => none
  | file content => some content
  | database db _ _ => some db.toJson.render

end Entry

end DispatchStore
