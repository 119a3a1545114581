import DispatchStore.Table.Affinity

/-!
# Columns

A column has a name, a declared type and two flags. A declared type is kept as it was written, but
without white space around it and without quotes; the names of the standard types are kept in upper
case. From its type a column also has an estimated width.

The two flags are all the constraints that a column has: UNIQUE, CHECK, DEFAULT and references to
other tables are left out. Collations are left out too, so texts are compared byte by byte.
-/

namespace DispatchStore

/-- A column of a table.
Source: `ColumnInfo` and `ColumnShape`, specification §12 -/
structure Column where
  name : String
  /-- The declared type; empty if there is none. -/
  declaredType : String
  /-- Whether the column refuses null. -/
  notNull : Bool
  /-- Whether the column belongs to the primary key. -/
  primaryKey : Bool
deriving DecidableEq

namespace Column

/-- A text column that is the primary key. It does not refuse null. -/
def key (name : String) : Column := ⟨name, "TEXT", false, true⟩

/-- A text column. -/
def optional (name : String) : Column := ⟨name, "TEXT", false, false⟩

/-- A text column that refuses null. -/
def required (name : String) : Column := ⟨name, "TEXT", true, false⟩

/-- The types with a fixed spelling. -/
def standardTypes : List String := ["ANY", "BLOB", "INT", "INTEGER", "REAL", "TEXT"]

/-- Whether `c` opens a quoted name. -/
def isQuote (c : Char) : Bool := c = '"' || c = '\x27' || c = '[' || c = '\x60'

/-- The characters up to the closing quote; a doubled one stands for itself. -/
def upToQuote (close : Char) : List Char → List Char
  | [] => []
  | [c] => if c = close then [] else [c]
  | c :: d :: rest =>
    if c = close then (if d = close then close :: upToQuote close rest else [])
    else c :: upToQuote close (d :: rest)

/-- A declared type as it is kept. A type that is quoted as a whole is the one inside; of another
type that begins with a quote only the quoted beginning is kept. -/
def keptType (declared : String) : String :=
  let cs := Value.unpadded declared.toList
  let standard := fun (cs : List Char) =>
    let bare := String.ofList cs
    (standardTypes.find? fun t => Text.sameLetters t bare).getD bare
  match cs with
  | c :: rest =>
    if !isQuote c then standard cs
    else if rest.dropLast.any isQuote then
      String.ofList (upToQuote (if c = '[' then ']' else c) rest)
    else standard rest.dropLast
  | [] => ""

/-- The column as a table keeps it. -/
def kept (c : Column) : Column := { c with declaredType := keptType c.declaredType }

/-- The affinity of the column. -/
def affinity (c : Column) : Affinity := Affinity.ofType c.declaredType

/-! ## Estimated widths -/

/-- The characters behind the last place where `word` occurs. -/
def behindLast? (word : List Char) : List Char → Option (List Char)
  | [] => none
  | c :: cs =>
    match behindLast? word cs with
    | some rest => some rest
    | none => if word.isPrefixOf (c :: cs) then some ((c :: cs).drop word.length) else none

/-- The width of a text of the given length: a quarter of it, and one more. -/
def widthOfLength (n : Nat) : Nat := min (n / 4 + 1) 255

/-- The width that the first number in a type gives; without a number it is one. -/
def widthIn (cs : List Char) : Nat :=
  let digits := (cs.dropWhile fun c => !c.isDigit).takeWhile Char.isDigit
  widthOfLength (Decimal.ofDigits digits)

/-- The estimated width of the cells of the column, in units of four bytes. -/
def width (c : Column) : Nat :=
  let cs := (Text.upper c.declaredType).toList
  match c.affinity with
  | .numeric => 1
  | .real => 1
  | .text => match behindLast? "CHAR".toList cs with
    | some rest => widthIn rest
    | none => widthOfLength 16
  | .none =>
    if cs.isEmpty then 1
    else match behindLast? "BLOB".toList cs with
      | some ('(' :: rest) => widthIn rest
      | _ => widthOfLength 16

/-! ## Names and messages -/

/-- Whether the column has the given name, in any case. -/
def isNamed (name : String) (c : Column) : Bool := Text.sameLetters c.name name

/-- The column as a message shows it: name, type and flags.
Source: `describe` of a column -/
def describe (c : Column) : String :=
  c.name ++ " " ++ c.declaredType ++ (if c.primaryKey then " PRIMARY KEY" else "") ++
    (if c.notNull then " NOT NULL" else "")

/-- Whether a live column is the one that was declared. Names agree exactly, types up to case.
Source: `matches`, specification §12 -/
def agrees (declared live : Column) : Bool :=
  declared.name == live.name && Text.sameLetters declared.declaredType live.declaredType &&
    declared.notNull == live.notNull && declared.primaryKey == live.primaryKey

end Column

end DispatchStore
