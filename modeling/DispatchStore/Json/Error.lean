import DispatchStore.Text.Quoted

/-!
# Reading errors

Why a text is not the JSON that was asked for, and where. A place is a line and the number of bytes
read on it. An error that a check of the value raises has no place of its own; the record or array
around it gives it one, and at the top level it stays without.
-/

namespace DispatchStore.Json

/-- What was found where another type was expected. -/
inductive Found where
  | null
  | bool (b : Bool)
  | integer (n : Int)
  /-- A double, as it is written. -/
  | double (digits : String)
  | text (s : String)
  | array
  | object
deriving DecidableEq

/-- How a message names what was found. -/
def Found.describe : Found → String
  | .null => "null"
  | .bool b => "boolean `" ++ (if b then "true" else "false") ++ "`"
  | .integer n => "integer `" ++ toString n ++ "`"
  | .double digits => "floating point `" ++ digits ++ "`"
  | .text s => "string " ++ Text.quoted s
  | .array => "sequence"
  | .object => "map"

/-- Why a text is refused. -/
inductive Fault where
  | endInValue
  | endInText
  | endInArray
  | endInObject
  | noValue
  | noKeyword
  | noColon
  | noArrayEnd
  | noObjectEnd
  | badEscape
  | badNumber
  | numberTooLarge
  | controlCharacter
  /-- A surrogate escape without the other half. -/
  | loneSurrogate
  /-- A leading surrogate escape that no escape follows. -/
  | halfEscape
  | keyNotText
  | trailingComma
  | trailingCharacters
  | nestedTooDeep
  /-- A value of another type. -/
  | wrongType (found : Found) (expected : String)
  /-- A value of the right type out of its range. -/
  | wrongValue (found : Found) (expected : String)
  /-- An array that ends before the record is complete. -/
  | wrongLength (length : Nat) (expected : String)
  | missingField (name : String)
  | duplicateField (name : String)
  /-- A value that a check of the domain refused, with its reason. -/
  | refused (reason : String)
deriving DecidableEq

/-- The text of a fault, without its place. -/
def Fault.describe : Fault → String
  | endInValue => "EOF while parsing a value"
  | endInText => "EOF while parsing a string"
  | endInArray => "EOF while parsing a list"
  | endInObject => "EOF while parsing an object"
  | noValue => "expected value"
  | noKeyword => "expected ident"
  | noColon => "expected `:`"
  | noArrayEnd => "expected `,` or `]`"
  | noObjectEnd => "expected `,` or `\x7d`"
  | badEscape => "invalid escape"
  | badNumber => "invalid number"
  | numberTooLarge => "number out of range"
  | controlCharacter => "control character (\\u0000-\\u001F) found while parsing a string"
  | loneSurrogate => "lone leading surrogate in hex escape"
  | halfEscape => "unexpected end of hex escape"
  | keyNotText => "key must be a string"
  | trailingComma => "trailing comma"
  | trailingCharacters => "trailing characters"
  | nestedTooDeep => "recursion limit exceeded"
  | wrongType found expected => "invalid type: " ++ found.describe ++ ", expected " ++ expected
  | wrongValue found expected => "invalid value: " ++ found.describe ++ ", expected " ++ expected
  | wrongLength length expected => "invalid length " ++ toString length ++ ", expected " ++ expected
  | missingField name => "missing field `" ++ name ++ "`"
  | duplicateField name => "duplicate field `" ++ name ++ "`"
  | refused reason => reason

/-- A place in a text. -/
structure Position where
  /-- The line, counted from one. -/
  line : Nat
  /-- The bytes before the place on its line. -/
  column : Nat
deriving DecidableEq

/-- The place behind the character `c`. -/
def Position.past (p : Position) (c : Char) : Position :=
  if c = '\n' then ⟨p.line + 1, 0⟩ else ⟨p.line, p.column + c.utf8Size⟩

/-- The place behind the first byte of the character `c`. -/
def Position.pastByte (p : Position) (c : Char) : Position :=
  if c = '\n' then ⟨p.line + 1, 0⟩ else ⟨p.line, p.column + 1⟩

/-- The place `n` bytes further, or behind the last character. -/
def Position.advance (p : Position) : Nat → List Char → Position
  | 0, _ => p
  | _, [] => p
  | n + 1, c :: cs =>
    if n + 1 < c.utf8Size then ⟨p.line, p.column + (n + 1)⟩
    else (p.past c).advance (n + 1 - c.utf8Size) cs

/-- A fault with its place, if it has one. -/
structure Error where
  /-- What is wrong. -/
  fault : Fault
  /-- Where it was noticed. -/
  place : Option Position
deriving DecidableEq

/-- The text of an error: what is wrong and where. -/
def Error.message (e : Error) : String :=
  match e.place with
  | none => e.fault.describe
  | some p => e.fault.describe ++ " at line " ++ toString p.line ++ " column " ++ toString p.column

end DispatchStore.Json
