import DispatchStore.Json.NumberLiteral
import DispatchStore.Json.Printer
import DispatchStore.Json.TextLiteral

/-!
# Values of another type

A reader that wants one type of value and finds another names what it found. A text, a number or a
keyword is read for that to its end, of an array or an object only the bracket is looked at.
-/

namespace DispatchStore.Json

/-- Names the value at the cursor, which is not of the expected type. -/
def refuseType {α : Type} (expected : String) (c : Cursor) : Step α :=
  let refuse := fun (found : Found) (c : Cursor) => c.failHere (.wrongType found expected)
  let refuseNumber := fun (n : Number) (c : Cursor) =>
    match n with
    | .integer n => refuse (.integer n) c
    | .double bits => refuse (.double (String.ofList (doubleChars bits))) c
  match c.rest with
  | [] => c.failNext .noValue
  | ch :: _ =>
    if ch = 'n' then (keyword ['u', 'l', 'l'] c.skipOne).andThen fun _ => refuse .null
    else if ch = 't' then (keyword ['r', 'u', 'e'] c.skipOne).andThen fun _ => refuse (.bool true)
    else if ch = 'f' then
      (keyword ['a', 'l', 's', 'e'] c.skipOne).andThen fun _ => refuse (.bool false)
    else if ch = '-' then (numberLiteral true c.skipOne).andThen refuseNumber
    else if ch.isDigit then (numberLiteral false c).andThen refuseNumber
    else if ch = '"' then (textLiteral c).andThen fun s => refuse (.text s)
    else if ch = '[' then refuse .array c
    else if ch = '\x7b' then refuse .object c
    else c.failNext .noValue

/-- Skips white space; a value has to follow. -/
def atValue {α : Type} (read : Char → Cursor → Step α) (c : Cursor) : Step α :=
  let c := c.skipSpace
  match c.rest with
  | [] => c.failNext .endInValue
  | ch :: _ => read ch c

/-- Reads a text; `expected` says what it should be when something else is found. -/
def textAs (expected : String) : Cursor → Step String :=
  atValue fun ch c => if ch = '"' then textLiteral c else refuseType expected c

end DispatchStore.Json
