import DispatchStore.Json.Mismatch

/-!
# Reading a value

Reads any JSON value. Containers nest to a limited depth: `levels` is how many of them may still be
entered. Members of an object end up in ascending order of their keys, the last one of equal keys.

An object whose first key is `embeddingKey` has no other member and stands for another value: the
one that its text writes. That text is read on its own, with places of its own and a depth of its
own.
-/

namespace DispatchStore.Json

/-- How many containers a text may hold inside each other. -/
def maxLevels : Nat := 127

/-- The cursor behind the white space, and whether an item follows there; `first` says that none was
read yet. -/
def nextItem (first : Bool) (c : Cursor) : Step Bool :=
  let c := c.skipSpace
  match c.rest with
  | [] => c.failNext .endInArray
  | ']' :: _ => .done false c
  | ch :: _ =>
    if first then .done true c
    else if ch = ',' then
      let c := c.skipOne.skipSpace
      match c.rest with
      | [] => c.failNext .endInValue
      | ']' :: _ => c.failNext .trailingComma
      | _ :: _ => .done true c
    else c.failNext .noArrayEnd

/-- The key of the next member and the cursor behind its closing quote, or none at the end. -/
def nextKey (first : Bool) (c : Cursor) : Step (Option String) :=
  let c := c.skipSpace
  match c.rest with
  | [] => c.failNext .endInObject
  | '\x7d' :: _ => .done none c
  | ch :: _ =>
    if first then
      if ch = '"' then (textLiteral c).map some else c.failNext .keyNotText
    else if ch = ',' then
      let c := c.skipOne.skipSpace
      match c.rest with
      | [] => c.failNext .endInValue
      | '"' :: _ => (textLiteral c).map some
      | '\x7d' :: _ => c.failNext .trailingComma
      | _ :: _ => c.failNext .keyNotText
    else c.failNext .noObjectEnd

/-- Reads the colon between a key and its value. -/
def colon (c : Cursor) : Step Unit :=
  let c := c.skipSpace
  match c.rest with
  | [] => c.failNext .endInObject
  | ':' :: _ => .done () c.skipOne
  | _ :: _ => c.failNext .noColon

/-- Reads the bracket that ends an array. -/
def closeArray (c : Cursor) : Step Unit :=
  let c := c.skipSpace
  match c.rest with
  | [] => c.failNext .endInArray
  | ']' :: _ => .done () c.skipOne
  | ',' :: _ =>
    let c := c.skipOne.skipSpace
    match c.rest with
    | ']' :: _ => c.failNext .trailingComma
    | _ => c.failNext .trailingCharacters
  | _ :: _ => c.failNext .trailingCharacters

/-- Reads the brace that ends an object. -/
def closeObject (c : Cursor) : Step Unit :=
  let c := c.skipSpace
  match c.rest with
  | [] => c.failNext .endInObject
  | '\x7d' :: _ => .done () c.skipOne
  | ',' :: _ => c.failNext .trailingComma
  | _ :: _ => c.failNext .trailingCharacters

/-- Gives an error without a place the place of the cursor. -/
def Error.placedAt (e : Error) (c : Cursor) : Error :=
  match e.place with
  | some _ => e
  | none => ⟨e.fault, some c.position⟩

/-- The end of a container. It is looked for also after the inside failed without a place, and the
error then lies where that search stopped. -/
def Step.enclosed {α : Type} (inside : Step α) (close : Cursor → Step Unit) : Step α :=
  match inside with
  | .done a c => (close c).map fun _ => a
  | .failed e c =>
    match e.place, close c with
    | some _, _ => .failed e c
    | none, .done _ next => .failed (e.placedAt next) next
    | none, .failed _ next => .failed (e.placedAt next) next

/-- Reads the items of an array up to its closing bracket; `fuel` is more than the number of
characters left. -/
def itemsFrom {α : Type} (item : Cursor → Step α) : Nat → Bool → Cursor → Step (List α)
  | 0, _, c => c.failHere .endInArray
  | fuel + 1, first, c =>
    (nextItem first c).andThen fun more c =>
      if more then
        (item c).andThen fun v c => (itemsFrom item fuel false c).map fun vs => v :: vs
      else .done [] c

/-- Reads the members of an object up to its closing brace. -/
def membersFrom {α : Type} (value : Cursor → Step α) :
    Nat → Bool → Cursor → Step (List (String × α))
  | 0, _, c => c.failHere .endInObject
  | fuel + 1, first, c =>
    (nextKey first c).andThen fun key? c =>
      match key? with
      | none => .done [] c
      | some key =>
        (colon c).andThen fun _ c =>
        (value c).andThen fun v c => (membersFrom value fuel false c).map fun ms => (key, v) :: ms

/-- Reads the items of an array from its opening bracket to behind its closing one. -/
def arrayOf {α : Type} (item : Cursor → Step α) (c : Cursor) : Step (List α) :=
  (itemsFrom item (c.rest.length + 1) true c.skipOne).enclosed closeArray

/-- Reads the members of an object from its opening brace to behind its closing one. -/
def objectOf {α : Type} (value : Cursor → Step α) (c : Cursor) : Step (List (String × α)) :=
  (membersFrom value (c.rest.length + 1) true c.skipOne).enclosed closeObject

/-- Reads a value that is no container; `container` takes over at a bracket or brace. -/
def scalarOr (container : Char → Cursor → Step Json) (c : Cursor) : Step Json :=
  let c := c.skipSpace
  match c.rest with
  | [] => c.failNext .endInValue
  | ch :: _ =>
    if ch = 'n' then (keyword ['u', 'l', 'l'] c.skipOne).map fun _ => .null
    else if ch = 't' then (keyword ['r', 'u', 'e'] c.skipOne).map fun _ => .bool true
    else if ch = 'f' then (keyword ['a', 'l', 's', 'e'] c.skipOne).map fun _ => .bool false
    else if ch = '-' then (numberLiteral true c.skipOne).map .number
    else if ch.isDigit then (numberLiteral false c).map .number
    else if ch = '"' then (textLiteral c).map .text
    else if ch = '[' || ch = '\x7b' then container ch c
    else c.failNext .noValue

/-- The key of the text that an object stands for. -/
def embeddingKey : String := "$serde_json::private::RawValue"

/-- Reads the text under `embeddingKey` and the value that it writes. -/
def embedded (read : String → Except Error Json) (c : Cursor) : Step Json :=
  (colon c).andThen fun _ c =>
  (textAs "raw value" c).andThen fun s c =>
    match read s with
    | .ok v => .done v c
    | .error e => .failed e c

/-- Reads an object; `read` reads embedded texts and `member` the values of other members. -/
def objectValue (read : String → Except Error Json) (member : Cursor → Step Json) (c : Cursor) :
    Step Json :=
  let inside := (nextKey true c.skipOne).andThen fun key? c =>
    match key? with
    | none => .done (.object []) c
    | some key =>
      if key = embeddingKey then embedded read c
      else
        (colon c).andThen fun _ c =>
        (member c).andThen fun v c =>
          (membersFrom member (c.rest.length + 1) false c).map fun ms => ofMembers ((key, v) :: ms)
  inside.enclosed closeObject

/-- Reads a value in which `levels` containers may lie inside each other. -/
def valueWith (read : String → Except Error Json) : Nat → Cursor → Step Json
  | 0 => scalarOr fun _ c => c.failNext .nestedTooDeep
  | levels + 1 => scalarOr fun ch c =>
    if ch = '[' then (arrayOf (valueWith read levels) c).map .array
    else objectValue read (valueWith read levels) c

/-- Reads a whole text with a reading step. -/
def wholeText {α : Type} (read : Cursor → Step α) (s : String) : Except Error α :=
  match (read (Cursor.start s)).andThen atEnd with
  | .done a _ => .ok a
  | .failed e _ => .error e

/-- Reads an embedded text. It may hold texts again, at most as deep as the one around all of them
has characters. -/
def embeddedText : Nat → String → Except Error Json
  | 0, s => wholeText (valueWith (fun _ => .error ⟨.nestedTooDeep, none⟩) maxLevels) s
  | depth + 1, s => wholeText (valueWith (embeddedText depth) maxLevels) s

/-- Reads a value in which `levels` containers may lie inside each other. -/
def value (levels : Nat) (c : Cursor) : Step Json :=
  valueWith (embeddedText c.rest.length) levels c

end DispatchStore.Json
