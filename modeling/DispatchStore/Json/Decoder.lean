import DispatchStore.Json.Printer
import DispatchStore.Json.Reader
import DispatchStore.Json.Skip

/-!
# Reading typed values

A decoder reads a value of one type from the cursor on; its first argument is how many containers
may still be entered. A value of another type is read far enough to name it in the error. A record
is read from an object, whose members come in any order, or from an array of its fields in order.
-/

namespace DispatchStore.Json

/-- Reads a value of type `α`. -/
abbrev Decoder (α : Type) := Nat → Cursor → Step α

/-- Enters a container, if one more may be entered. -/
def entering {α : Type} (levels : Nat) (read : Nat → Cursor → Step α) (c : Cursor) : Step α :=
  match levels with
  | 0 => c.failNext .nestedTooDeep
  | levels + 1 => read levels c

namespace Decoder

variable {α β : Type}

/-- Any value. -/
def json : Decoder Json := value

/-- A text. -/
def text : Decoder String := fun _ => textAs "a string"

/-- A truth value. -/
def bool : Decoder Bool := fun _ =>
  atValue fun ch c =>
    if ch = 't' then (keyword ['r', 'u', 'e'] c.skipOne).map fun _ => true
    else if ch = 'f' then (keyword ['a', 'l', 's', 'e'] c.skipOne).map fun _ => false
    else refuseType "a boolean" c

/-- A whole number in a range; `expected` names the range. -/
def integer (low high : Int) (expected : String) : Decoder Int := fun _ =>
  atValue fun ch c =>
    let check := fun (n : Number) (c : Cursor) =>
      match n with
      | .integer n =>
        if low ≤ n && n ≤ high then Step.done n c
        else c.failHere (.wrongValue (.integer n) expected)
      | .double bits =>
        c.failHere (.wrongType (.double (String.ofList (doubleChars bits))) expected)
    if ch = '-' then (numberLiteral true c.skipOne).andThen check
    else if ch.isDigit then (numberLiteral false c).andThen check
    else refuseType expected c

/-- A signed 64-bit number. -/
def int64 : Decoder Int := integer (-9223372036854775808) 9223372036854775807 "i64"

/-- An unsigned 8-bit number. -/
def uint8 : Decoder Int := integer 0 255 "u8"

/-- Null, or a value. -/
def optional (d : Decoder α) : Decoder (Option α) := fun levels c =>
  let c := c.skipSpace
  match c.rest with
  | 'n' :: _ => (keyword ['u', 'l', 'l'] c.skipOne).map fun _ => none
  | _ => (d levels c).map some

/-- An array of values. -/
def list (d : Decoder α) : Decoder (List α) := fun levels =>
  atValue fun ch c =>
    if ch = '[' then entering levels (fun levels => arrayOf (d levels)) c
    else refuseType "a sequence" c

/-- An object whose members all have one type, in ascending order of the keys. -/
def members (d : Decoder α) : Decoder (List (String × α)) := fun levels =>
  atValue fun ch c =>
    if ch = '\x7b' then
      entering levels (fun levels c => (objectOf (d levels) c).map fun ms =>
        ms.foldl (fun acc m => insertMember m.1 m.2 acc) []) c
    else refuseType "a map" c

/-- A text that a check turns into a value; its error lies behind the text. -/
def checkedText (expected : String) (check : String → Except String α) : Decoder α
  | _, c => (textAs expected c).andThen fun s c =>
    match check s with
    | .ok a => .done a c
    | .error reason => c.failHere (.refused reason)

/-- A value that a check turns into another; its error has no place of its own. -/
def refined (d : Decoder α) (check : α → Except String β) : Decoder β := fun levels c =>
  (d levels c).andThen fun a c =>
    match check a with
    | .ok b => .done b c
    | .error reason => c.failUnplaced (.refused reason)

/-- Reads a whole text. -/
def run (d : Decoder α) (s : String) : Except Error α :=
  wholeText (d maxLevels) s

end Decoder

/-- A field of a record that is put together in a draft of type `σ`. -/
structure Field (σ : Type) where
  /-- The key of the member. -/
  name : String
  /-- Whether the draft has the field already. -/
  present : σ → Bool
  /-- Reads the value and puts it into the draft. -/
  read : Decoder (σ → σ)
  /-- Whether an array may end before this field. -/
  omissible : Bool

/-- A field with a value of type `α`, kept in the draft as an option. -/
def Field.of {σ α : Type} (name : String) (get : σ → Option α) (set : α → σ → σ)
    (d : Decoder α) (omissible : Bool) : Field σ :=
  ⟨name, fun s => (get s).isSome, fun levels c => (d levels c).map set, omissible⟩

namespace Record

variable {σ α : Type}

/-- Reads the fields in order from the items of an array; `index` counts the items read. -/
def fromItems (expected : String) :
    List (Field σ) → Nat → σ → Nat → Cursor → Step σ
  | [], _, draft, _, c => .done draft c
  | f :: fs, levels, draft, index, c =>
    (nextItem (index == 0) c).andThen fun more c =>
      if more then
        (f.read levels c).andThen fun set c =>
          fromItems expected fs levels (set draft) (index + 1) c
      else if f.omissible then .done draft c
      else c.failUnplaced (.wrongLength index expected)

/-- Reads the members of an object into the draft, in any order. A field may come once; members
that are no field are passed over. -/
def fromMembers (fields : List (Field σ)) (levels : Nat) : Nat → Bool → σ → Cursor → Step σ
  | 0, _, _, c => c.failHere .endInObject
  | fuel + 1, first, draft, c =>
    (nextKey first c).andThen fun key? c =>
      match key? with
      | none => .done draft c
      | some key =>
        match fields.find? fun f => f.name == key with
        | none =>
          (colon c).andThen fun _ c =>
          (skipValue c).andThen fun _ c => fromMembers fields levels fuel false draft c
        | some f =>
          if f.present draft then c.failUnplaced (.duplicateField key)
          else
            (colon c).andThen fun _ c =>
            (f.read levels c).andThen fun set c =>
              fromMembers fields levels fuel false (set draft) c

/-- Completes a draft; the error of an incomplete one has no place of its own. -/
def finish (complete : σ → Except Fault α) (s : Step σ) : Step α :=
  s.andThen fun draft c =>
    match complete draft with
    | .ok a => .done a c
    | .error fault => c.failUnplaced fault

/-- Reads a record with the given name and fields. -/
def decoder (name : String) (fields : List (Field σ)) (empty : σ)
    (complete : σ → Except Fault α) : Decoder α := fun levels =>
  let expected := "struct " ++ name
  atValue fun ch c =>
    if ch = '[' then
      entering levels (fun levels c =>
        (finish complete (fromItems
          (expected ++ " with " ++ toString fields.length ++ " elements")
          fields levels empty 0 c.skipOne)).enclosed closeArray) c
    else if ch = '\x7b' then
      entering levels (fun levels c =>
        (finish complete
          (fromMembers fields levels (c.rest.length + 1) true empty c.skipOne)).enclosed
          closeObject) c
    else refuseType expected c

/-- The value of a field, or the fault that it is missing. -/
def need (name : String) : Option α → Except Fault α
  | some a => .ok a
  | none => .error (.missingField name)

end Record

end DispatchStore.Json
