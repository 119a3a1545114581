import DispatchStore.Json.NumberLiteral
import DispatchStore.Json.TextLiteral

/-!
# Passing over a value

The value of a field that a record does not have is read past without being built. Containers may
nest to any depth; the ones that are open are kept in a list.
-/

namespace DispatchStore.Json

/-- The kind of a container. -/
inductive Bracket where
  | array
  | object

/-- Passes over one value that is no container and stands at the cursor. -/
def skipScalar (ch : Char) (c : Cursor) : Step Unit :=
  if ch = 'n' then keyword ['u', 'l', 'l'] c.skipOne
  else if ch = 't' then keyword ['r', 'u', 'e'] c.skipOne
  else if ch = 'f' then keyword ['a', 'l', 's', 'e'] c.skipOne
  else if ch = '-' then skipNumber c.skipOne
  else if ch.isDigit then skipNumber c
  else if ch = '"' then skipText c
  else c.failNext .noValue

/-- Passes over the key of a member and its colon. -/
def skipKey (c : Cursor) : Step Unit :=
  let c := c.skipSpace
  match c.rest with
  | [] => c.failNext .endInObject
  | '"' :: _ =>
    (skipText c).andThen fun _ c =>
      let c := c.skipSpace
      match c.rest with
      | [] => c.failNext .endInObject
      | ':' :: _ => .done () c.skipOne
      | _ :: _ => c.failNext .noColon
  | _ :: _ => c.failNext .keyNotText

/-- Passes over the ends of the innermost containers. The result holds the containers still open,
and the cursor then stands before the next value; `afterValue` says that a comma may come. -/
def skipEnds : Nat → Bool → List Bracket → Cursor → Step (List Bracket)
  | 0, _, _, c => c.failHere .endInValue
  | _ + 1, _, [], c => .done [] c
  | fuel + 1, afterValue, bracket :: outer, c =>
    let c := c.skipSpace
    let value := fun (c : Cursor) => match bracket with
      | .array => Step.done (bracket :: outer) c
      | .object => (skipKey c).map fun _ => bracket :: outer
    match c.rest, bracket with
    | [], .array => c.failNext .endInArray
    | [], .object => c.failNext .endInObject
    | ']' :: _, .array => skipEnds fuel true outer c.skipOne
    | '\x7d' :: _, .object => skipEnds fuel true outer c.skipOne
    | ch :: _, _ =>
      if !afterValue then value c
      else if ch = ',' then value c.skipOne
      else match bracket with
        | .array => c.failNext .noArrayEnd
        | .object => c.failNext .noObjectEnd

/-- Passes over values until the given containers are closed. -/
def skipFrom : Nat → List Bracket → Cursor → Step Unit
  | 0, _, c => c.failHere .endInValue
  | fuel + 1, enclosing, c =>
    let c := c.skipSpace
    let after := fun (afterValue : Bool) (stack : List Bracket) (c : Cursor) =>
      (skipEnds (c.rest.length + 2) afterValue stack c).andThen fun stack c =>
        if stack.isEmpty then Step.done () c else skipFrom fuel stack c
    match c.rest with
    | [] => c.failNext .endInValue
    | '[' :: _ => after false (.array :: enclosing) c.skipOne
    | '\x7b' :: _ => after false (.object :: enclosing) c.skipOne
    | ch :: _ => (skipScalar ch c).andThen fun _ c => after true enclosing c

/-- Passes over one value. -/
def skipValue (c : Cursor) : Step Unit := skipFrom (c.rest.length + 1) [] c

end DispatchStore.Json
