/-!
# JSON values

A value is null, a truth value, a number, a text, an array or an object. A number without fraction
and exponent that fits the 64-bit ranges is an integer, every other number a double. An object that
was read holds each key once, in ascending order; `Json.insertMember` keeps it so.
-/

namespace DispatchStore

/-- A JSON number. -/
inductive Json.Number where
  /-- A whole number from `-2⁶³` to `2⁶⁴ - 1`. -/
  | integer (n : Int)
  /-- Any other number, as the bits of its double. -/
  | double (bits : UInt64)
deriving DecidableEq

/-- A JSON value. -/
inductive Json where
  | null
  | bool (b : Bool)
  | number (n : Json.Number)
  | text (s : String)
  | array (items : List Json)
  | object (members : List (String × Json))

namespace Json

/-- The members of an object after `key` is set to `value`: a key that is there keeps its place and
takes the new value, a new key goes before the first larger one. -/
def insertMember {α : Type} (key : String) (value : α) :
    List (String × α) → List (String × α)
  | [] => [(key, value)]
  | (k, v) :: rest =>
    if key < k then (key, value) :: (k, v) :: rest
    else if key = k then (key, value) :: rest
    else (k, v) :: insertMember key value rest

/-- The object with the given members, the last of several with one key. -/
def ofMembers (members : List (String × Json)) : Json :=
  .object (members.foldl (fun acc m => insertMember m.1 m.2 acc) [])

/-- Whether an object holds `key` at its top level. No other value holds a key. -/
def hasKey (key : String) : Json → Bool
  | .object members => members.any (·.1 == key)
  | _ => false

/-- An integer. -/
def ofInt (n : Int) : Json := .number (.integer n)

/-- A text, or null if there is none. -/
def ofText? : Option String → Json
  | some s => .text s
  | none => .null

end Json

end DispatchStore
