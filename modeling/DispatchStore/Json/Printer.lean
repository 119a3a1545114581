import DispatchStore.Decimal.Shortest
import DispatchStore.Json.Basic

/-!
# Writing JSON

The compact form: no white space, members in the order in which the object holds them. In a text
the quote, the backslash and the control characters below U+0020 are escaped and all else stands
for itself. A double is written with the fewest digits that read back, positionally from `10⁻⁵` up
to below `10¹⁶` and with an exponent outside that range.
-/

namespace DispatchStore.Json

open Decimal (Double Scientific)

/-- One character as it stands inside a written text. -/
def escapedChar (c : Char) : List Char :=
  if c = '"' then ['\\', '"']
  else if c = '\\' then ['\\', '\\']
  else if c = '\x08' then ['\\', 'b']
  else if c = '\x0c' then ['\\', 'f']
  else if c = '\n' then ['\\', 'n']
  else if c = '\r' then ['\\', 'r']
  else if c = '\t' then ['\\', 't']
  else if c.toNat < 0x20 then
    ['\\', 'u', '0', '0', Nat.digitChar (c.toNat / 16), Nat.digitChar (c.toNat % 16)]
  else [c]

/-- The characters of a text between quotes. -/
def textChars (s : String) : List Char := '"' :: (s.toList.flatMap escapedChar ++ ['"'])

/-- An exponent: a sign and the digits. -/
def exponentChars (e : Int) : List Char :=
  'e' :: (if e < 0 then '-' else '+') :: Nat.toDigits 10 e.natAbs

/-- The digits of a decimal with the point after the first and an exponent. -/
def scientificChars (d : Scientific) : List Char :=
  match d.digits with
  | [] => []
  | [c] => c :: exponentChars d.exponent
  | c :: rest => c :: '.' :: (rest ++ exponentChars d.exponent)

/-- A finite double. -/
def doubleChars (bits : UInt64) : List Char :=
  let d := Double.ofBits bits
  let magnitude :=
    if d.significand = 0 then ['0', '.', '0']
    else
      let shortest := d.shortest
      if -5 ≤ shortest.exponent && shortest.exponent < 16 then shortest.positional
      else scientificChars shortest
  if d.negative then '-' :: magnitude else magnitude

/-- A whole number. -/
def integerChars (n : Int) : List Char :=
  if n < 0 then '-' :: Nat.toDigits 10 n.natAbs else Nat.toDigits 10 n.natAbs

/-- A number. -/
def Number.chars : Number → List Char
  | .integer n => integerChars n
  | .double bits => doubleChars bits

mutual

/-- A value. -/
def chars : Json → List Char
  | .null => ['n', 'u', 'l', 'l']
  | .bool true => ['t', 'r', 'u', 'e']
  | .bool false => ['f', 'a', 'l', 's', 'e']
  | .number n => n.chars
  | .text s => textChars s
  | .array [] => ['[', ']']
  | .array (v :: rest) => '[' :: (chars v ++ itemsChars rest)
  | .object [] => ['\x7b', '\x7d']
  | .object ((k, v) :: rest) => '\x7b' :: (textChars k ++ ':' :: (chars v ++ membersChars rest))

/-- The items after the first, each behind its comma, and the closing bracket. -/
def itemsChars : List Json → List Char
  | [] => [']']
  | v :: rest => ',' :: (chars v ++ itemsChars rest)

/-- The members after the first, each behind its comma, and the closing brace. -/
def membersChars : List (String × Json) → List Char
  | [] => ['\x7d']
  | (k, v) :: rest => ',' :: (textChars k ++ ':' :: (chars v ++ membersChars rest))

end

/-- The compact text of a value. -/
def render (v : Json) : String := String.ofList v.chars

end DispatchStore.Json
