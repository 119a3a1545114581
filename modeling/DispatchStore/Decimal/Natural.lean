/-!
# Decimal natural numbers

Reading and writing whole numbers in base ten. A bounded number is written as digits with one
optional plus sign before them; leading zeros do not count, and a value above the bound is refused.
-/

namespace DispatchStore.Decimal

/-- The value of a digit character. -/
def digitValue (c : Char) : Nat := c.toNat - '0'.toNat

/-- The number that a list of digits writes. -/
def ofDigits (ds : List Char) : Nat := ds.foldl (fun n d => 10 * n + digitValue d) 0

/-- The number up to `bound` that a text writes: an optional plus sign, then digits only. -/
def readBounded? (bound : Nat) (s : String) : Option Nat :=
  let digits := match s.toList with
    | '+' :: ds => ds
    | ds => ds
  if !digits.isEmpty && digits.all Char.isDigit && ofDigits digits ≤ bound then
    some (ofDigits digits)
  else none

/-- A text filled up with zeros on the left to `width` characters. -/
def padLeft (width : Nat) (s : String) : String :=
  String.ofList (List.replicate (width - s.length) '0') ++ s

/-- A number filled up with zeros on the left to `width` digits. -/
def padded (width n : Nat) : String := padLeft width (toString n)

end DispatchStore.Decimal
