import DispatchStore.Decimal.Scientific

/-!
# Numbers with a binary point

A stored number that is not whole is a dyadic number or an infinity. What a text or a whole number
says is rounded to 53 binary digits, to the even neighbour where two are equally near; what exceeds
the largest double is infinite. There is no minus zero. Sums and products are not needed here: a
number is read, ordered and written, all of it in exact arithmetic.
-/

namespace DispatchStore

/-- A dyadic number or an infinity. -/
inductive Extended where
  | finite (x : Dyadic)
  | infinite (negative : Bool)
deriving DecidableEq

namespace Extended

/-- Whether `a` is less than `b` or the same. -/
def le : Extended → Extended → Bool
  | infinite negative, _ => negative
  | finite _, infinite negative => !negative
  | finite x, finite y => x.ble y

/-- The same number with another sign if so asked. -/
def signed (negative : Bool) (x : Extended) : Extended :=
  if negative then
    match x with
    | finite x => finite (-x)
    | infinite n => infinite !n
  else x

/-! ## Rounding -/

/-- `num / den` as a whole number, the nearest one and the even one of two. -/
def nearestEven (num den : Nat) : Nat :=
  let q := num / den
  let twice := 2 * (num % den)
  if twice < den || (twice = den && q % 2 = 0) then q else q + 1

/-- The power of two of the first binary digit of the positive fraction `num / den`. -/
def leadingBit (num den : Nat) : Int :=
  let guess := (num.log2 : Int) - (den.log2 : Int)
  if den * Nat.pow 2 guess.toNat ≤ num * Nat.pow 2 (-guess).toNat then guess else guess - 1

/-- The double nearest to the fraction `num / den`. -/
def nearest (num den : Nat) : Extended :=
  if num = 0 then finite .zero
  else
    let unit := max (leadingBit num den - 52) (-1074)
    let q := nearestEven (num * Nat.pow 2 (-unit).toNat) (den * Nat.pow 2 unit.toNat)
    if 971 < unit || (unit = 971 && Nat.pow 2 53 ≤ q) then infinite false
    else finite (.ofIntWithPrec q (-unit))

/-- The double nearest to a whole number. -/
def ofInt (n : Int) : Extended := signed (n < 0) (nearest n.natAbs 1)

/-- The double nearest to `significand · 10 ^ power`, of a significand with so many digits. A number
far outside the range of the doubles is zero or infinite without being computed. -/
def ofDecimal (digits significand : Nat) (power : Int) : Extended :=
  if significand = 0 || power + (digits : Int) < -400 then finite .zero
  else if 400 < power then infinite false
  else nearest (significand * Nat.pow 10 power.toNat) (Nat.pow 10 (-power).toNat)

/-- The whole number that a number is. -/
def toInt? : Extended → Option Int
  | finite .zero => some 0
  | finite (.ofOdd n k _) => if k ≤ 0 then some (n * (Nat.pow 2 (-k).toNat : Int)) else none
  | infinite _ => none

/-! ## Writing -/

/-- The digits that are written at most. -/
def writtenDigits : Nat := 15

/-- An exponent: a sign and at least two digits. -/
def exponentChars (e : Int) : List Char :=
  let digits := Nat.toDigits 10 e.natAbs
  'e' :: (if e < 0 then '-' else '+') ::
    (List.replicate (2 - digits.length) '0' ++ digits)

/-- A decimal, positionally if the power of its first digit allows it. -/
def decimalChars (d : Decimal.Scientific) : List Char :=
  if -4 ≤ d.exponent && d.exponent < (writtenDigits : Int) then d.positional
  else Decimal.Scientific.positional ⟨d.digits, 0⟩ ++ exponentChars d.exponent

/-- A number as text. -/
def chars : Extended → List Char
  | infinite true => ['-', 'I', 'n', 'f']
  | infinite false => ['I', 'n', 'f']
  | finite .zero => ['0', '.', '0']
  | finite (.ofOdd n k _) =>
    let magnitude := Decimal.Scientific.rounded writtenDigits
      (n.natAbs * Nat.pow 2 (-k).toNat) (Nat.pow 2 k.toNat)
    let written := decimalChars magnitude
    if n < 0 then '-' :: written else written

/-- A number as text. -/
def text (x : Extended) : String := String.ofList x.chars

end Extended

end DispatchStore
