import DispatchStore.Decimal.Natural
import DispatchStore.Table.Value
import DispatchStore.Text.Ascii

/-!
# Affinities

The declared type of a column gives it an affinity, which says how a value is changed when it is
stored there or compared with what is stored there. A text is taken for a number if it writes one
and nothing else but white space around it: a sign, digits with an optional point among them, and an
optional exponent.
-/

namespace DispatchStore

namespace Value

/-- Whether `c` may stand around a number in a text. -/
def isPadding (c : Char) : Bool := c = ' ' || (0x09 ≤ c.toNat && c.toNat ≤ 0x0D)

/-- Characters without the padding at both ends. -/
def unpadded (cs : List Char) : List Char :=
  ((cs.dropWhile isPadding).reverse.dropWhile isPadding).reverse

/-- Takes a sign off; the first part says whether it is a minus. -/
def splitSign : List Char → Bool × List Char
  | '-' :: cs => (true, cs)
  | '+' :: cs => (false, cs)
  | cs => (false, cs)

/-- The exponent that the rest of a number writes: none is zero. -/
def exponentOf? (cs : List Char) : Option Int :=
  match cs with
  | [] => some 0
  | c :: rest =>
    let (negative, digits) := splitSign rest
    if (c = 'e' || c = 'E') && !digits.isEmpty && digits.all Char.isDigit then
      let n : Int := Decimal.ofDigits digits
      some (if negative then -n else n)
    else none

/-- A whole number, or another number if it does not fit. -/
def ofWhole (n : Int) : Value :=
  if minInt ≤ n && n ≤ maxInt then int n else real (.ofInt n)

/-- The whole number that a number is, if it lies strictly between the bounds; else the number. -/
def simplified (x : Extended) : Value :=
  match x.toInt? with
  | some n => if minInt < n && n < maxInt then int n else real x
  | none => real x

/-- The number that a text writes, if it writes nothing else. -/
def ofNumeral? (s : String) : Option Value :=
  let (negative, cs) := splitSign (unpadded s.toList)
  let whole := cs.takeWhile Char.isDigit
  match cs.dropWhile Char.isDigit with
  | [] =>
    if whole.isEmpty then none
    else
      let n : Int := Decimal.ofDigits whole
      some (ofWhole (if negative then -n else n))
  | c :: rest =>
    let fraction := if c = '.' then rest.takeWhile Char.isDigit else []
    let tail := if c = '.' then rest.dropWhile Char.isDigit else c :: rest
    let digits := whole ++ fraction
    if digits.isEmpty then none
    else (exponentOf? tail).map fun e =>
      let x := Extended.ofDecimal digits.length (Decimal.ofDigits digits) (e - fraction.length)
      simplified (x.signed negative)

end Value

/-- How a column changes the values that meet it. -/
inductive Affinity where
  /-- Numbers become texts. -/
  | text
  /-- Texts that write a number become it, a whole one where that is the same. -/
  | numeric
  /-- Texts that write a number become it, and no number is kept as a whole one. -/
  | real
  /-- Values stay as they are. -/
  | none
deriving DecidableEq

namespace Affinity

/-- A value with its text taken for a number if it writes one. -/
def numberOf : Value → Value
  | .text s => (Value.ofNumeral? s).getD (.text s)
  | v => v

/-- A value as a column of this affinity holds it. -/
def coerce : Affinity → Value → Value
  | text, .int n => .text (toString n)
  | text, .real x => .text x.text
  | numeric, v => numberOf v
  | real, v => match numberOf v with
    | .int n => .real (.ofInt n)
    | v => v
  | _, v => v

/-- A value as it is compared with the values of a column of this affinity. -/
def comparand : Affinity → Value → Value
  | real, v => numberOf v
  | a, v => a.coerce v

/-- Whether the characters `word` occur in a row in a list. -/
def occursIn (word : List Char) : List Char → Bool
  | [] => word.isEmpty
  | c :: cs => word.isPrefixOf (c :: cs) || occursIn word cs

/-- The affinity of a declared type. -/
def ofType (declared : String) : Affinity :=
  let cs := (Text.upper declared).toList
  let mentions := fun (word : String) => occursIn word.toList cs
  if cs.isEmpty then none
  else if mentions "INT" then numeric
  else if mentions "CHAR" || mentions "CLOB" || mentions "TEXT" then text
  else if mentions "BLOB" then none
  else if mentions "REAL" || mentions "FLOA" || mentions "DOUB" then real
  else numeric

end Affinity

end DispatchStore
