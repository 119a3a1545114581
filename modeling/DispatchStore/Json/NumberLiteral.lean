import DispatchStore.Json.Basic
import DispatchStore.Json.Cursor

/-!
# Reading a number

The digits are gathered in a 64-bit significand for as long as they fit; digits of the whole part
that no longer fit raise the power of ten, digits of the fraction that no longer fit are dropped.
A number with a fraction, an exponent or too many digits is a double: the significand is rounded to
a double and then multiplied or divided by a power of ten, each step rounded once. Minus zero and a
negative number below `-2⁶³` are doubles too.
-/

namespace DispatchStore.Json

/-- The largest significand. -/
def significandBound : Nat := UInt64.size - 1

/-- The largest exponent that is read in full. -/
def exponentBound : Nat := 2147483647

/-- The power of ten as a double. -/
def powerOfTen (n : Nat) : Float := Float.ofScientific 1 false n

/-- `f · 10 ^ e`, or none if it is too large. Below the smallest tabulated power the double is
divided in several steps, which end at zero. -/
def scaleByTen : Nat → Float → Int → Option Float
  | 0, f, _ => some f
  | fuel + 1, f, e =>
    if e.natAbs ≤ 308 then
      if 0 ≤ e then
        let g := f * powerOfTen e.toNat
        if g.isInf then none else some g
      else some (f / powerOfTen e.natAbs)
    else if f == 0 then some f
    else if 0 ≤ e then none
    else scaleByTen fuel (f / powerOfTen 308) (e + 308)

/-- A double with the sign that was read. -/
def signed (negative : Bool) (f : Float) : Number :=
  .double (if negative then (-f).toBits else f.toBits)

/-- The double `significand · 10 ^ power`, from behind the last digit. -/
def finishDouble (negative : Bool) (significand : Nat) (power : Int) (c : Cursor) : Step Number :=
  match scaleByTen 4 (UInt64.ofNat significand).toFloat power with
  | some f => .done (signed negative f) c
  | none => c.failHere .numberTooLarge

/-- A run of digits and the cursor behind it. -/
def digitRunFrom (p : Position) : List Char → List Nat × Cursor
  | [] => ([], ⟨[], p⟩)
  | c :: cs =>
    if c.isDigit then
      let (ds, next) := digitRunFrom (p.past c) cs
      ((c.toNat - '0'.toNat) :: ds, next)
    else ([], ⟨c :: cs, p⟩)

/-- The digits at the cursor and the cursor behind them. -/
def digitRun (c : Cursor) : List Nat × Cursor := digitRunFrom c.position c.rest

/-- Appends digits to a number for as long as it stays within the bound; the second part counts the
digits that are left over. -/
def gather (bound : Nat) : Nat → List Nat → Nat × Nat
  | n, [] => (n, 0)
  | n, d :: ds => if n * 10 + d ≤ bound then gather bound (n * 10 + d) ds else (n, ds.length + 1)

/-- Fails because a digit has to follow. -/
def noDigit {α : Type} (c : Cursor) : Step α :=
  match c.rest with
  | [] => c.failHere .endInValue
  | _ :: _ => c.failNext .badNumber

/-- Reads an exponent from its letter on. An exponent past the bound makes the number zero or too
large, whichever its sign says. -/
def exponentPart (negative : Bool) (significand : Nat) (power : Int) (c : Cursor) : Step Number :=
  let c := c.skipOne
  let (down, c) := match c.rest with
    | '+' :: _ => (false, c.skipOne)
    | '-' :: _ => (true, c.skipOne)
    | _ => (false, c)
  match digitRun c with
  | ([], _) => noDigit c
  | (d :: ds, next) =>
    let (e, left) := gather exponentBound d ds
    if left = 0 then
      finishDouble negative significand (if down then power - (e : Int) else power + (e : Int)) next
    else if significand ≠ 0 && !down then
      let place := c.position.advance (1 + ds.length - left + 1) c.rest
      .failed ⟨.numberTooLarge, some place⟩ next
    else .done (signed negative 0) next

/-- Reads what may follow the digits of a double: an exponent. -/
def doubleTail (negative : Bool) (significand : Nat) (power : Int) (c : Cursor) : Step Number :=
  match c.rest with
  | 'e' :: _ => exponentPart negative significand power c
  | 'E' :: _ => exponentPart negative significand power c
  | _ => finishDouble negative significand power c

/-- Reads a fraction from its point on. -/
def fractionPart (negative : Bool) (significand : Nat) (power : Int) (c : Cursor) : Step Number :=
  let c := c.skipOne
  match digitRun c with
  | ([], _) => noDigit c
  | (ds, next) =>
    let (s, left) := gather significandBound significand ds
    doubleTail negative s (power - ((ds.length - left : Nat) : Int)) next

/-- The number without fraction and exponent. -/
def wholeNumber (negative : Bool) (n : Nat) : Number :=
  if negative then
    if n = 0 || 9223372036854775808 < n then .double (-(UInt64.ofNat n).toFloat).toBits
    else .integer (-n)
  else .integer n

/-- Reads a number from behind its sign. -/
def numberLiteral (negative : Bool) (c : Cursor) : Step Number :=
  match digitRun c with
  | ([], _) => noDigit c
  | (0 :: _ :: _, _) => c.skipOne.failNext .badNumber
  | (ds, next) =>
    let (s, left) := gather significandBound 0 ds
    match next.rest with
    | '.' :: _ => fractionPart negative s left next
    | 'e' :: _ => exponentPart negative s left next
    | 'E' :: _ => exponentPart negative s left next
    | _ =>
      if left = 0 then .done (wholeNumber negative s) next
      else finishDouble negative s left next

/-- Passes over an exponent from its letter on. -/
def skipExponent (c : Cursor) : Step Unit :=
  let c := c.skipOne
  let c := match c.rest with
    | '+' :: _ => c.skipOne
    | '-' :: _ => c.skipOne
    | _ => c
  match digitRun c with
  | ([], _) => c.failNext .badNumber
  | (_, next) => .done () next

/-- Passes over a number from behind its sign. -/
def skipNumber (c : Cursor) : Step Unit :=
  match digitRun c with
  | ([], _) => c.failNext .badNumber
  | (0 :: _ :: _, _) => c.skipOne.failNext .badNumber
  | (_, next) =>
    match next.rest with
    | '.' :: _ =>
      match digitRun next.skipOne with
      | ([], _) => next.skipOne.failNext .badNumber
      | (_, after) =>
        match after.rest with
        | 'e' :: _ => skipExponent after
        | 'E' :: _ => skipExponent after
        | _ => .done () after
    | 'e' :: _ => skipExponent next
    | 'E' :: _ => skipExponent next
    | _ => .done () next

end DispatchStore.Json
