/-!
# Decimals in scientific form

A decimal is kept as its digits and the power of ten of the first one. The leading power of a
fraction is found by exact integer arithmetic.
-/

namespace DispatchStore.Decimal

/-- The decimal `d₁.d₂d₃… · 10 ^ exponent`. -/
structure Scientific where
  /-- The digits, the first and the last of them not zero. -/
  digits : List Char
  /-- The power of ten of the first digit. -/
  exponent : Int

/-- The power of ten of the first digit of the positive fraction `num / den`. -/
def leadingPower (num den : Nat) : Int :=
  if den ≤ num then ((Nat.toDigits 10 (num / den)).length : Int) - 1
  else
    match (List.range 400).find? fun j => den ≤ num * Nat.pow 10 (j + 1) with
    | some j => -((j : Int) + 1)
    | none => -400

namespace Scientific

/-- The decimal of a whole number times a power of ten. -/
def ofScaled (n : Nat) (power : Int) : Scientific :=
  let all := Nat.toDigits 10 n
  ⟨(all.reverse.dropWhile (· = '0')).reverse, power + (all.length : Int) - 1⟩

/-- The positive fraction `num / den` with the given number of digits; a half goes up. -/
def rounded (places num den : Nat) : Scientific :=
  let power := leadingPower num den - (places : Int) + 1
  let scaled := num * Nat.pow 10 (-power).toNat
  let unit := den * Nat.pow 10 power.toNat
  ofScaled ((2 * scaled + unit) / (2 * unit)) power

/-- The digits with the point where the exponent puts it, and at least one digit behind it. -/
def positional (d : Scientific) : List Char :=
  if d.exponent < 0 then
    '0' :: '.' :: (List.replicate (d.exponent.natAbs - 1) '0' ++ d.digits)
  else
    let whole := d.exponent.toNat + 1
    let padded := d.digits ++ List.replicate (whole - d.digits.length) '0'
    let fraction := padded.drop whole
    padded.take whole ++ '.' :: (if fraction.isEmpty then ['0'] else fraction)

end Scientific

end DispatchStore.Decimal
