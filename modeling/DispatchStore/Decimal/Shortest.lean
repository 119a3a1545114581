import DispatchStore.Decimal.Scientific

/-!
# The shortest decimal that reads back

A finite double is `significand · 2 ^ exponent`. The real numbers that round to it form an interval
around it, whose ends belong to it when the significand is even. Of the decimals in that interval
the shortest is written, and of two that are equally short the nearer. All of it is exact integer
arithmetic.
-/

namespace DispatchStore.Decimal

/-- A finite double taken apart: its value is `± significand · 2 ^ exponent`. -/
structure Double where
  /-- Whether the sign bit is set. -/
  negative : Bool
  /-- The significand with its leading bit. -/
  significand : Nat
  /-- The power of two it is scaled by. -/
  exponent : Int
  /-- Whether the next smaller double is only half as far away as the next larger one. -/
  nearerBelow : Bool

/-- The parts of the double with the given bits. -/
def Double.ofBits (bits : UInt64) : Double :=
  let n := bits.toNat
  let fraction := n % Nat.pow 2 52
  let biased := n / Nat.pow 2 52 % Nat.pow 2 11
  let negative : Bool := n / Nat.pow 2 63 = 1
  if biased = 0 then ⟨negative, fraction, -1074, false⟩
  else ⟨negative, Nat.pow 2 52 + fraction, (biased : Int) - 1075, fraction = 0 && biased ≠ 1⟩

/-- A multiple of `10 ^ power` in the rounding interval of `d`, the nearer of two. -/
def Double.onGrid? (d : Double) (power : Int) : Option Nat :=
  -- everything is counted in quarters of the last bit and scaled to whole numbers
  let unit := d.exponent - 2
  let grid := Nat.pow 10 power.toNat * Nat.pow 2 (-unit).toNat
  let scale := Nat.pow 10 (-power).toNat * Nat.pow 2 unit.toNat
  let value := 4 * d.significand * scale
  let low := (4 * d.significand - if d.nearerBelow then 1 else 2) * scale
  let high := (4 * d.significand + 2) * scale
  let inside := fun (n : Nat) =>
    if d.significand % 2 = 0 then low ≤ n * grid && n * grid ≤ high
    else low < n * grid && n * grid < high
  let below := value / grid
  let above := below + 1
  match inside below, inside above with
  | true, true =>
    let down := value - below * grid
    let up := above * grid - value
    some (if down < up || (down = up && below % 2 = 0) then below else above)
  | true, false => some below
  | false, true => some above
  | false, false => none

/-- The shortest decimal that reads back as `d`, which is not zero. -/
def Double.shortest (d : Double) : Scientific :=
  let num := d.significand * Nat.pow 2 d.exponent.toNat
  let top := leadingPower num (Nat.pow 2 (-d.exponent).toNat)
  let hit := (List.range 17).findSome? fun (i : Nat) =>
    let power := top - (i : Int)
    (d.onGrid? power).bind fun n => if n = 0 then none else some (Scientific.ofScaled n power)
  hit.getD ⟨['0'], 0⟩

end DispatchStore.Decimal
