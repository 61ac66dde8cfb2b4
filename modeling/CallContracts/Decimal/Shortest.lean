/-!
# The shortest decimal of a binary number

Many decimals read back as the same binary floating-point number: those between the halfway points
to its two neighbours. `Decimal.shortest` selects among them a multiple of the largest possible
power of ten, and of those multiples the one nearest to the number. All arithmetic is exact.
-/

namespace CallContracts

/-- The number `digits * 10 ^ exponent`. -/
structure Decimal where
  digits : Nat
  exponent : Int
  deriving DecidableEq

/-- The positive number `mantissa * 2 ^ exponent` of 64-bit floating point. -/
structure Binary where
  mantissa : Nat
  exponent : Int
  /-- Whether the next smaller number is only half as far away as the next larger one. -/
  narrowBelow : Bool

namespace Binary

/-- The absolute value that the bits of a finite number stand for. -/
def ofBits (bits : UInt64) : Binary :=
  let field := ((bits >>> 52) &&& 0x7FF).toNat
  let fraction := (bits &&& 0xFFFFFFFFFFFFF).toNat
  if field = 0 then
    ⟨fraction, -1074, false⟩
  else
    ⟨Nat.pow 2 52 + fraction, (field : Int) - 1075, fraction = 0 && field > 1⟩

/-- Four times the number in units of `10 ^ scale`, as numerator and denominator of a fraction whose
numerator is a multiple of the mantissa: `(factor, denominator)` with value `mantissa * factor`. -/
def unitFraction (number : Binary) (scale : Int) : Nat × Nat :=
  (Nat.pow 2 number.exponent.toNat * Nat.pow 10 (-scale).toNat,
    4 * Nat.pow 2 (-number.exponent).toNat * Nat.pow 10 scale.toNat)

/-- Whether `multiple * 10 ^ scale` reads back as the number: it lies between the halfway points to
the two neighbours, which belong to the number exactly if its mantissa is even. -/
def readsBack (number : Binary) (scale : Int) (multiple : Nat) : Bool :=
  let (factor, denominator) := number.unitFraction scale
  let lower := (4 * number.mantissa - (if number.narrowBelow then 1 else 2)) * factor
  let upper := (4 * number.mantissa + 2) * factor
  let candidate := multiple * denominator
  if number.mantissa % 2 = 0 then lower ≤ candidate && candidate ≤ upper
  else lower < candidate && candidate < upper

/-- The multiple of `10 ^ scale` that reads back as the number and is nearest to it, if there is
one. A multiple exactly as near from above is preferred. -/
def multiple? (number : Binary) (scale : Int) : Option Nat :=
  let (factor, denominator) := number.unitFraction scale
  let value := 4 * number.mantissa * factor
  let below := value / denominator
  let above := below + 1
  let aboveFirst := above * denominator - value ≤ value - below * denominator
  let (near, far) := if aboveFirst then (above, below) else (below, above)
  if number.readsBack scale near then some near
  else if number.readsBack scale far then some far
  else none

/-- A power of ten above the number: its exponent is at most two too large. -/
def topScale (number : Binary) : Int :=
  ((Nat.log2 number.mantissa : Int) + number.exponent + 1) * 30103 / 100000 + 2

/-- The first multiple found at the scales `scale`, `scale - 1`, …, of which `steps` are tried. -/
def search (number : Binary) (scale : Int) : (steps : Nat) → Decimal
  | 0 => ⟨number.multiple? scale |>.getD 0, scale⟩
  | steps + 1 =>
    match number.multiple? scale with
    | some multiple => ⟨multiple, scale⟩
    | none => number.search (scale - 1) steps

end Binary

namespace Decimal

/-- The decimal with the fewest digits that reads back as `number`. Seventeen digits always suffice,
and the search starts at most three scales above the first of them. -/
def shortest (number : Binary) : Decimal :=
  if number.mantissa = 0 then ⟨0, 0⟩
  else number.search number.topScale 24

end Decimal

end CallContracts
