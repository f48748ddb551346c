/-!
The shortest decimal for a binary number. A binary format rounds an interval of reals to each of
its numbers, so every decimal in the interval reads back as the number. The shortest one lies on
the coarsest grid of powers of ten that meets the interval, and only the two neighbours of the
number on a grid have to be tried.
-/
namespace ScalarSql.Decimal

/-- The number mantissa · 2 ^ exponent of a binary format. The format's next number below it is
half as far away as the next one above if `narrowBelow`. -/
structure Binary where
  mantissa : Nat
  exponent : Int
  narrowBelow : Bool
  deriving DecidableEq, Repr

/-- The decimal digits · 10 ^ scale. -/
structure Digits where
  digits : Nat
  scale : Int
  deriving DecidableEq, Repr

/-- A number and the distances to the ends of the interval that rounds to it, all over one
denominator. The ends belong to the interval if `closed`. -/
structure Interval where
  number : Nat
  below : Nat
  above : Nat
  denominator : Nat
  closed : Bool
  deriving DecidableEq, Repr

/-- The ends lie half way to the neighbours; half a unit is two of the quarters counted here. A
half goes to the even mantissa. -/
def Binary.interval (b : Binary) : Interval :=
  let scale := Nat.pow 2 b.exponent.toNat
  { number := 4 * b.mantissa * scale
    below := (if b.narrowBelow then 1 else 2) * scale
    above := 2 * scale
    denominator := 4 * Nat.pow 2 (-b.exponent).toNat
    closed := b.mantissa % 2 == 0 }

def Interval.reaches (i : Interval) (distance reach : Nat) : Bool :=
  if i.closed then distance ≤ reach else distance < reach

/-- The interval measured in units of 10 ^ scale. -/
def Interval.onGrid (i : Interval) (scale : Int) : Interval :=
  let up := Nat.pow 10 (-scale).toNat
  { i with
    number := i.number * up
    below := i.below * up
    above := i.above * up
    denominator := i.denominator * Nat.pow 10 scale.toNat }

/-- The integer nearest to the number among its two neighbours that lie in the interval. Half way
between them the greater one is taken. -/
def Interval.integer? (i : Interval) : Option Nat :=
  let low := i.number / i.denominator
  let down := i.number % i.denominator
  let up := i.denominator - down
  match i.reaches down i.below, i.reaches up i.above with
  | true, true => some (if down < up then low else low + 1)
  | true, false => some low
  | false, true => some (low + 1)
  | false, false => none

/-- Tries the grids from `scale` downwards. -/
def Interval.coarsest? (i : Interval) (scale : Int) : Nat → Option Digits
  | 0 => none
  | grids + 1 =>
    match (i.onGrid scale).integer? with
    | some n => some ⟨n, scale⟩
    | none => i.coarsest? (scale - 1) grids

/-- No grid coarser than the length of the integer part meets the interval of a positive number,
and the binary number itself lies on the grid of its own exponent. -/
def Binary.shortest (b : Binary) : Digits :=
  let i := b.interval
  let top := (Nat.toDigits 10 (i.number / i.denominator)).length
  (i.coarsest? top (top + (-b.exponent).toNat + 1)).getD ⟨0, 0⟩

end ScalarSql.Decimal
