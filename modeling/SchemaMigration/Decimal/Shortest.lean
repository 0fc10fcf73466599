/-!
# Shortest decimals

The shortest decimal inside an interval.  The points of a decimal grid are the multiples of a power
of ten; the shortest decimal lies on the coarsest grid that has a point in the interval, and there
it is the point nearest to a given value, the greater one of two equally near.
-/

namespace SchemaMigration

/-- A decimal number `digits * 10 ^ exponent`. -/
structure Decimal where
  digits : Nat
  exponent : Int
deriving DecidableEq, Repr, Inhabited

namespace Decimal

/-- A value `value * 2 ^ exponent` inside the interval from `low * 2 ^ exponent` to
`high * 2 ^ exponent`.  The ends belong to the interval when it is closed. -/
structure Interval where
  low : Nat
  value : Nat
  high : Nat
  exponent : Int
  closed : Bool
deriving DecidableEq, Repr, Inhabited

namespace Interval

/-- The denominator of the interval's numbers in units of the grid `10 ^ grid`. -/
def denominator (i : Interval) (grid : Int) : Nat :=
  Nat.pow 2 (-i.exponent).toNat * Nat.pow 10 grid.toNat

/-- The numerator of `n * 2 ^ i.exponent` in units of the grid, over the denominator. -/
def numerator (i : Interval) (grid : Int) (n : Nat) : Nat :=
  n * (Nat.pow 2 i.exponent.toNat * Nat.pow 10 (-grid).toNat)

/-- Whether `point * 10 ^ grid` lies in the interval. -/
def contains (i : Interval) (grid : Int) (point : Nat) : Bool :=
  let p := point * i.denominator grid
  let low := i.numerator grid i.low
  let high := i.numerator grid i.high
  if i.closed then low ≤ p && p ≤ high else low < p && p < high

/-- The point of a grid in the interval that is nearest to the value, if there is one.  Where the
interval has a point of the grid, one of the value's two neighbours on the grid is in it. -/
def nearest? (i : Interval) (grid : Int) : Option Nat :=
  let den := i.denominator grid
  let num := i.numerator grid i.value
  let below := num / den
  let above := below + 1
  match i.contains grid below, i.contains grid above with
  | true, true => some (if 2 * (num % den) < den then below else above)
  | true, false => some below
  | false, true => some above
  | false, false => none

/-- The decimal on the coarsest grid, from the grid `10 ^ grid` on, within so many grids. -/
def shortestFrom? (i : Interval) : (grids : Nat) → (grid : Int) → Option Decimal
  | 0, _ => none
  | n + 1, grid =>
    match i.nearest? grid with
    | some digits => some ⟨digits, grid⟩
    | none => i.shortestFrom? n (grid - 1)

end Interval

end Decimal

end SchemaMigration
