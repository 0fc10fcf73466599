import SchemaMigration.Decimal.Shortest

/-!
# Binary floating-point numbers as text

A finite number is written with the fewest digits that read back as the same number, positionally,
with a point only before a fraction.
-/

namespace SchemaMigration.Decimal

/-- A binary interchange format, by the widths of its fields. -/
structure BinaryFormat where
  exponentBits : Nat
  fractionBits : Nat
deriving DecidableEq, Repr

/-- Single precision. -/
def binary32 : BinaryFormat := ⟨8, 23⟩

/-- Double precision. -/
def binary64 : BinaryFormat := ⟨11, 52⟩

/-- The kinds of number that a bit pattern stands for. -/
inductive Classified
  | nan
  | infinite (negative : Bool)
  | zero (negative : Bool)
  /-- A sign, and the interval of reals that round to the number. -/
  | finite (negative : Bool) (rounding : Interval)
deriving DecidableEq, Repr

namespace BinaryFormat

/-- What a bit pattern stands for.  A number is `m * 2 ^ q`; its rounding interval reaches half way
to its neighbours, and the neighbour below a power of two is only half as far away.  The ends belong
to the interval when `m` is even.  Interval bounds are in quarters of `2 ^ q`. -/
def classify (f : BinaryFormat) (bits : Nat) : Classified :=
  let fraction := bits % Nat.pow 2 f.fractionBits
  let exponent := bits / Nat.pow 2 f.fractionBits % Nat.pow 2 f.exponentBits
  let negative := bits / Nat.pow 2 (f.fractionBits + f.exponentBits) % 2 = 1
  if exponent = Nat.pow 2 f.exponentBits - 1 then
    if fraction = 0 then .infinite negative else .nan
  else if exponent = 0 ∧ fraction = 0 then .zero negative
  else
    -- Subnormal numbers lack the implicit leading bit and have the exponent of the least normal
    -- ones.
    let m := if exponent = 0 then fraction else fraction + Nat.pow 2 f.fractionBits
    let bias : Nat := Nat.pow 2 (f.exponentBits - 1) - 1 + f.fractionBits
    let q : Int := (max exponent 1 : Nat) - (bias : Int)
    let low := if fraction = 0 ∧ 1 < exponent then 4 * m - 1 else 4 * m - 2
    .finite negative
      { low, value := 4 * m, high := 4 * m + 2, exponent := q - 2, closed := m % 2 = 0 }

/-- How many grids are tried: as many as there are binary exponents, of which fewer than a third
would do for the decimal ones. -/
def gridCount (f : BinaryFormat) : Nat := Nat.pow 2 f.exponentBits

/-- A power of ten above the largest finite number. -/
def firstGrid (f : BinaryFormat) : Nat := Nat.pow 2 (f.exponentBits - 1)

end BinaryFormat

/-- A decimal number in positional notation. -/
def positional (d : Decimal) : List Char :=
  let digits := Nat.toDigits 10 d.digits
  if 0 ≤ d.exponent then digits ++ List.replicate d.exponent.toNat '0'
  else
    let places := (-d.exponent).toNat
    let filled := List.replicate (places + 1 - digits.length) '0' ++ digits
    filled.take (filled.length - places) ++ '.' :: filled.drop (filled.length - places)

/-- The sign before a number. -/
def sign (negative : Bool) : String := if negative then "-" else ""

/-- The text of the number that a bit pattern stands for.  The grids that are tried reach from above
the largest finite number to below the smallest one, so that one of them has a point. -/
def BinaryFormat.text (f : BinaryFormat) (bits : Nat) : String :=
  match f.classify bits with
  | .nan => "NaN"
  | .infinite negative => sign negative ++ "inf"
  | .zero negative => sign negative ++ "0"
  | .finite negative rounding =>
    match rounding.shortestFrom? f.gridCount f.firstGrid with
    | some d => sign negative ++ String.ofList d.positional
    | none => sign negative

end SchemaMigration.Decimal
