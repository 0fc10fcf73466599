/-!
# Ranges of code points

A property of characters is a list of ranges of code points.  All tables of properties here are
those of Unicode 17.
-/

namespace SchemaMigration.Unicode

/-- The code points from `first` to `last`, both included. -/
structure CodeRange where
  first : Nat
  last : Nat
deriving DecidableEq, Repr, Inhabited

namespace CodeRange

/-- Membership: a code point is in a range when it lies between the ends, ends included. -/
instance : Membership Nat CodeRange where
  mem r n := r.first ≤ n ∧ n ≤ r.last

instance (n : Nat) (r : CodeRange) : Decidable (n ∈ r) :=
  inferInstanceAs (Decidable (r.first ≤ n ∧ n ≤ r.last))

end CodeRange

/-- Whether a character lies in one of the ranges. -/
def inRanges (rs : List CodeRange) (c : Char) : Bool := rs.any (c.toNat ∈ ·)

end SchemaMigration.Unicode
