import SchemaMigration.Text.Blank
import SchemaMigration.Text.Integer

/-!
# Values and rows

The values that statements bind and queries answer with.
-/

namespace SchemaMigration

/-- A bound value. -/
inductive Value
  | null
  | int (n : Int64)
  | text (s : String)
deriving DecidableEq, Repr, Inhabited

namespace Value

/-- The value as a 64-bit integer; a text may write one, with blanks around it. -/
def int? : Value → Option Int64
  | int n => some n
  | text s => Text.readInt64? (Text.trim s)
  | null => none

/-- The value as a text; an integer is none. -/
def text? : Value → Option String
  | text s => some s
  | _ => none

end Value

/-- A row that a query answers with. -/
abbrev Row := List Value

namespace Row

/-- The integer at a position. -/
def int? (r : Row) (i : Nat) : Option Int64 := r[i]?.bind Value.int?

/-- The text at a position. -/
def text? (r : Row) (i : Nat) : Option String := r[i]?.bind Value.text?

end Row

end SchemaMigration
