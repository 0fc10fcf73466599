import SchemaMigration.Text.Hex
import SchemaMigration.Text.Search
import SchemaMigration.Unicode.CodeRange

/-!
# Replacement of characters

A rule says what stands for each character of a range.  Long tables of rules are written as lines of
text, with a blank between two rules.  A rule is written `range:target`: the range is a code point
in hexadecimal, or two of them as `first-last`, and the target is code points with `+` between them.
-/

namespace SchemaMigration.Unicode

/-- What stands for the characters of a range.  A target of one code point is that of the first
character, and the targets of the others follow it in order; a longer target is that of all. -/
structure Replacement where
  range : CodeRange
  target : List Nat
deriving DecidableEq, Repr, Inhabited

namespace Replacement

/-- Reads `first-last`, or a code point that is a range by itself. -/
def readRange? (text : List Char) : Option CodeRange :=
  match Text.splitAtFirst '-' text with
  | (only, none) => (Text.readHex? only).map fun n => ⟨n, n⟩
  | (first, some last) => do
    return ⟨← Text.readHex? first, ← Text.readHex? last⟩

/-- Reads `range:target`. -/
def read? (word : List Char) : Option Replacement :=
  match Text.splitAtFirst ':' word with
  | (range, some target) => do
    let range ← readRange? range
    let target ← (Text.splitAtEach '+' target).mapM Text.readHex?
    return ⟨range, target⟩
  | (_, none) => none

/-- The characters that stand for the code point `n` of the range. -/
def apply (rule : Replacement) (n : Nat) : List Char :=
  match rule.target with
  | [start] => [Char.ofNat (start + (n - rule.range.first))]
  | target => target.map Char.ofNat

end Replacement

/-- The rules that a table lists. -/
def replacements (lines : List String) : List Replacement :=
  lines.flatMap fun line => (Text.splitAtEach ' ' line.toList).filterMap Replacement.read?

/-- What stands for a character, if a rule has it in its range. -/
def replacement? (rules : List Replacement) (c : Char) : Option (List Char) :=
  (rules.find? (c.toNat ∈ ·.range)).map (·.apply c.toNat)

end SchemaMigration.Unicode
