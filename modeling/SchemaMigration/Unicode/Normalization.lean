import SchemaMigration.Unicode.CombiningClass
import SchemaMigration.Unicode.Decomposition

/-!
# Composed normal form

Canonically equivalent texts have one normal form.  It is reached in three steps: all characters are
decomposed, marks between two starters are put in the order of their classes, and characters are
composed again as far as they go.
-/

namespace SchemaMigration.Unicode

/-- Puts a character in front of an ordered text: it moves behind the marks of lower classes, up to
the next character of class zero. -/
def insertOrdered (c : Char) : List Char → List Char
  | [] => [c]
  | d :: ds =>
    if combiningClass d ≠ 0 ∧ combiningClass d < combiningClass c then d :: insertOrdered c ds
    else c :: d :: ds

/-- Orders marks by class; marks of one class keep their order. -/
def orderMarks (cs : List Char) : List Char := cs.foldr insertOrdered []

/-- Composes a starter with what follows.  The marks in `skipped` stand between the starter and the
rest because they did not compose; a mark of the same or a higher class in between blocks a
character from the starter. -/
def composeFrom (starter : Char) (skipped : List Char) : List Char → List Char
  | [] => starter :: skipped
  | c :: cs =>
    let composite? :=
      if skipped.all (combiningClass · < combiningClass c) then compose? starter c else none
    match composite? with
    | some composite => composeFrom composite skipped cs
    | none =>
      if combiningClass c = 0 then starter :: skipped ++ composeFrom c [] cs
      else composeFrom starter (skipped ++ [c]) cs

/-- Composes a text.  Marks in front of the first starter have nothing to compose with. -/
def composeMarks : List Char → List Char
  | [] => []
  | c :: cs => if combiningClass c = 0 then composeFrom c [] cs else c :: composeMarks cs

/-- The composed normal form of a text. -/
def normalize (cs : List Char) : List Char := composeMarks (orderMarks (cs.flatMap decompose))

end SchemaMigration.Unicode
