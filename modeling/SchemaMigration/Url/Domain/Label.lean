import SchemaMigration.Unicode.CombiningClass
import SchemaMigration.Unicode.Direction
import SchemaMigration.Unicode.Joining

/-!
# Labels of domain names

What the characters of a label must be like as a whole.  A label does not begin with a mark, joiners
stand where they matter only, and in a name with characters written from the right each label reads
in one direction.
-/

namespace SchemaMigration.Url.Domain

/-- Keeps the characters around it from joining. -/
def nonJoiner : Char := '\u200C'

/-- Makes the characters around it join. -/
def joiner : Char := '\u200D'

/-- Whether what comes before a place, the nearest character first, ends in a letter that joins the
next one. -/
def joinsForward (before : List Char) : Bool :=
  match before.dropWhile (Unicode.joiningType · = .transparent) with
  | c :: _ => Unicode.joiningType c = .leftJoining || Unicode.joiningType c = .dualJoining
  | [] => false

/-- Whether what comes after a place begins with a letter that joins the one before. -/
def joinsBackward (after : List Char) : Bool :=
  match after.dropWhile (Unicode.joiningType · = .transparent) with
  | c :: _ => Unicode.joiningType c = .rightJoining || Unicode.joiningType c = .dualJoining
  | [] => false

/-- Whether a character may stand between what comes before it, the nearest first, and what comes
after it.  A joiner needs a virama before it; for a non-joiner two letters that would join will
do. -/
def joinerFits (before : List Char) (c : Char) (after : List Char) : Bool :=
  if c = nonJoiner ∨ c = joiner then
    match before with
    | [] => false
    | previous :: _ =>
      Unicode.combiningClass previous = Unicode.viramaClass
        || (c = nonJoiner && joinsForward before && joinsBackward after)
  else true

/-- Whether each joiner of a text fits, given what comes before the text, the nearest first. -/
def joinersFit (before : List Char) : List Char → Bool
  | [] => true
  | c :: cs => joinerFits before c cs && joinersFit (c :: before) cs

/-- Whether a label does not begin with a mark and its joiners fit. -/
def isWellFormed (label : List Char) : Bool :=
  !label.head?.any Unicode.isMark && joinersFit [] label

/-- Whether a character makes a name one of mixed direction.  No such character comes before
U+0590. -/
def isFromRight (c : Char) : Bool :=
  0x590 ≤ c.toNat
    && [.rightToLeft, .arabicLetter, .arabicNumber].contains (Unicode.bidiClass c)

/-- The classes without a direction of their own. -/
def neutralClasses : List Unicode.BidiClass :=
  [.europeanSeparator, .europeanTerminator, .commonSeparator, .otherNeutral, .boundaryNeutral,
    .nonspacingMark]

/-- Whether all classes are among `own` or neutral, and the last one, marks apart, is among
`own`. -/
def keepTo (own classes : List Unicode.BidiClass) : Bool :=
  classes.all (fun kind => own.contains kind || neutralClasses.contains kind)
    && (classes.reverse.dropWhile (· = .nonspacingMark)).head?.any own.contains

/-- Whether a label reads in one direction.  Its first character is a letter, which sets the
direction; what follows is letters of that direction, numbers and neutral characters; and a label
from the right has one kind of numbers only. -/
def readsOneWay (label : List Char) : Bool :=
  let classes := label.map Unicode.bidiClass
  match classes.head? with
  | none => true
  | some .leftToRight => keepTo [.leftToRight, .europeanNumber] classes
  | some .rightToLeft | some .arabicLetter =>
    keepTo [.rightToLeft, .arabicLetter, .europeanNumber, .arabicNumber] classes
      && !(classes.contains .europeanNumber && classes.contains .arabicNumber)
  | some _ => false

end SchemaMigration.Url.Domain
