/-!
# Punycode

A label outside ASCII is written in ASCII: first its ASCII characters, then a hyphen, then digits.
The digits say in turn which character comes next, in the order of code points, and where it goes.
Each number is written lowest digit first, in base 36, and ends at a digit below a threshold; the
thresholds adapt to the numbers read so far.
-/

namespace SchemaMigration.Url.Domain.Punycode

/-- The value of a digit: letters come first, in either case, then the decimal digits. -/
def digit? (c : Char) : Option Nat :=
  if 'a' ≤ c ∧ c ≤ 'z' then some (c.toNat - 'a'.toNat)
  else if 'A' ≤ c ∧ c ≤ 'Z' then some (c.toNat - 'A'.toNat)
  else if '0' ≤ c ∧ c ≤ '9' then some (c.toNat - '0'.toNat + 26)
  else none

/-- The least digit that does not end a number.  The digits of a number count 36 each. -/
def threshold (count bias : Nat) : Nat := min 26 (max 1 (count - bias))

/-- Numbers stay below this limit, and so do the weights of their digits. -/
def limit : Nat := 0x100000000

/-- Reads one number, whose next digit has the given weight, and adds it to `value`.  The result is
the sum and what follows the number. -/
def readNumber? (bias : Nat) : (count weight value : Nat) → List Char → Option (Nat × List Char)
  | _, _, _, [] => none
  | count, weight, value, c :: cs =>
    match digit? c with
    | none => none
    | some digit =>
      let sum := value + digit * weight
      let least := threshold count bias
      if limit ≤ sum then none
      else if digit < least then some (sum, cs)
      else if limit ≤ weight * (36 - least) then none
      else readNumber? bias (count + 36) (weight * (36 - least)) sum cs

/-- A number takes at least one digit. -/
theorem length_lt_of_readNumber? {bias count weight value : Nat} {cs : List Char}
    {result : Nat × List Char}
    (h : readNumber? bias count weight value cs = some result) :
    result.2.length < cs.length := by
  induction cs generalizing count weight value with
  | nil => simp [readNumber?] at h
  | cons c cs ih =>
    simp only [readNumber?] at h
    split at h
    · contradiction
    · split at h
      · contradiction
      · split at h
        · cases h
          exact Nat.lt_succ_self _
        · split at h
          · contradiction
          · exact Nat.lt_succ_of_lt (ih h)

/-- Divides by 35 until the rest is at most 455.  Gives the rest and 36 for each division. -/
def scaleDown (delta : Nat) : Nat × Nat :=
  if 455 < delta then
    let scaled := scaleDown (delta / 35)
    (scaled.1, scaled.2 + 36)
  else (delta, 0)
termination_by delta
decreasing_by exact Nat.div_lt_self (by omega) (by decide)

/-- The bias after a number `delta` that placed the last of `count` characters.  The first number of
a label is much larger than the others. -/
def adapt (delta count : Nat) (first : Bool) : Nat :=
  let delta := if first then delta / 700 else delta / 2
  let (delta, bias) := scaleDown (delta + delta / count)
  bias + 36 * delta / (delta + 38)

/-- Reads the digits and puts in the characters that they say.  Positions are counted through all
code points from `code` on: once past the end of the label, the next code point has its turn. -/
def insertAll? (bias code position : Nat) (label : List Char) : List Char → Option (List Char)
  | [] => some label
  | c :: cs =>
    match h : readNumber? bias 36 1 position (c :: cs) with
    | none => none
    | some (sum, rest) =>
      let count := label.length + 1
      let code := code + sum / count
      let place := sum % count
      if code.isValidChar then
        insertAll? (adapt (sum - position) count (position = 0)) code (place + 1)
          (label.insertIdx place (Char.ofNat code)) rest
      else none
termination_by digits => digits.length
decreasing_by exact length_lt_of_readNumber? h

/-- The ASCII characters and the digits, which the last hyphen separates.  A hyphen with nothing
before it is no separator. -/
def parts (code : List Char) : List Char × List Char :=
  let digits := (code.reverse.takeWhile (· ≠ '-')).reverse
  match code.take (code.length - digits.length - 1) with
  | [] => ([], code)
  | basic => (basic, digits)

/-- The label that an ASCII text writes. -/
def decode? (code : List Char) : Option (List Char) :=
  insertAll? 72 0x80 0 (parts code).1 (parts code).2

example : decode? "bcher-kva".toList = some "bücher".toList := by cbv

example : decode? "-zca".toList = none := by cbv

end SchemaMigration.Url.Domain.Punycode
