/-!
# Decimal integers

Reading whole numbers of a fixed width from text, and writing them with leading zeros.  A number is
an optional sign and at least one of the digits `0` to `9`; a value that does not fit the width is
not read at all.
-/

namespace SchemaMigration.Text

/-- The value of a decimal digit. -/
def digit? (c : Char) : Option Nat :=
  if '0' ≤ c ∧ c ≤ '9' then some (c.toNat - '0'.toNat) else none

/-- Continues a number whose leading digits have the value `high`. -/
def readDigits? (high : Nat) : List Char → Option Nat
  | [] => some high
  | c :: cs =>
    match digit? c with
    | some d => readDigits? (10 * high + d) cs
    | none => none

/-- A non-empty run of digits, and nothing else. -/
def readNat? : List Char → Option Nat
  | [] => none
  | c :: cs => readDigits? 0 (c :: cs)

/-- An optional sign followed by digits. -/
def readInt? : List Char → Option Int
  | '-' :: cs => (readNat? cs).map fun n => - Int.ofNat n
  | '+' :: cs => (readNat? cs).map Int.ofNat
  | cs => (readNat? cs).map Int.ofNat

/-- A signed 64-bit number. -/
def readInt64? (s : String) : Option Int64 :=
  match readInt? s.toList with
  | some n => if -0x8000000000000000 ≤ n ∧ n < 0x8000000000000000 then some (Int64.ofInt n) else none
  | none => none

/-- An unsigned 64-bit number: a leading `+` is allowed, a `-` is not. -/
def readUInt64? (s : String) : Option UInt64 :=
  let digits := match s.toList with
    | '+' :: cs => cs
    | cs => cs
  match readNat? digits with
  | some n => if n < UInt64.size then some (UInt64.ofNat n) else none
  | none => none

/-- The decimal digits of a number, filled with zeros on the left up to `width` characters. -/
def padded (width n : Nat) : String :=
  let digits := Nat.toDigits 10 n
  String.ofList (List.replicate (width - digits.length) '0' ++ digits)

end SchemaMigration.Text
