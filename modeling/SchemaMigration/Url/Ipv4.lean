import SchemaMigration.Text.Hex
import SchemaMigration.Text.Integer
import SchemaMigration.Text.Search

/-!
# IPv4 addresses as host names

A host name whose last label is a number is an IPv4 address.  Its numbers may be written in decimal,
octal or hexadecimal, and the last one fills all the bytes that the others leave.
-/

namespace SchemaMigration.Url.Ipv4

/-- The value of an octal digit. -/
def octalDigit? (c : Char) : Option Nat :=
  if '0' ≤ c ∧ c ≤ '7' then some (c.toNat - '0'.toNat) else none

/-- A number in octal. -/
def readOctal? (digits : List Char) : Option Nat :=
  digits.foldlM (fun n c => (octalDigit? c).map (8 * n + ·)) 0

/-- A number in the notation that its start announces. -/
def number? : List Char → Option Nat
  | [] => none
  | '0' :: 'x' :: digits | '0' :: 'X' :: digits => Text.readHex? digits
  | ['0'] => some 0
  | '0' :: digits => readOctal? digits
  | digits => Text.readNat? digits

/-- The labels of a host name; a dot at the end adds none. -/
def labels (host : List Char) : List (List Char) :=
  let all := Text.splitAtEach '.' host
  if all.getLast? = some [] then all.dropLast else all

/-- Whether the last label of a host name is a number. -/
def endsInNumber (host : List Char) : Bool :=
  match (labels host).getLast? with
  | some label => (!label.isEmpty && label.all Char.isDigit) || (number? label).isSome
  | none => false

/-- Whether the labels of a host name are an address. -/
def isAddress (host : List Char) : Bool :=
  let parts := labels host
  match parts.mapM number? with
  | some numbers =>
    numbers.length ≤ 4 && numbers.dropLast.all (· ≤ 255)
      && (numbers.getLast?.all (· < Nat.pow 256 (5 - numbers.length)))
  | none => false

end SchemaMigration.Url.Ipv4
