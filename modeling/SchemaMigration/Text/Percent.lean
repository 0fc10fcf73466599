import SchemaMigration.Text.Hex
import SchemaMigration.Text.Utf8

/-!
# Percent encoding

A byte may be written as a percent sign and two hexadecimal digits.  Decoding takes a percent sign
that is not followed by two digits for itself.
-/

namespace SchemaMigration.Text

/-- The value of a hexadecimal digit, given as an ASCII byte. -/
def hexByte? (b : UInt8) : Option Nat := hexDigit? (Char.ofNat b.toNat)

/-- Replaces each percent sign with two digits by the byte that it writes. -/
def percentDecode : List UInt8 → List UInt8
  | [] => []
  | b :: bs =>
    if b = 0x25 then
      match bs with
      | high :: low :: rest =>
        match hexByte? high, hexByte? low with
        | some h, some l => UInt8.ofNat (16 * h + l) :: percentDecode rest
        | _, _ => b :: percentDecode (high :: low :: rest)
      | short => b :: percentDecode short
    else b :: percentDecode bs

/-- A byte as a percent sign and two digits. -/
def percentEncodeByte (b : UInt8) : List Char :=
  ['%', hexDigit (b.toNat / 16), hexDigit (b.toNat % 16)]

/-- Writes the characters of a class, byte by byte, in percent form, and all others as they are. -/
def percentEncode (special : Char → Bool) (cs : List Char) : List Char :=
  cs.flatMap fun c => if special c then (encodeChar c).flatMap percentEncodeByte else [c]

end SchemaMigration.Text
