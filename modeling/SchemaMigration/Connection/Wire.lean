import SchemaMigration.Decimal.Binary
import SchemaMigration.Sql.Value
import SchemaMigration.Text.Utf8

/-!
# Values on the wire

The values that a MySQL server sends and takes, and how they become values of statements and rows.
Answers about a catalog are texts and integers; everything else becomes text.
-/

namespace SchemaMigration

/-- A value as the server sees it. -/
inductive WireValue
  | null
  | int (n : Int64)
  | uint (n : UInt64)
  | bytes (bs : List UInt8)
  /-- A number in single precision, by its bits. -/
  | float (bits : UInt32)
  /-- A number in double precision, by its bits. -/
  | double (bits : UInt64)
  | date (year : UInt16) (month day hour minute second : UInt8) (micro : UInt32)
  | time (negative : Bool) (days : UInt32) (hours minutes seconds : UInt8) (micro : UInt32)
deriving DecidableEq, Repr, Inhabited

namespace WireValue

/-- A bound value as it is sent. -/
def ofValue : Value → WireValue
  | .null => .null
  | .int n => .int n
  | .text s => .bytes (Text.encodeUtf8 s.toList)

/-- The text of a date, each part filled up to its width. -/
def dateText (year : UInt16) (month day hour minute second : UInt8) (micro : UInt32) : String :=
  Text.padded 4 year.toNat ++ "-" ++ Text.padded 2 month.toNat ++ "-" ++ Text.padded 2 day.toNat
    ++ " " ++ Text.padded 2 hour.toNat ++ ":" ++ Text.padded 2 minute.toNat ++ ":"
    ++ Text.padded 2 second.toNat ++ "." ++ Text.padded 6 micro.toNat

/-- The hours of a span of time, counted in 32 bits. -/
def totalHours (days : UInt32) (hours : UInt8) : UInt32 := days * 24 + hours.toUInt32

/-- The text of a span of time, with its days counted as hours. -/
def timeText (negative : Bool) (days : UInt32) (hours minutes seconds : UInt8) (micro : UInt32) :
    String :=
  (if negative then "-" else "") ++ toString (totalHours days hours).toNat ++ ":"
    ++ Text.padded 2 minutes.toNat ++ ":" ++ Text.padded 2 seconds.toNat ++ "."
    ++ Text.padded 6 micro.toNat

/-- A received value as the value of a row. -/
def toValue : WireValue → Value
  | null => .null
  | int n => .int n
  -- Beyond the signed range a number is kept as its digits.
  | uint n => if n.toNat < 0x8000000000000000 then .int n.toInt64 else .text (toString n.toNat)
  | bytes bs => .text (Text.decodeUtf8Lossy bs)
  | float bits => .text (Decimal.binary32.text bits.toNat)
  | double bits => .text (Decimal.binary64.text bits.toNat)
  | date year month day hour minute second micro =>
    .text (dateText year month day hour minute second micro)
  | time negative days hours minutes seconds micro =>
    .text (timeText negative days hours minutes seconds micro)

/-- A received row; a cell whose value is gone counts as null. -/
def toRow (cells : List (Option WireValue)) : Row :=
  cells.map fun cell => (cell.map toValue).getD .null

end WireValue

end SchemaMigration
