import SchemaMigration.Sql.Dialect
import SchemaMigration.Text.Quoted

/-!
# The MySQL dialect

Identifiers stand between backticks.  In literals both quotes and backslashes are doubled, since a
backslash escapes the next character there.
-/

namespace SchemaMigration.Mysql

/-- The narrowest integer type of at least this many bits. -/
def integerType (bits : Option UInt32) : String :=
  match bits with
  | none => "bigint"
  | some n =>
    if n ≤ 8 then "tinyint"
    else if n ≤ 16 then "smallint"
    else if n ≤ 24 then "mediumint"
    else if n ≤ 32 then "int"
    else "bigint"

/-- A type name with one number in parentheses. -/
def sized (name : String) (n : UInt32) : String := name ++ "(" ++ toString n.toNat ++ ")"

/-- A positive precision with a scale asks for a decimal; else the width decides. -/
def floatType (c : Column) : String :=
  let binary := match c.size with
    | some n => if n ≤ 32 then "float" else "double"
    | none => "double"
  match c.precision, c.scale with
  | some p, some s =>
    if 0 < p then "decimal(" ++ toString p.toNat ++ "," ++ toString s.toNat ++ ")" else binary
  | _, _ => binary

/-- A text without a length needs a bounded type where it is a key. -/
def textType (c : Column) : String :=
  match c.size.filter (0 < ·) with
  | some n =>
    if n ≤ 65535 then sized "varchar" n
    else if n ≤ 16777215 then "mediumtext"
    else "longtext"
  | none => if c.primaryKey || c.unique then "varchar(191)" else "longtext"

/-- Milliseconds unless the column says otherwise. -/
def timeType (c : Column) : String :=
  match c.precision with
  | some p => if 0 < p then sized "datetime" p else "datetime"
  | none => "datetime(3)"

/-- Byte strings beyond the longest sized type, or without a length, are long objects. -/
def bytesType (c : Column) : String :=
  match c.size with
  | some n => if 1 ≤ n ∧ n ≤ 65535 then sized "varbinary" n else "longblob"
  | none => "longblob"

/-- The SQL type of a column. -/
def typeOf (c : Column) : String :=
  match c.dataType with
  | .bool => "boolean"
  | .int => integerType c.size
  | .uint => integerType c.size ++ " unsigned"
  | .float => floatType c
  | .string => textType c
  | .time => timeType c
  | .bytes => bytesType c
  | .json => "json"
  | .uuid => "char(36)"
  | .custom name => name

/-- The rules of MySQL. -/
def dialect : Dialect where
  name := "mysql"
  quoteIdentifier := Text.quoted '\x60' (· = '\x60')
  quoteLiteral := Text.quoted '\x27' fun c => c = '\x27' || c = '\x5c'
  typeOf := typeOf
  currentDatabase := ⟨"SELECT DATABASE()", []⟩
  alterColumnTemplate := "ALTER TABLE ? MODIFY COLUMN ? ?"

end SchemaMigration.Mysql
