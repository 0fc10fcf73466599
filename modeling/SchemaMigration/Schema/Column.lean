/-!
# Columns

A column of a table: its name in the database, the name of the field that it stores, its semantic
type, and the hints and flags from which a dialect derives the SQL type.
-/

namespace SchemaMigration

/-- What the values of a column mean, independently of any database. -/
inductive DataType
  | bool
  | int
  | uint
  | float
  | string
  | time
  | bytes
  | json
  | uuid
  /-- A type that only the database names. -/
  | custom (name : String)
deriving DecidableEq, Repr, Inhabited

namespace DataType

/-- The name of the type; a custom type is its own name. -/
def name : DataType → String
  | bool => "bool"
  | int => "int"
  | uint => "uint"
  | float => "float"
  | string => "string"
  | time => "time"
  | bytes => "bytes"
  | json => "json"
  | uuid => "uuid"
  | custom name => name

/-- Whether values of the type are written as quoted literals. -/
def isTextual : DataType → Bool
  | string | uuid => true
  | _ => false

end DataType

/-- A column of a model. -/
structure Column where
  /-- The field that the column stores, as the application names it. -/
  field : String
  /-- The name of the column in the database. -/
  name : String
  dataType : DataType
  /-- An SQL type that takes the place of the one derived from `dataType`. -/
  explicitType : Option String := none
  /-- The length of texts and byte strings, the width of integers. -/
  size : Option UInt32 := none
  precision : Option UInt32 := none
  scale : Option UInt32 := none
  primaryKey : Bool := false
  autoIncrement : Bool := false
  notNull : Bool := false
  unique : Bool := false
  /-- A textual column's default is the plain value; any other default is an SQL expression. -/
  default : Option String := none
deriving DecidableEq, Repr, Inhabited

namespace Column

/-- The default value; an empty text means that there is none. -/
def default? (c : Column) : Option String := c.default.filter (· ≠ "")

/-- Whether `name` is the column's own name or the name of its field. -/
def answersTo (c : Column) (name : String) : Bool := c.field = name || c.name = name

end Column

end SchemaMigration
