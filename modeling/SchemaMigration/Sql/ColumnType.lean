import SchemaMigration.Migration.Error
import SchemaMigration.Sql.Dialect
import SchemaMigration.Text.Blank

/-!
# Column types

The type of a column as it stands in a statement: the SQL type, then the attributes that are set.
-/

namespace SchemaMigration.Dialect

/-- The explicit type of a column if it is not blank, else the dialect's. -/
def typeText (d : Dialect) (c : Column) : String :=
  match (c.explicitType.map Text.trim).filter (· ≠ "") with
  | some explicit => explicit
  | none => d.typeOf c

/-- The SQL type of a column, which must not be blank. -/
def columnType (d : Dialect) (table : String) (c : Column) : Except MigrationError String :=
  if Text.isBlank (d.typeText c) then .error (.emptyDataType table c.name)
  else .ok (d.typeText c)

/-- The default clause: a literal for textual columns, an expression for all others. -/
def defaultClause (d : Dialect) (c : Column) : String :=
  match c.default? with
  | some value => " DEFAULT " ++ if c.dataType.isTextual then d.quoteLiteral value else value
  | none => ""

/-- The attributes of a column, in the order in which they are written. -/
def columnAttributes (d : Dialect) (c : Column) : String :=
  (if c.autoIncrement then " AUTO_INCREMENT" else "")
    ++ (if c.notNull then " NOT NULL" else "")
    ++ (if c.unique then " UNIQUE" else "")
    ++ d.defaultClause c

/-- The SQL type of a column with its attributes. -/
def fullColumnType (d : Dialect) (table : String) (c : Column) : Except MigrationError String :=
  (d.columnType table c).map (· ++ d.columnAttributes c)

end SchemaMigration.Dialect
