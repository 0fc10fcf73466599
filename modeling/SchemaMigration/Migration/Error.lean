import SchemaMigration.Schema.Error

/-!
# Failures of migrations
-/

namespace SchemaMigration

/-- Why a migration stopped. -/
inductive MigrationError
  /-- A model could not be described. -/
  | parse (cause : SchemaError)
  /-- A field, index or constraint of this name is not declared. -/
  | lookup (kind name table : String)
  /-- No SQL type is known for a column. -/
  | emptyDataType (table column : String)
  /-- The database refused a statement. -/
  | exec (sql message : String)
  /-- The operation is not offered. -/
  | unsupported (what : String)
  /-- The configuration is at fault. -/
  | config (message : String)
deriving DecidableEq, Repr, Inhabited

namespace MigrationError

/-- The text shown to the user. -/
def message : MigrationError → String
  | parse cause => "Parse error: " ++ cause.message
  | lookup kind name table => kind ++ " '" ++ name ++ "' not found on table '" ++ table ++ "'"
  | emptyDataType table column => "Empty data type for column '" ++ table ++ "." ++ column ++ "'"
  | exec sql message => "Failed to execute `" ++ sql ++ "`: " ++ message
  | unsupported what => what ++ " is not supported"
  | config message => "Configuration error: " ++ message

/-- Whether the failure arose before anything reached the database. -/
def isClientSide : MigrationError → Bool
  | exec .. => false
  | _ => true

end MigrationError

end SchemaMigration
