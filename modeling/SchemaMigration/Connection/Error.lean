import SchemaMigration.Migration.Error

/-!
# Failures of connections
-/

namespace SchemaMigration

/-- Why a connection could not be set up. -/
inductive ConnectionError
  | config (message : String)
  | timeout (message : String)
deriving DecidableEq, Repr, Inhabited

namespace ConnectionError

/-- The text shown to the user. -/
def message : ConnectionError → String
  | config message => "Configuration error: " ++ message
  | timeout message => "Timeout error: " ++ message

/-- The failure as one of a migration, at the statement that was to be executed. -/
def attach (e : ConnectionError) (sql : String) : MigrationError := .exec sql e.message

/-- The failure as one of a migration, at no statement. -/
def toMigrationError (e : ConnectionError) : MigrationError := e.attach ""

end ConnectionError

end SchemaMigration
