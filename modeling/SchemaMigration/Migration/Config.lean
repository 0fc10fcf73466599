import SchemaMigration.Text.Blank

/-!
# Configuration of migrations
-/

namespace SchemaMigration

/-- The choices that a migration leaves open. -/
structure Config where
  /-- Indexes are created by statements of their own once the table exists. -/
  separateIndexes : Bool := false
  /-- What follows the closing parenthesis of every `CREATE TABLE`. -/
  tableOptions : Option String := none
  /-- Missing indexes of existing tables are created too. -/
  migrateIndexes : Bool := false
  /-- Statements are planned and not executed. -/
  dryRun : Bool := false
deriving DecidableEq, Repr, Inhabited

/-- The trimmed table options, if they say anything. -/
def Config.tableOptionsClause? (c : Config) : Option String :=
  (c.tableOptions.map Text.trim).filter (· ≠ "")

end SchemaMigration
