import SchemaMigration.Migration.Config
import SchemaMigration.Schema.Model
import SchemaMigration.Sql.Change
import SchemaMigration.Sql.ColumnType

/-!
# Plans for new tables

What it takes to create the table of a model: the `CREATE TABLE` change, the indexes that are left
for later, and the join tables of its many-to-many relationships.
-/

namespace SchemaMigration

/-- The change that creates a table, and the work that follows it. -/
structure TablePlan where
  change : Change
  /-- Indexes to create once the table exists. -/
  laterIndexes : List Index
  /-- Join tables to create once the table exists. -/
  joinTables : List Source
deriving Repr, Inhabited

namespace Model

/-- The columns with their types and attributes, or the failure of the first column without a
type. -/
def typedColumns (d : Dialect) (table : String) :
    List Column → Except MigrationError (List (Column × String))
  | [] => .ok []
  | c :: cs =>
    match d.fullColumnType table c with
    | .error e => .error e
    | .ok type =>
      match typedColumns d table cs with
      | .error e => .error e
      | .ok rest => .ok ((c, type) :: rest)

/-- Whether a column type declares the primary key itself. -/
def declaresPrimaryKey (type : String) : Bool :=
  Text.contains (Text.upperAscii type) "PRIMARY KEY"

/-- The primary key clause, unless there is no such column or a column type declares it. -/
def primaryKeyClause (m : Model) (types : List String) : List Clause :=
  if types.any declaresPrimaryKey || m.primaryColumns.isEmpty then []
  else [.primaryKey (m.primaryColumns.map (·.name))]

/-- The clauses of `CREATE TABLE`, given the columns with their types: columns, primary key, indexes
unless they are left for later, foreign keys, checks. -/
def clauses (config : Config) (m : Model) (columns : List (Column × String)) : List Clause :=
  columns.map (fun c => .column c.1.name c.2)
    ++ m.primaryKeyClause (columns.map (·.2))
    ++ (if config.separateIndexes then [] else m.indexes.map .index)
    ++ m.foreignKeys.map .foreignKey
    ++ m.checks.map .check

/-- The plan for the table of a model. -/
def plan (d : Dialect) (config : Config) (m : Model) : Except MigrationError TablePlan :=
  match typedColumns d m.table m.columns with
  | .error e => .error e
  | .ok columns =>
    .ok
      { change := .createTable m.table (m.clauses config columns) config.tableOptionsClause?
        laterIndexes := if config.separateIndexes then m.indexes else []
        joinTables := m.joinTables }

end Model

namespace Change

/-- Adds a declared column, with its full type, to a table. -/
def addDeclared (d : Dialect) (table : String) (c : Column) : Except MigrationError Change :=
  (d.fullColumnType table c).map (.addColumn table c.name)

/-- Gives an existing column its declared full type. -/
def alterDeclared (d : Dialect) (table : String) (c : Column) : Except MigrationError Change :=
  (d.fullColumnType table c).map (.alterColumn table c.name)

end Change

end SchemaMigration
