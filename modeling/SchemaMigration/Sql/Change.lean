import SchemaMigration.Schema.Relationship
import SchemaMigration.Sql.Rendering
import SchemaMigration.Text.Blank

/-!
# Schema changes

The statements that define data, as values of one type.  A change says what happens to which table;
`Change.statement` writes it down for a dialect.  The same fragments serve the clauses of
`CREATE TABLE` and the statements that add one thing to an existing table.
-/

namespace SchemaMigration

/-- One clause between the parentheses of `CREATE TABLE`. -/
inductive Clause
  /-- A column with its type and attributes. -/
  | column (name type : String)
  | primaryKey (columns : List String)
  | index (i : Index)
  | foreignKey (k : ForeignKey)
  | check (c : Check)
deriving Repr, Inhabited

/-- A change of the schema. -/
inductive Change
  | createTable (table : String) (clauses : List Clause) (options : Option String)
  | dropTable (table : String)
  | renameTable (old new : String)
  | addColumn (table column type : String)
  | dropColumn (table column : String)
  | alterColumn (table column type : String)
  | renameColumn (table old new : String)
  | addForeignKey (table : String) (k : ForeignKey)
  | addCheck (table : String) (c : Check)
  | dropConstraint (table name : String)
  | createIndex (table : String) (i : Index)
  | dropIndex (table name : String)
  | renameIndex (table old new : String)
deriving Repr, Inhabited

namespace ForeignKey

/-- The referential actions of a key, as the end of its clause. -/
def actionsText (k : ForeignKey) : String :=
  (match k.onDelete with
    | some action => " ON DELETE " ++ action.keyword
    | none => "")
  ++ (match k.onUpdate with
    | some action => " ON UPDATE " ++ action.keyword
    | none => "")

/-- The clause that declares a foreign key. -/
def clause (k : ForeignKey) : Statement :=
  ⟨"CONSTRAINT ? FOREIGN KEY ? REFERENCES ??" ++ k.actionsText,
    [.label k.name, .columns k.columns, .table k.referencedTable, .columns k.referencedColumns]⟩

end ForeignKey

/-- The clause that declares a check. -/
def Check.clause (c : Check) : Statement :=
  ⟨"CONSTRAINT ? CHECK (?)", [.label c.name, .raw c.expression]⟩

namespace Index

/-- The keyword before `INDEX` with the space after it, or nothing. -/
def kindText (i : Index) : String :=
  match (i.kind.map Text.trim).filter (· ≠ "") with
  | some kind => kind ++ " "
  | none => ""

/-- The entries of an index in parentheses. -/
def entryList (d : Dialect) (i : Index) : Argument := .rawList (i.entries.map d.indexEntry)

/-- The comment and the access method of an index. -/
def attributes (i : Index) : Statement :=
  (match i.comment.filter (· ≠ "") with
    | some comment => ⟨" COMMENT ?", [.value (.text comment)]⟩
    | none => .empty)
  ++ (match i.method.filter (· ≠ "") with
    | some method => ⟨" USING ?", [.raw method]⟩
    | none => .empty)

/-- The clause that declares an index inside `CREATE TABLE`. -/
def clause (d : Dialect) (i : Index) : Statement :=
  ⟨"?INDEX ? ?", [.raw i.kindText, .label i.name, i.entryList d]⟩ ++ i.attributes

/-- The statement that creates an index on an existing table. -/
def creation (d : Dialect) (table : String) (i : Index) : Statement :=
  ⟨"CREATE ?INDEX ? ON ??", [.raw i.kindText, .label i.name, .table table, i.entryList d]⟩
    ++ i.attributes

end Index

/-- A clause of `CREATE TABLE` as a fragment. -/
def Clause.statement (d : Dialect) : Clause → Statement
  | column name type => ⟨"? ?", [.column name, .raw type]⟩
  | primaryKey columns => ⟨"PRIMARY KEY ?", [.columns columns]⟩
  | index i => i.clause d
  | foreignKey k => k.clause
  | check c => c.clause

namespace Change

/-- The table options, after the closing parenthesis. -/
def optionsStatement : Option String → Statement
  | some options => ⟨" ?", [.raw options]⟩
  | none => .empty

/-- The statement that makes a change. -/
def statement (d : Dialect) : Change → Statement
  | createTable table clauses options =>
    ⟨"CREATE TABLE ? (", [.table table]⟩ ++ .join "," (clauses.map (·.statement d)) ++ ⟨")", []⟩
      ++ optionsStatement options
  | dropTable table => ⟨"DROP TABLE IF EXISTS ?", [.table table]⟩
  | renameTable old new => ⟨"ALTER TABLE ? RENAME TO ?", [.table old, .table new]⟩
  | addColumn table column type =>
    ⟨"ALTER TABLE ? ADD ? ?", [.table table, .column column, .raw type]⟩
  | dropColumn table column => ⟨"ALTER TABLE ? DROP COLUMN ?", [.table table, .column column]⟩
  | alterColumn table column type =>
    ⟨d.alterColumnTemplate, [.table table, .column column, .raw type]⟩
  | renameColumn table old new =>
    ⟨"ALTER TABLE ? RENAME COLUMN ? TO ?", [.table table, .column old, .column new]⟩
  | addForeignKey table k => ⟨"ALTER TABLE ? ADD ", [.table table]⟩ ++ k.clause
  | addCheck table c => ⟨"ALTER TABLE ? ADD ", [.table table]⟩ ++ c.clause
  | dropConstraint table name => ⟨"ALTER TABLE ? DROP CONSTRAINT ?", [.table table, .label name]⟩
  | createIndex table i => i.creation d table
  | dropIndex table name => ⟨"DROP INDEX ? ON ?", [.label name, .table table]⟩
  | renameIndex table old new =>
    ⟨"ALTER TABLE ? RENAME INDEX ? TO ?", [.table table, .label old, .label new]⟩

/-- The text of the statement that makes a change. -/
def sql (d : Dialect) (c : Change) : String := (c.statement d).sql d

end Change

end SchemaMigration
