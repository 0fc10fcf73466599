import SchemaMigration.Catalog.Basic
import SchemaMigration.Migration.Session

/-!
# A database that reads statements

A catalog can be told of changes and questions as values.  A database is sent statements.  It finds
out from the template what it is asked to do, and takes the names from the arguments, as they are
before they are quoted; of a list of clauses each one is read on its own.

The templates are those of MySQL, and a dialect is understood if it does not depart from them
(`Dialect.Understood`).  A statement of another form is refused.
-/

namespace SchemaMigration

/-! ## Arguments -/

namespace Argument

/-- The name of a table, a column, a constraint or an index, as it is. -/
def name? : Argument → Option String
  | table name | column name | label name => some name
  | _ => none

/-- The text that an argument binds. -/
def text? : Argument → Option String
  | value (.text s) => some s
  | _ => none

/-- The name at a position. -/
def nameAt (arguments : List Argument) (i : Nat) : Except Refusal String :=
  match arguments[i]?.bind name? with
  | some name => .ok name
  | none => .error .argumentMissing

/-- The bound text at a position. -/
def textAt (arguments : List Argument) (i : Nat) : Except Refusal String :=
  match arguments[i]?.bind text? with
  | some text => .ok text
  | none => .error .argumentMissing

end Argument

/-! ## Templates -/

/-- What a template is recognised by. -/
inductive Pattern
  | whole (text : String)
  | start (text : String)
  | somewhere (text : String)
deriving DecidableEq, Repr

/-- Whether a template is of this pattern. -/
def Pattern.accepts (template : List Char) : Pattern → Bool
  | whole text => template = text.toList
  | start text => text.toList.isPrefixOf template
  | somewhere text => Text.occursIn text.toList template

/-- The first of several forms whose pattern the template is of. -/
def recognize {α : Type} (forms : List (Pattern × α)) (template : List Char) : Option α :=
  (forms.find? fun form => form.1.accepts template).map (·.2)

/-- The forms of the clauses that a catalog takes note of. -/
inductive ClauseForm
  | foreignKey
  | check
  | index
  | column
deriving DecidableEq, Repr

/-- The forms of the statements that change the schema. -/
inductive ChangeForm
  | createTable
  | createIndex
  | dropTable
  | dropIndex
  | addForeignKey
  | addCheck
  | addColumn
  | dropColumn
  | renameColumn
  | alterColumn
  | renameTable
  | renameIndex
  | dropConstraint
deriving DecidableEq, Repr

/-- The forms of queries. -/
inductive QueryForm
  | currentDatabase
  | columnTypes
  | count
deriving DecidableEq, Repr

/-- What a query may count. -/
inductive CountForm
  | tables
  | columns
  | constraints
  | indexes
deriving DecidableEq, Repr

def clauseForms : List (Pattern × ClauseForm) :=
  [(.start "CONSTRAINT ? FOREIGN KEY", .foreignKey),
    (.start "CONSTRAINT ? CHECK", .check),
    (.somewhere "INDEX ? ?", .index),
    (.whole "? ?", .column)]

def changeForms : List (Pattern × ChangeForm) :=
  [(.start "CREATE TABLE ? (", .createTable),
    (.start "CREATE ?INDEX ? ON ??", .createIndex),
    (.whole "DROP TABLE IF EXISTS ?", .dropTable),
    (.whole "DROP INDEX ? ON ?", .dropIndex),
    (.start "ALTER TABLE ? ADD CONSTRAINT ? FOREIGN KEY", .addForeignKey),
    (.start "ALTER TABLE ? ADD CONSTRAINT ? CHECK", .addCheck),
    (.whole "ALTER TABLE ? ADD ? ?", .addColumn),
    (.whole "ALTER TABLE ? DROP COLUMN ?", .dropColumn),
    (.whole "ALTER TABLE ? RENAME COLUMN ? TO ?", .renameColumn),
    (.whole "ALTER TABLE ? MODIFY COLUMN ? ?", .alterColumn),
    (.whole "ALTER TABLE ? RENAME TO ?", .renameTable),
    (.whole "ALTER TABLE ? RENAME INDEX ? TO ?", .renameIndex),
    (.whole "ALTER TABLE ? DROP CONSTRAINT ?", .dropConstraint)]

def queryForms : List (Pattern × QueryForm) :=
  [(.whole "SELECT DATABASE()", .currentDatabase),
    (.start "SELECT column_name, column_type", .columnTypes),
    (.start "SELECT count(*)", .count)]

def countForms : List (Pattern × CountForm) :=
  [(.somewhere "information_schema.tables", .tables),
    (.somewhere "information_schema.columns", .columns),
    (.somewhere "information_schema.table_constraints", .constraints),
    (.somewhere "information_schema.statistics", .indexes)]

/-- Whether a table has a part of this name, if it is parts that are counted. -/
def TableEntry.shows (t : TableEntry) : CountForm → String → Bool
  | .tables, _ => true
  | .columns, name => t.columns.contains name
  | .constraints, name => t.constraints.contains name
  | .indexes, name => t.indexes.contains name

namespace Catalog

open Argument (nameAt textAt)

/-! ## Changes -/

/-- Takes a clause of `CREATE TABLE`, given by its template and its arguments, into the entry of the
new table.  A clause of no known form, such as a primary key, says nothing. -/
def readClause (c : Catalog) (owner : String) (t : TableEntry) (template : List Char)
    (arguments : List Argument) : Except Refusal TableEntry :=
  match recognize clauseForms template with
  | some .foreignKey => do
    let referenced ← nameAt arguments 2
    c.checkReference owner referenced
    let name ← nameAt arguments 0
    pure { t with constraints := t.constraints.insert name }
  | some .check => do
    let name ← nameAt arguments 0
    pure { t with constraints := t.constraints.insert name }
  | some .index => do
    let name ← nameAt arguments 1
    pure { t with indexes := t.indexes.insert name }
  | some .column => do
    let name ← nameAt arguments 0
    pure { t with columns := t.columns ++ [name] }
  | none => pure t

/-- Takes the clauses one after the other, each with as many of the arguments as it has question
marks. -/
def readClauses (c : Catalog) (owner : String) :
    List (List Char) → List Argument → TableEntry → Except Refusal TableEntry
  | [], _, t => .ok t
  | template :: rest, arguments, t => do
    let arity := template.count '?'
    let u ← c.readClause owner t template (arguments.take arity)
    c.readClauses owner rest (arguments.drop arity) u

/-- The text between the parentheses of `CREATE TABLE`. -/
def clausesText (template : List Char) : List Char :=
  let rest := template.drop "CREATE TABLE ? (".toList.length
  (Text.splitAtLast ')' rest).1.getD rest

/-- Does what a statement of a known form says. -/
def perform (c : Catalog) (s : Statement) : ChangeForm → Except Refusal Catalog
  | .createTable => do
    let table ← nameAt s.arguments 0
    if c.hasTable table then .error (.tableExists table)
    else
      (c.readClauses table (Text.splitAtEach ',' (clausesText s.template.toList))
        (s.arguments.drop 1) {}).map (c.set table)
  | .createIndex => do
    let name ← nameAt s.arguments 1
    let table ← nameAt s.arguments 2
    c.createIndex table name
  | .dropTable => do
    let table ← nameAt s.arguments 0
    pure (c.erase table)
  | .dropIndex => do
    let name ← nameAt s.arguments 0
    let table ← nameAt s.arguments 1
    c.dropIndex table name
  | .addForeignKey => do
    let table ← nameAt s.arguments 0
    let referenced ← nameAt s.arguments 3
    let name ← nameAt s.arguments 1
    c.addForeignKey table name referenced
  | .addCheck => do
    let table ← nameAt s.arguments 0
    let name ← nameAt s.arguments 1
    c.addConstraint table name
  | .addColumn => do
    let table ← nameAt s.arguments 0
    let column ← nameAt s.arguments 1
    c.addColumn table column
  | .dropColumn => do
    let table ← nameAt s.arguments 0
    let column ← nameAt s.arguments 1
    c.dropColumn table column
  | .renameColumn => do
    let table ← nameAt s.arguments 0
    let old ← nameAt s.arguments 1
    let new ← nameAt s.arguments 2
    c.renameColumn table old new
  | .alterColumn => do
    let table ← nameAt s.arguments 0
    let column ← nameAt s.arguments 1
    c.alterColumn table column
  | .renameTable => do
    let old ← nameAt s.arguments 0
    let new ← nameAt s.arguments 1
    c.renameTable old new
  | .renameIndex => do
    let table ← nameAt s.arguments 0
    let old ← nameAt s.arguments 1
    let new ← nameAt s.arguments 2
    c.renameIndex table old new
  | .dropConstraint => do
    let table ← nameAt s.arguments 0
    let name ← nameAt s.arguments 1
    c.dropConstraint table name

/-- Carries out a statement, or refuses it. -/
def run (c : Catalog) (s : Statement) : Except Refusal Catalog :=
  match recognize changeForms s.template.toList with
  | some form => c.perform s form
  | none => .error .unsupportedStatement

/-! ## Queries -/

/-- Whether there is what a query counts: a table by its second argument, a part of it by the third.
All tables are base tables of the current database. -/
def finds (c : Catalog) (s : Statement) : Except Refusal Bool := do
  let table ← textAt s.arguments 1
  match c.table? table with
  | none => pure false
  | some t =>
    match recognize countForms s.template.toList with
    | some .tables => pure true
    | some form => (textAt s.arguments 2).map (t.shows form)
    | none => pure false

/-- Answers a query, or refuses it, given the name of the current database. -/
def reply (c : Catalog) (database : String) (s : Statement) : Except Refusal (List Row) :=
  match recognize queryForms s.template.toList with
  | some .currentDatabase => .ok [[.text database]]
  | some .columnTypes => do
    let table ← textAt s.arguments 1
    pure (((c.table? table).elim [] (·.columns)).map columnRow)
  | some .count => (c.finds s).map countRow
  | none => .error .unsupportedQuery

/-- The database that keeps its schema in a catalog and whose current database has this name.  Its
messages have the statement as a dialect writes it. -/
def reader (d : Dialect) (database : String) : Database Catalog where
  execute s := fun c =>
    match c.run s with
    | .ok changed => .ok () changed
    | .error refusal => .error (.exec (s.sql d) refusal.message) c
  query s := fun c =>
    match c.reply database s with
    | .ok rows => .ok rows c
    | .error refusal => .error (.exec (s.sql d) refusal.message) c

end Catalog

/-- The dialect asks for the current database, and changes the type of a column, in the words that
the database knows. -/
structure Dialect.Understood (d : Dialect) : Prop where
  currentDatabase : d.currentDatabase.template = "SELECT DATABASE()"
  alterColumn : d.alterColumnTemplate = "ALTER TABLE ? MODIFY COLUMN ? ?"

end SchemaMigration
