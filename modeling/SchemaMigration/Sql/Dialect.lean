import SchemaMigration.Schema.Column
import SchemaMigration.Schema.Index
import SchemaMigration.Sql.Statement
import SchemaMigration.Text.Search

/-!
# Dialects

What differs between databases: how identifiers and literals are quoted, how types are named, and
how a few statements are phrased.  How table names, values and index entries are written follows
from the quoting unless a dialect has its own way.
-/

namespace SchemaMigration

/-- Quotes a table name, part by part between its dots. -/
def quoteParts (quote : String → String) (table : String) : String :=
  ".".intercalate
    ((Text.splitAtEach '.' table.toList).map fun part => quote (String.ofList part))

/-- Writes a value into the text of a statement, a text as a literal. -/
def Value.literal (quote : String → String) : Value → String
  | null => "NULL"
  | int n => toString n.toInt
  | text s => quote s

namespace IndexEntry

/-- What an entry indexes: its expression, or the column and how much of it. -/
def target (quote : String → String) (e : IndexEntry) : String :=
  match e.expression.filter (· ≠ "") with
  | some expression => expression
  | none =>
    quote e.column ++
      match e.length.filter (0 < ·) with
      | some length => "(" ++ toString length.toNat ++ ")"
      | none => ""

/-- An entry with its collation and direction. -/
def text (quote : String → String) (e : IndexEntry) : String :=
  e.target quote
    ++ (match e.collation.filter (· ≠ "") with
      | some collation => " COLLATE " ++ collation
      | none => "")
    ++ (match e.sort with
      | some sort => " " ++ sort.keyword
      | none => "")

end IndexEntry

/-- The rules of one kind of database. -/
structure Dialect where
  name : String
  /-- Quotes one identifier. -/
  quoteIdentifier : String → String
  /-- Quotes a table name, which may be qualified. -/
  quoteTable : String → String := quoteParts quoteIdentifier
  /-- Writes a text as a literal. -/
  quoteLiteral : String → String
  /-- Writes a value into the text of a statement. -/
  inlineValue : Value → String := Value.literal quoteLiteral
  /-- The SQL type of a column; empty when the dialect knows none. -/
  typeOf : Column → String
  /-- The query for the name of the current database. -/
  currentDatabase : Statement
  /-- Writes an entry of an index. -/
  indexEntry : IndexEntry → String := IndexEntry.text quoteIdentifier
  /-- The template that changes the type of a column: table, column, type. -/
  alterColumnTemplate : String := "ALTER TABLE ? ALTER COLUMN ? TYPE ?"

end SchemaMigration
