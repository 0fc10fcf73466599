import SchemaMigration.Sql.Rendering

/-!
# Catalog queries

The questions that a migration asks about the live schema, as values of one type, and the statements
that ask them.  All names travel as bound values.
-/

namespace SchemaMigration

/-- A question about the live schema.  All but the first name the current database. -/
inductive CatalogQuery
  /-- What is the current database? -/
  | currentDatabase
  /-- How many base tables have this name? -/
  | table (database table : String)
  /-- How many columns of the table have this name? -/
  | column (database table column : String)
  /-- How many constraints of the table have this name? -/
  | constraint (database table name : String)
  /-- How many entries of the table's indexes belong to an index of this name? -/
  | index (database table name : String)
  /-- What are the columns of the table? -/
  | columnTypes (database table : String)
deriving DecidableEq, Repr, Inhabited

namespace CatalogQuery

/-- A text as a bound argument. -/
def text (s : String) : Argument := .value (.text s)

/-- The statement that asks a question. -/
def statement (d : Dialect) : CatalogQuery → Statement
  | .currentDatabase => d.currentDatabase
  | .table db tbl =>
    ⟨"SELECT count(*) FROM information_schema.tables "
      ++ "WHERE table_schema = ? AND table_name = ? AND table_type = ?",
      [text db, text tbl, text "BASE TABLE"]⟩
  | .column db tbl col =>
    ⟨"SELECT count(*) FROM information_schema.columns "
      ++ "WHERE table_schema = ? AND table_name = ? AND column_name = ?",
      [text db, text tbl, text col]⟩
  | .constraint db tbl name =>
    ⟨"SELECT count(*) FROM information_schema.table_constraints "
      ++ "WHERE constraint_schema = ? AND table_name = ? AND constraint_name = ?",
      [text db, text tbl, text name]⟩
  | .index db tbl name =>
    ⟨"SELECT count(*) FROM information_schema.statistics "
      ++ "WHERE table_schema = ? AND table_name = ? AND index_name = ?",
      [text db, text tbl, text name]⟩
  | .columnTypes db tbl =>
    ⟨"SELECT column_name, column_type, is_nullable, column_default "
      ++ "FROM information_schema.columns "
      ++ "WHERE table_schema = ? AND table_name = ? ORDER BY ordinal_position",
      [text db, text tbl]⟩

end CatalogQuery

end SchemaMigration
