import SchemaMigration.Sql.Dialect
import SchemaMigration.Text.Quoted

/-!
# The ANSI dialect

Double quotes around identifiers, single quotes around literals, and semantic type names as SQL
types.  This dialect is for trials and no database of the library speaks it: it takes all defaults,
in the writing of table names, values and index entries and in the altering of columns.
-/

namespace SchemaMigration.Ansi

/-- The rules of the standard. -/
def dialect : Dialect where
  name := "ansi"
  quoteIdentifier := Text.quoted '\x22' (· = '\x22')
  quoteLiteral := Text.quoted '\x27' (· = '\x27')
  typeOf c := c.dataType.name
  currentDatabase := ⟨"SELECT current_database()", []⟩

end SchemaMigration.Ansi
