import SchemaMigration.Text.Percent
import SchemaMigration.Text.Search

/-!
# Query strings

A query string holds fields between ampersands, each a name and a value around the first equals
sign.  A plus sign stands for a space, and bytes that are no UTF-8 are replaced.
-/

namespace SchemaMigration.Url

/-- Decodes a name or a value of a form. -/
def formDecode (cs : List Char) : String :=
  Text.decodeUtf8Lossy
    (Text.percentDecode (Text.encodeUtf8 (cs.map fun c => if c = '+' then ' ' else c)))

/-- The name and the value of a field; a field without an equals sign has an empty value. -/
def formField (cs : List Char) : String × String :=
  let (name, value) := Text.splitAtFirst '=' cs
  (formDecode name, formDecode (value.getD []))

/-- The fields of a query string, without the empty ones. -/
def formFields (query : List Char) : List (String × String) :=
  ((Text.splitAtEach '&' query).filter (· ≠ [])).map formField

end SchemaMigration.Url
