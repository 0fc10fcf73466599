import SchemaMigration.Migration.Config
import SchemaMigration.Migration.Error
import SchemaMigration.Toml.Settings

/-!
# Configuration files

A configuration is read from a flat TOML document.  Each setting may be given once; a setting that
is unknown or has a value of another type makes the document as a whole invalid.
-/

namespace SchemaMigration.Config

/-- Takes over one setting. -/
def set? (c : Config) (key : String) (value : Toml.Scalar) : Option Config :=
  match key, value with
  | "create_index_after_create_table", .bool b => some { c with separateIndexes := b }
  | "table_options", .text s => some { c with tableOptions := some s }
  | "auto_migrate_indexes", .bool b => some { c with migrateIndexes := b }
  | "dry_run", .bool b => some { c with dryRun := b }
  | _, _ => none

/-- Takes over settings in order, each key once; `seen` holds the keys so far. -/
def setAll? (c : Config) (seen : List String) : List (String × Toml.Scalar) → Option Config
  | [] => some c
  | (key, value) :: rest =>
    if key ∈ seen then none
    else
      match c.set? key value with
      | none => none
      | some c => c.setAll? (key :: seen) rest

/-- The configuration that a document writes down. -/
def ofToml? (document : String) : Option Config :=
  (Toml.settings? document).bind (setAll? {} [])

/-- The failure to read a configuration file. -/
def unreadable (path reason : String) : MigrationError :=
  .config ("cannot read " ++ path ++ ": " ++ reason)

end SchemaMigration.Config
