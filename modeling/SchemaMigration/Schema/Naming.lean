import SchemaMigration.Schema.Registry

/-!
# What names denote

Callers name columns, indexes and constraints by the database's names or by the application's.  With
a description at hand the name is looked up in it; a name that is not found there stands for itself.
-/

namespace SchemaMigration.ResolvedModel

/-- The column that a name denotes. -/
def columnName (m : ResolvedModel) (name : String) : String :=
  match m.description?.bind (·.column? name) with
  | some c => c.name
  | none => name

/-- The index that a name denotes. -/
def indexName (m : ResolvedModel) (name : String) : String :=
  match m.description?.bind (·.index? name) with
  | some i => i.name
  | none => name

/-- The constraint that a name denotes: the foreign key of the relationship of that name. -/
def constraintName (m : ResolvedModel) (name : String) : String :=
  match m.description?.bind (·.relationshipKey? name) with
  | some k => k.name
  | none => name

end SchemaMigration.ResolvedModel
