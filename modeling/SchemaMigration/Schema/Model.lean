import SchemaMigration.Schema.Column
import SchemaMigration.Schema.Index
import SchemaMigration.Schema.Relationship

/-!
# Models

A model describes one table: its columns, relationships, indexes and checks, each in the order of
declaration.  The look-ups here decide what a name given by a caller means.
-/

namespace SchemaMigration

/-- The description of one table. -/
structure Model where
  table : String
  columns : List Column := []
  relationships : List Relationship := []
  indexes : List Index := []
  checks : List Check := []
deriving BEq, Repr, Inhabited

namespace Model

/-- The column of this name, or else the first column that stores the field of this name. -/
def column? (m : Model) (name : String) : Option Column :=
  (m.columns.find? (·.name = name)).or (m.columns.find? (·.field = name))

/-- The index of this name, or else the first index on the column that the name denotes. -/
def index? (m : Model) (name : String) : Option Index :=
  match m.indexes.find? (·.name = name) with
  | some i => some i
  | none =>
    match m.column? name with
    | some c => m.indexes.find? (·.covers c.name)
    | none => none

/-- The check of this name. -/
def check? (m : Model) (name : String) : Option Check := m.checks.find? (·.name = name)

/-- The foreign keys that the relationships imply. -/
def foreignKeys (m : Model) : List ForeignKey := m.relationships.filterMap (·.foreignKey)

/-- The foreign key of this name. -/
def foreignKey? (m : Model) (name : String) : Option ForeignKey :=
  m.foreignKeys.find? (·.name = name)

/-- The foreign key of the first relationship of this name. -/
def relationshipKey? (m : Model) (name : String) : Option ForeignKey :=
  (m.relationships.find? (·.name = name)).bind (·.foreignKey)

/-- The join tables of the relationships. -/
def joinTables (m : Model) : List Source := m.relationships.filterMap (·.joinTable)

/-- The columns of the primary key. -/
def primaryColumns (m : Model) : List Column := m.columns.filter (·.primaryKey)

/-- The foreign keys to other tables. -/
def dependencies (m : Model) : List ForeignKey := m.foreignKeys.filter fun k => !k.isSelfReference

end Model

end SchemaMigration
