import SchemaMigration.Schema.Validation

/-!
# Join tables

The table behind a many-to-many relationship: one column of the primary key for each join column,
and one foreign key for each side.
-/

namespace SchemaMigration

/-- A column of a join table and the column of the side's table that it refers to. -/
structure JoinColumn where
  name : String
  references : String
  dataType : DataType
deriving DecidableEq, Repr, Inhabited

/-- One side of a join table. -/
structure JoinSide where
  table : String
  columns : List JoinColumn := []
  /-- Where to find the description of the side's model. -/
  model : Option Source := none
  onDelete : Option ReferentialAction := none
deriving Repr, Inhabited

/-- A join table, before it is described as a model. -/
structure JoinTable where
  name : String
  sides : List JoinSide := []
deriving Repr, Inhabited

namespace JoinTable

/-- A join column is part of the primary key and never null. -/
def keyColumn (c : JoinColumn) : Column :=
  { field := c.name, name := c.name, dataType := c.dataType, primaryKey := true, notNull := true }

/-- The foreign key of a side is named after the join table and the side's table. -/
def sideKey (name : String) (s : JoinSide) : ForeignKey :=
  { name := "fk_" ++ name ++ "_" ++ s.table
    table := ""
    columns := s.columns.map (·.name)
    referencedTable := s.table
    referencedColumns := s.columns.map (·.references)
    referencedModel := s.model
    onDelete := s.onDelete }

/-- The description of the join table, before validation. -/
def draft (j : JoinTable) : Model :=
  { table := j.name
    columns := j.sides.flatMap fun s => s.columns.map keyColumn
    relationships := j.sides.map fun s => .belongsTo s.table (sideKey j.name s) }

/-- The join table as a model. -/
def describe (j : JoinTable) : Except SchemaError Model := j.draft.build

end JoinTable

end SchemaMigration
