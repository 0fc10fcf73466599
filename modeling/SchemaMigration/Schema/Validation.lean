import SchemaMigration.Schema.Error
import SchemaMigration.Schema.Model
import SchemaMigration.Text.Blank

/-!
# Validation of models

A description is accepted when its names are there and distinct, every foreign key pairs its columns
with as many referenced ones, and every check and index says something.  Of several faults the first
one counts, in the order table, columns, foreign keys, checks, indexes.  An accepted model is the
description with each foreign key assigned to the model's table, and nothing else changed.
-/

namespace SchemaMigration.Model

/-- The first column without a name or with the name of an earlier one (`seen`). -/
def columnFault? (table : String) (seen : List String) : List Column → Option SchemaError
  | [] => none
  | c :: cs =>
    if c.name = "" then some (.invalidColumn table c.field "column name is empty")
    else if c.name ∈ seen then some (.duplicate table "column" c.name)
    else columnFault? table (c.name :: seen) cs

/-- The first foreign key without a name, without a pairing of its columns, or with the name of an
earlier one (`seen`). -/
def foreignKeyFault? (table : String) (seen : List String) : List Relationship → Option SchemaError
  | [] => none
  | r :: rs =>
    match r.foreignKey with
    | none => foreignKeyFault? table seen rs
    | some k =>
      if k.name = "" then some (.invalidRelationship table r.name "foreign key has no name")
      else if k.columns = [] ∨ k.columns.length ≠ k.referencedColumns.length then
        some (.invalidRelationship table r.name
          ("foreign key `" ++ k.name ++ "` has " ++ toString k.columns.length
            ++ " column(s) but references " ++ toString k.referencedColumns.length))
      else if k.name ∈ seen then some (.duplicate table "constraint" k.name)
      else foreignKeyFault? table (k.name :: seen) rs

/-- The first check that lacks a name or an expression, or has the name of an earlier constraint
(`seen`). -/
def checkFault? (table : String) (seen : List String) : List Check → Option SchemaError
  | [] => none
  | c :: cs =>
    if c.name = "" ∨ Text.isBlank c.expression then
      some (.invalidModel table "check constraints need a name and an expression")
    else if c.name ∈ seen then some (.duplicate table "constraint" c.name)
    else checkFault? table (c.name :: seen) cs

/-- The first index that lacks a name, entries, or something to index in an entry, or has the name
of an earlier one (`seen`). -/
def indexFault? (table : String) (seen : List String) : List Index → Option SchemaError
  | [] => none
  | i :: is =>
    if i.name = "" then some (.invalidIndex table "" "index has no name")
    else if i.entries = [] then some (.invalidIndex table i.name "index has no columns")
    else if i.entries.any (fun e => e.column = "" && e.expression.isNone) then
      some (.invalidIndex table i.name "index entries need a column or an expression")
    else if i.name ∈ seen then some (.duplicate table "index" i.name)
    else indexFault? table (i.name :: seen) is

/-- The first fault of a description.  Checks and foreign keys share one space of names. -/
def fault? (m : Model) : Option SchemaError :=
  if Text.isBlank m.table then some .emptyTableName
  else
    ((columnFault? m.table [] m.columns).or (foreignKeyFault? m.table [] m.relationships)).or
      ((checkFault? m.table (m.foreignKeys.map (·.name)) m.checks).or
        (indexFault? m.table [] m.indexes))

/-- Assigns every foreign key to the model's own table. -/
def ownForeignKeys (m : Model) : Model :=
  { m with
    relationships := m.relationships.map fun r =>
      { r with foreignKey := r.foreignKey.map fun k => { k with table := m.table } } }

/-- The validated model, or the first fault of its description. -/
def build (m : Model) : Except SchemaError Model :=
  match m.fault? with
  | some e => .error e
  | none => .ok m.ownForeignKeys

end SchemaMigration.Model
