/-!
# Faults of a model description

The reasons why a description of a table is refused, with the text shown for each, a short code and
a hint where there is one.
-/

namespace SchemaMigration

/-- Why a model could not be described. -/
inductive SchemaError
  /-- The table name is blank. -/
  | emptyTableName
  /-- The description as a whole is at fault. -/
  | invalidModel (table message : String)
  /-- A column is at fault. -/
  | invalidColumn (table column message : String)
  /-- A relationship is at fault. -/
  | invalidRelationship (table relationship message : String)
  /-- An index is at fault. -/
  | invalidIndex (table index message : String)
  /-- Two things of one kind have the same name. -/
  | duplicate (table kind name : String)
  /-- A model that is referred to has no description. -/
  | unresolvedModel (name message : String)
deriving DecidableEq, Repr, Inhabited

namespace SchemaError

/-- The text shown to the user. -/
def message : SchemaError → String
  | emptyTableName => "model has an empty table name"
  | invalidModel table message => "invalid model `" ++ table ++ "`: " ++ message
  | invalidColumn table column message =>
    "invalid column `" ++ table ++ "." ++ column ++ "`: " ++ message
  | invalidRelationship table relationship message =>
    "invalid relationship `" ++ table ++ "." ++ relationship ++ "`: " ++ message
  | invalidIndex table index message =>
    "invalid index `" ++ table ++ "." ++ index ++ "`: " ++ message
  | duplicate table kind name => "duplicate " ++ kind ++ " `" ++ name ++ "` in `" ++ table ++ "`"
  | unresolvedModel name message => "cannot describe model `" ++ name ++ "`: " ++ message

/-- A stable word for the kind of fault. -/
def code : SchemaError → String
  | emptyTableName => "empty_table"
  | invalidModel .. => "invalid_model"
  | invalidColumn .. => "invalid_column"
  | invalidRelationship .. => "invalid_relationship"
  | invalidIndex .. => "invalid_index"
  | duplicate .. => "duplicate"
  | unresolvedModel .. => "unresolved_model"

/-- Advice on how to mend the fault.  Only a missing description has an obvious remedy. -/
def hint? : SchemaError → Option String
  | unresolvedModel .. => some "make sure the model is registered with a descriptor"
  | _ => none

end SchemaError

end SchemaMigration
