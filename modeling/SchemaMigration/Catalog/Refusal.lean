/-!
# Refusals

Why a database refuses a statement, and how it says so.  A database names the kind of thing that is in
the way or is missing; a brief account names just the thing.
-/

namespace SchemaMigration

/-- Why a database refuses a statement. -/
inductive Refusal
  | tableExists (table : String)
  | noTable (table : String)
  /-- A foreign key refers to a table that is not there. -/
  | noReferencedTable (table : String)
  /-- A foreign key of another table refers to a table that is to be dropped. -/
  | tableReferenced (table : String)
  | columnExists (column : String)
  | noColumn (column : String)
  | constraintExists (name : String)
  | noConstraint (name : String)
  | indexExists (name : String)
  /-- There is no such index to drop. -/
  | noIndex (name : String)
  /-- There is no such index to rename. -/
  | noKey (name : String)
  /-- A name or a text is missing from the arguments. -/
  | argumentMissing
  /-- The statement is of no known form. -/
  | unsupportedStatement
  | unsupportedQuery
deriving DecidableEq, Repr, Inhabited

namespace Refusal

/-- The message of the database. -/
def message : Refusal → String
  | tableExists table => "Table '" ++ table ++ "' already exists"
  | noTable table => "Table '" ++ table ++ "' doesn't exist"
  | noReferencedTable table => "referenced table '" ++ table ++ "' doesn't exist"
  | tableReferenced table =>
    "Cannot drop table '" ++ table ++ "' referenced by a foreign key constraint"
  | columnExists column => "Duplicate column name '" ++ column ++ "'"
  | noColumn column => "Unknown column '" ++ column ++ "'"
  | constraintExists name => "Duplicate constraint '" ++ name ++ "'"
  | noConstraint name => "Constraint '" ++ name ++ "' doesn't exist"
  | indexExists name => "Duplicate key name '" ++ name ++ "'"
  | noIndex name => "Can't DROP '" ++ name ++ "'"
  | noKey name => "Key '" ++ name ++ "' doesn't exist"
  | argumentMissing => "expected an argument"
  | unsupportedStatement => "unsupported statement"
  | unsupportedQuery => "unsupported query"

/-- A message that does not tell columns, constraints and indexes apart. -/
def brief : Refusal → String
  | columnExists name | constraintExists name | indexExists name => "Duplicate '" ++ name ++ "'"
  | noColumn name | noConstraint name | noIndex name | noKey name =>
    "'" ++ name ++ "' doesn't exist"
  | refusal => refusal.message

end Refusal

end SchemaMigration
