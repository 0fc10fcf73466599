/-!
# Indexes and check constraints
-/

namespace SchemaMigration

/-- The direction in which an index entry is sorted. -/
inductive SortOrder
  | ascending
  | descending
deriving DecidableEq, Repr, Inhabited

/-- The SQL keyword of a direction. -/
def SortOrder.keyword : SortOrder → String
  | ascending => "ASC"
  | descending => "DESC"

/-- One entry of an index: a column, or an expression in its place. -/
structure IndexEntry where
  column : String := ""
  /-- An SQL expression that replaces the column. -/
  expression : Option String := none
  /-- How many leading characters of the column are indexed. -/
  length : Option UInt32 := none
  collation : Option String := none
  sort : Option SortOrder := none
deriving DecidableEq, Repr, Inhabited

/-- An index of a table. -/
structure Index where
  name : String
  /-- What is indexed, most significant first. -/
  entries : List IndexEntry
  /-- A keyword before `INDEX`, such as `UNIQUE` or `FULLTEXT`. -/
  kind : Option String := none
  /-- The access method, such as `BTREE`. -/
  method : Option String := none
  comment : Option String := none
deriving DecidableEq, Repr, Inhabited

/-- Whether some entry of the index is this column. -/
def Index.covers (i : Index) (column : String) : Bool := i.entries.any (·.column = column)

/-- A named condition that every row of a table satisfies. -/
structure Check where
  name : String
  /-- A boolean SQL expression. -/
  expression : String
  /-- The field that the condition was declared on. -/
  field : Option String := none
deriving DecidableEq, Repr, Inhabited

end SchemaMigration
