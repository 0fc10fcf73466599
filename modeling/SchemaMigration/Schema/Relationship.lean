/-!
# Relationships between models

Foreign keys, the relationships that imply them, and the handles by which one model refers to the
description of another.
-/

namespace SchemaMigration

/-- A handle to the description of a model: a name to show, and the place in a registry where the
description is kept.  The description itself is looked up when it is needed, so that models may
refer to each other in cycles. -/
structure Source where
  name : String
  slot : Nat
deriving Repr, Inhabited

/-- Handles count as the same model when they show the same name. -/
instance : BEq Source where
  beq a b := a.name == b.name

/-- What happens to a referencing row when the row it refers to goes away or changes. -/
inductive ReferentialAction
  | cascade
  | restrict
  | noAction
  | setNull
  | setDefault
deriving DecidableEq, Repr, Inhabited

namespace ReferentialAction

/-- The SQL keywords of an action. -/
def keyword : ReferentialAction → String
  | cascade => "CASCADE"
  | restrict => "RESTRICT"
  | noAction => "NO ACTION"
  | setNull => "SET NULL"
  | setDefault => "SET DEFAULT"

/-- The letters that decide which action a text names: ASCII letters in upper case, without the
spaces and underscores between words. -/
def key (s : String) : String :=
  String.ofList ((s.toList.map Char.toUpper).filter fun c => c ≠ '_' ∧ c ≠ ' ')

/-- Reads an action in any letter case, its words joined, spaced or underscored. -/
def read? (s : String) : Option ReferentialAction :=
  match key s with
  | "CASCADE" => some cascade
  | "RESTRICT" => some restrict
  | "NOACTION" => some noAction
  | "SETNULL" => some setNull
  | "SETDEFAULT" => some setDefault
  | _ => none

end ReferentialAction

/-- A foreign key of a table. -/
structure ForeignKey where
  name : String
  /-- The table that holds the key. -/
  table : String
  /-- The field that introduced the key. -/
  field : Option String := none
  columns : List String
  referencedTable : String
  referencedColumns : List String
  /-- Where to find the description of the referenced model. -/
  referencedModel : Option Source := none
  onDelete : Option ReferentialAction := none
  onUpdate : Option ReferentialAction := none
deriving BEq, Repr, Inhabited

/-- Whether the key points back at its own table. -/
def ForeignKey.isSelfReference (k : ForeignKey) : Bool := k.table = k.referencedTable

/-- How the rows of two models belong to each other. -/
inductive RelationKind
  /-- This model holds the foreign key. -/
  | belongsTo
  /-- One row of the other model holds a foreign key to this one. -/
  | hasOne
  /-- Rows of the other model hold a foreign key to this one. -/
  | hasMany
  /-- A join table links the two models. -/
  | manyToMany
deriving DecidableEq, Repr, Inhabited

namespace RelationKind

/-- The usual shorthand for the numbers of rows on both sides. -/
def shorthand : RelationKind → String
  | belongsTo => "n:1"
  | hasOne => "1:1"
  | hasMany => "1:n"
  | manyToMany => "m:n"

/-- Whether this side of the relationship holds the foreign key. -/
def ownsForeignKey : RelationKind → Bool
  | belongsTo => true
  | _ => false

end RelationKind

/-- A relationship declared on a model. -/
structure Relationship where
  name : String
  kind : RelationKind
  /-- The table on the other side. -/
  targetTable : String
  /-- The foreign key that the relationship implies on this side. -/
  foreignKey : Option ForeignKey := none
  /-- The model that links both sides. -/
  joinTable : Option Source := none
deriving BEq, Repr, Inhabited

/-- The relationship of a model that holds a foreign key to another one. -/
def Relationship.belongsTo (name : String) (key : ForeignKey) : Relationship :=
  { name, kind := .belongsTo, targetTable := key.referencedTable, foreignKey := some key }

end SchemaMigration
