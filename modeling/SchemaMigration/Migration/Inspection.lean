import SchemaMigration.Migration.Session

/-!
# Inspection of the live schema

Whether tables, columns, constraints and indexes exist.  Such a question always has an answer: when
the database fails to give one, the thing counts as missing.
-/

namespace SchemaMigration

/-- A column of the live schema. -/
structure LiveColumn where
  name : String
  dataType : String
  nullable : Bool
  default : Option String
deriving DecidableEq, Repr, Inhabited

/-- Reads a row of the answer about columns; a row without a name says nothing. -/
def LiveColumn.ofRow? (r : Row) : Option LiveColumn :=
  (Row.text? r 0).map fun name =>
    { name
      dataType := (Row.text? r 1).getD ""
      nullable := (Row.text? r 2).any fun answer => Text.upperAscii answer = "YES"
      default := Row.text? r 3 }

/-- Whether the first number of an answer counts anything. -/
def countsAny (rows : List Row) : Bool :=
  match rows.head?.bind (Row.int? · 0) with
  | some n => 0 < n
  | none => false

namespace Session

variable {σ : Type}

/-- The name of the current database, the first text of the answer. -/
def currentDatabase (s : Session σ) (d : Dialect) : Action σ String := do
  let rows ← s.query .currentDatabase
  match rows.head?.bind (Row.text? · 0) with
  | some name => pure name
  | none => throw (.exec (d.currentDatabase.sql d) "no database selected")

/-- Whether a question about the current database, once it is known, counts anything. -/
def affirms (s : Session σ) (d : Dialect) (question : String → CatalogQuery) (state : σ) :
    Bool × σ :=
  match s.currentDatabase d state with
  | .error _ state => (false, state)
  | .ok database state =>
    match s.query (question database) state with
    | .error _ state => (false, state)
    | .ok rows state => (countsAny rows, state)

/-- Whether a base table exists. -/
def hasTable (s : Session σ) (d : Dialect) (table : String) : σ → Bool × σ :=
  s.affirms d (.table · table)

/-- Whether a table has a column. -/
def hasColumn (s : Session σ) (d : Dialect) (table column : String) : σ → Bool × σ :=
  s.affirms d (.column · table column)

/-- Whether a table has a foreign key or a check of this name. -/
def hasConstraint (s : Session σ) (d : Dialect) (table name : String) : σ → Bool × σ :=
  s.affirms d (.constraint · table name)

/-- Whether a table has an index of this name. -/
def hasIndex (s : Session σ) (d : Dialect) (table name : String) : σ → Bool × σ :=
  s.affirms d (.index · table name)

/-- The columns of a table, in order. -/
def columnTypes (s : Session σ) (d : Dialect) (table : String) : Action σ (List LiveColumn) := do
  let database ← s.currentDatabase d
  let rows ← s.query (.columnTypes database table)
  pure (rows.filterMap LiveColumn.ofRow?)

end Session

end SchemaMigration
