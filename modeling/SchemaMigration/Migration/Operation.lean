import SchemaMigration.Migration.Migrator
import SchemaMigration.Schema.Naming

/-!
# Operations on one table

Each operation resolves the reference to a model first, then the names, and asks or changes the
database last.  What is not declared is a failed look-up.
-/

namespace SchemaMigration

/-- An operation on one table or on the database as a whole. -/
inductive Operation
  | renameTable (old new : ModelRef)
  | hasTable (model : ModelRef)
  | addColumn (model : ModelRef) (field : String)
  | dropColumn (model : ModelRef) (name : String)
  | alterColumn (model : ModelRef) (field : String)
  | renameColumn (model : ModelRef) (old new : String)
  | hasColumn (model : ModelRef) (field : String)
  | columnTypes (model : ModelRef)
  /-- Creates a check or a foreign key by its own name, by the name of its relationship, or all
  constraints of a field. -/
  | createConstraint (model : ModelRef) (name : String)
  | createFieldConstraints (model : ModelRef) (field : String)
  | dropConstraint (model : ModelRef) (name : String)
  | hasConstraint (model : ModelRef) (name : String)
  | createIndex (model : ModelRef) (name : String)
  | dropIndex (model : ModelRef) (name : String)
  | renameIndex (model : ModelRef) (old new : String)
  | hasIndex (model : ModelRef) (name : String)
  | createView
  | dropView
  | currentDatabase
deriving Inhabited

/-- What an operation answers. -/
inductive Answer
  | done
  | verdict (holds : Bool)
  | columns (cs : List LiveColumn)
  | name (s : String)
deriving DecidableEq, Repr, Inhabited

namespace Operation

/-- Looks up the description behind a reference. -/
def resolve (reg : Registry) (ref : ModelRef) : Except MigrationError ResolvedModel :=
  (ref.resolve reg).mapError .parse

/-- The description behind a reference; without one, nothing of this kind and name is declared. -/
def describe (reg : Registry) (kind name : String) (ref : ModelRef) :
    Except MigrationError Model :=
  match resolve reg ref with
  | .error e => .error e
  | .ok (.model m) => .ok m
  | .ok (.table table) => .error (.lookup kind name table)

/-- A declared thing that was looked up, or the failure of the look-up. -/
def found {α : Type} (kind name table : String) : Option α → Except MigrationError α
  | some a => .ok a
  | none => .error (.lookup kind name table)

/-- The model behind a reference and the column that a field name denotes there. -/
def declaredColumn (reg : Registry) (ref : ModelRef) (field : String) :
    Except MigrationError (Model × Column) :=
  match describe reg "field" field ref with
  | .error e => .error e
  | .ok m => (found "field" field m.table (m.column? field)).map (m, ·)

/-- The checks declared on a column's field, and the indexes named after its foreign keys. -/
def fieldConstraints (m : Model) (c : Column) : List Change :=
  let isOwner (owner : Option String) : Bool := owner.any c.answersTo
  (m.checks.filter (isOwner ·.field)).map (.addCheck m.table)
    ++ (m.foreignKeys.filter (isOwner ·.field)).filterMap fun k =>
      (m.indexes.find? (·.name = k.name)).map (.createIndex m.table)

/-- The changes that create a field's constraints, of which there must be some. -/
def fieldChanges (m : Model) (field : String) : Except MigrationError (List Change) :=
  match m.column? field with
  | none => .error (.lookup "field" field m.table)
  | some c =>
    match fieldConstraints m c with
    | [] => .error (.lookup "constraint" field m.table)
    | changes => .ok changes

/-- The changes that create the constraint of a name: a check, a foreign key, the foreign key of a
relationship, or the constraints of a field, whichever the name denotes first. -/
def constraintChanges (m : Model) (name : String) : Except MigrationError (List Change) :=
  match m.check? name with
  | some c => .ok [.addCheck m.table c]
  | none =>
    match (m.foreignKey? name).or (m.relationshipKey? name) with
    | some k => .ok [.addForeignKey m.table k]
    | none =>
      if (m.column? name).isSome then fieldChanges m name
      else .error (.lookup "constraint" name m.table)

/-- The changes that an operation makes, in order; none for an operation that only asks. -/
def changes (d : Dialect) (reg : Registry) : Operation → Except MigrationError (List Change)
  | renameTable old new => do
    let old ← resolve reg old
    let new ← resolve reg new
    pure [.renameTable old.tableName new.tableName]
  | addColumn model field => do
    let (m, c) ← declaredColumn reg model field
    let change ← Change.addDeclared d m.table c
    pure [change]
  | dropColumn model name => do
    let m ← resolve reg model
    pure [.dropColumn m.tableName (m.columnName name)]
  | alterColumn model field => do
    let (m, c) ← declaredColumn reg model field
    let change ← Change.alterDeclared d m.table c
    pure [change]
  | renameColumn model old new => do
    let m ← resolve reg model
    pure [.renameColumn m.tableName (m.columnName old) (m.columnName new)]
  | createConstraint model name => do
    let m ← describe reg "constraint" name model
    constraintChanges m name
  | createFieldConstraints model field => do
    let m ← describe reg "field" field model
    fieldChanges m field
  | dropConstraint model name => do
    let m ← resolve reg model
    pure [.dropConstraint m.tableName (m.constraintName name)]
  | createIndex model name => do
    let m ← describe reg "index" name model
    let i ← found "index" name m.table (m.index? name)
    pure [.createIndex m.table i]
  | dropIndex model name => do
    let m ← resolve reg model
    pure [.dropIndex m.tableName (m.indexName name)]
  | renameIndex model old new => do
    let m ← resolve reg model
    pure [.renameIndex m.tableName (m.indexName old) new]
  | createView | dropView => throw (.unsupported "views")
  | hasTable _ | hasColumn .. | columnTypes _ | hasConstraint .. | hasIndex .. | currentDatabase =>
    pure []

end Operation

namespace Migrator

variable {σ : Type}

/-- Does an operation that only asks; all others have nothing to ask. -/
def inquire (m : Migrator) (reg : Registry) (s : Session σ) : Operation → Action σ Answer
  | .hasTable model => do
    let r ← Action.ofExcept (Operation.resolve reg model)
    pure (.verdict (← Action.ask (s.hasTable m.dialect r.tableName)))
  | .hasColumn model field => do
    let r ← Action.ofExcept (Operation.resolve reg model)
    pure (.verdict (← Action.ask (s.hasColumn m.dialect r.tableName (r.columnName field))))
  | .hasConstraint model name => do
    let r ← Action.ofExcept (Operation.resolve reg model)
    pure (.verdict (← Action.ask (s.hasConstraint m.dialect r.tableName (r.constraintName name))))
  | .hasIndex model name => do
    let r ← Action.ofExcept (Operation.resolve reg model)
    pure (.verdict (← Action.ask (s.hasIndex m.dialect r.tableName (r.indexName name))))
  | .columnTypes model => do
    let r ← Action.ofExcept (Operation.resolve reg model)
    pure (.columns (← s.columnTypes m.dialect r.tableName))
  | .currentDatabase => do
    pure (.name (← s.currentDatabase m.dialect))
  | _ => pure .done

/-- Does an operation: makes its changes in order, then asks. -/
def run (m : Migrator) (reg : Registry) (s : Session σ) (op : Operation) : Action σ Answer := do
  let changes ← Action.ofExcept (op.changes m.dialect reg)
  changes.forM (m.perform s)
  m.inquire reg s op

end Migrator

end SchemaMigration
