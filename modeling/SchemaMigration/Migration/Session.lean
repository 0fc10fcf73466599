import SchemaMigration.Migration.Error
import SchemaMigration.Sql.CatalogQuery
import SchemaMigration.Sql.Change

/-!
# Database sessions

A session carries out changes and answers questions about the catalog, one at a time.  It is given
by what each of these does to its state, so that every behaviour of a database, failures included,
is some session.

A database itself is sent statements.  It becomes a session by a dialect, which says what is sent for
a change or a question (`Database.session`).
-/

namespace SchemaMigration

/-- A step of work on a state, which may fail; the state is kept in either case. -/
abbrev Action (σ α : Type) := EStateM MigrationError σ α

/-- How a step ends: with a value or a failure, and with the state. -/
abbrev Outcome (σ α : Type) := EStateM.Result MigrationError σ α

/-- A connection to a database whose condition is described by `σ`. -/
structure Session (σ : Type) where
  execute : Change → Action σ Unit
  query : CatalogQuery → Action σ (List Row)

/-- A database that carries out statements, and answers those that are queries. -/
structure Database (σ : Type) where
  execute : Statement → Action σ Unit
  query : Statement → Action σ (List Row)

/-- The session that sends a database the statements of a dialect. -/
def Database.session {σ : Type} (database : Database σ) (d : Dialect) : Session σ where
  execute change := database.execute (change.statement d)
  query q := database.query (q.statement d)

/-- What a session was asked to do. -/
inductive Call
  | execute (c : Change)
  | query (q : CatalogQuery)
deriving Repr, Inhabited

/-- A call and whether it succeeded. -/
structure Exchange where
  call : Call
  succeeded : Bool
deriving Repr, Inhabited

namespace Session

variable {σ : Type}

/-- A step on the session's own state, with the call and its outcome added to the history. -/
def recordedAction {α : Type} (call : Call) (a : Action σ α) : Action (σ × List Exchange) α :=
  fun s =>
    match a s.1 with
    | .ok x state => .ok x (state, s.2 ++ [⟨call, true⟩])
    | .error e state => .error e (state, s.2 ++ [⟨call, false⟩])

/-- The same session, keeping a history of the exchanges. -/
def recorded (s : Session σ) : Session (σ × List Exchange) where
  execute c := recordedAction (.execute c) (s.execute c)
  query q := recordedAction (.query q) (s.query q)

end Session

end SchemaMigration
