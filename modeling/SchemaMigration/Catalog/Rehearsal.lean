import SchemaMigration.Catalog.Basic
import SchemaMigration.Migration.Session

/-!
# Rehearsals

Sessions on a catalog in memory.  The plain session answers truthfully and refuses only what the
catalog refuses.  A rehearsal can be told to refuse statements by their text and to give prepared
answers, so that failures of a live database can be tried out; its messages are brief.
-/

namespace SchemaMigration

/-- The session on a catalog whose current database has this name. -/
def Catalog.session (d : Dialect) (database : String) : Session Catalog where
  execute change := fun c =>
    match c.apply change with
    | .ok changed => .ok () changed
    | .error refusal => .error (.exec (change.sql d) refusal.message) c
  query q := fun c => .ok (c.answer database q) c

/-- A catalog, and how the session on it departs from the truth. -/
structure Rehearsal where
  catalog : Catalog := {}
  /-- A change is refused when its text contains one of these. -/
  refusedChanges : List String := []
  /-- A question is refused when its text contains one of these. -/
  refusedQueries : List String := []
  /-- The answer to the question for the current database. -/
  databaseRows : List Row := [[.text "app"]]
  /-- The answer to every question that counts, if prepared. -/
  countRows : Option (List Row) := none
  /-- The answer to every question for columns, if prepared. -/
  columnRows : Option (List Row) := none
deriving Repr, Inhabited

namespace Rehearsal

/-- Whether a text contains one of the needles. -/
def mentions (needles : List String) (sql : String) : Bool := needles.any (Text.contains sql)

/-- The prepared answer to a question, or else the truth. -/
def answer (r : Rehearsal) (q : CatalogQuery) : List Row :=
  match q with
  | .currentDatabase => r.databaseRows
  | .columnTypes .. => r.columnRows.getD (r.catalog.answer "" q)
  | _ => r.countRows.getD (r.catalog.answer "" q)

/-- The session on a rehearsal. -/
def session (d : Dialect) : Session Rehearsal where
  execute change := fun r =>
    let sql := change.sql d
    if mentions r.refusedChanges sql then .error (.exec sql "injected failure") r
    else
      match r.catalog.apply change with
      | .ok catalog => .ok () { r with catalog }
      | .error refusal => .error (.exec sql refusal.brief) r
  query q := fun r =>
    let sql := (q.statement d).sql d
    if mentions r.refusedQueries sql then .error (.exec sql "server has gone away") r
    else .ok (r.answer q) r

end Rehearsal

end SchemaMigration
