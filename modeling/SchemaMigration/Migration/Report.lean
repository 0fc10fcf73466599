/-!
# Reports

What a migration of several tables did: the statements, and the deferred work that failed.
-/

namespace SchemaMigration

/-- Deferred work that failed without stopping the migration. -/
structure Failure where
  task : String
  message : String
deriving DecidableEq, Repr, Inhabited

/-- The outcome of a migration. -/
structure Report where
  /-- The statements in order, with their values written out. -/
  executed : List String := []
  failures : List Failure := []
  /-- The statements were only planned. -/
  dryRun : Bool := false
deriving DecidableEq, Repr, Inhabited

namespace Report

/-- Whether nothing happened. -/
def isEmpty (r : Report) : Bool := r.executed.isEmpty && r.failures.isEmpty

/-- Whether deferred work failed. -/
def hasFailures (r : Report) : Bool := !r.failures.isEmpty

/-- The report in one line. -/
def summary (r : Report) : String :=
  if r.isEmpty then "No changes"
  else
    toString r.executed.length ++ " statement(s) " ++ (if r.dryRun then "planned" else "executed")
      ++ if r.hasFailures then ", " ++ toString r.failures.length ++ " deferred failure(s)" else ""

end Report

end SchemaMigration
