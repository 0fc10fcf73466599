import SchemaMigration.Schema.Model

/-!
# Deferred work

Work that waits until a table exists: its indexes, and the join tables of its relationships.  Tasks
are taken in the order in which they were scheduled.
-/

namespace SchemaMigration

/-- A piece of deferred work. -/
inductive Task
  /-- Create an index on a table that exists by now. -/
  | createIndex (table : String) (i : Index)
  /-- Create a join table if it is missing.  With `migrateExisting`, an existing one gets what it
  lacks. -/
  | joinTable (s : Source) (migrateExisting : Bool)
deriving Repr, Inhabited

/-- How a task is called in reports. -/
def Task.title : Task → String
  | createIndex table i => "create index " ++ i.name ++ " on " ++ table
  | joinTable s _ => "join table " ++ s.name

/-- Tasks that wait, oldest first. -/
structure TaskQueue where
  tasks : List Task := []
deriving Repr, Inhabited

namespace TaskQueue

/-- Schedules a task behind all others. -/
def push (q : TaskQueue) (t : Task) : TaskQueue := ⟨q.tasks ++ [t]⟩

/-- Schedules several tasks, the first one first. -/
def pushAll (q : TaskQueue) (ts : List Task) : TaskQueue := ⟨q.tasks ++ ts⟩

/-- The oldest task and the queue without it. -/
def pop? (q : TaskQueue) : Option (Task × TaskQueue) :=
  match q.tasks with
  | [] => none
  | t :: rest => some (t, ⟨rest⟩)

/-- How many tasks wait. -/
def size (q : TaskQueue) : Nat := q.tasks.length

@[simp] theorem tasks_push (q : TaskQueue) (t : Task) : (q.push t).tasks = q.tasks ++ [t] := rfl

@[simp] theorem tasks_pushAll (q : TaskQueue) (ts : List Task) :
    (q.pushAll ts).tasks = q.tasks ++ ts := rfl

/-- Nothing is left to take exactly when no task waits. -/
theorem pop?_eq_none_iff (q : TaskQueue) : q.pop? = none ↔ q.tasks = [] := by
  cases h : q.tasks <;> simp [pop?, h]

/-- What is taken is the first task, and the others keep their order. -/
theorem pop?_eq_some_iff (q rest : TaskQueue) (t : Task) :
    q.pop? = some (t, rest) ↔ q.tasks = t :: rest.tasks := by
  obtain ⟨tasks⟩ := q
  obtain ⟨others⟩ := rest
  cases tasks <;> simp [pop?]

end TaskQueue

end SchemaMigration
