import SchemaMigration.Migration.Deferred
import SchemaMigration.Migration.Inspection
import SchemaMigration.Migration.Order
import SchemaMigration.Migration.Report
import SchemaMigration.Sql.TablePlan

/-!
# Migration of several tables

Creating, dropping and updating the tables of a list of models.  Models are taken in dependency
order.  After each model the deferred work is done: its failures go into the report and stop
nothing.  Deferred work may schedule more of itself without end, so the number of tasks after one
model is limited by an allowance; a run that would exceed it has no outcome.
-/

namespace SchemaMigration

/-- A dialect and the choices for migrations in it. -/
structure Migrator where
  dialect : Dialect
  config : Config

/-- A migration under way: the session's state, the report so far, and the waiting tasks. -/
structure Progress (σ : Type) where
  session : σ
  report : Report
  queue : TaskQueue

/-- A step of a migration. -/
abbrev Work (σ α : Type) := Action (Progress σ) α

namespace Action

/-- A computation that does not concern the state. -/
def ofExcept {σ α : Type} : Except MigrationError α → Action σ α
  | .ok a => pure a
  | .error e => throw e

/-- A question about the state, which cannot fail. -/
def ask {σ α : Type} (question : σ → α × σ) : Action σ α := fun state =>
  let (answer, state) := question state
  .ok answer state

end Action

namespace Work

variable {σ α : Type}

/-- A step that concerns the session only. -/
def onSession (a : Action σ α) : Work σ α := fun p =>
  match a p.session with
  | .ok x session => .ok x { p with session }
  | .error e session => .error e { p with session }

/-- Schedules tasks. -/
def schedule (ts : List Task) : Work σ Unit :=
  modify fun p => { p with queue := p.queue.pushAll ts }

/-- Puts a statement into the report. -/
def note (sql : String) : Work σ Unit :=
  modify fun p => { p with report := { p.report with executed := p.report.executed ++ [sql] } }

end Work

/-- A literal table name stands where a description is needed. -/
def bareTable (name : String) : MigrationError :=
  .parse (.unresolvedModel name "a bare table name has no columns to create")

namespace Migrator

variable {σ : Type}

/-- Makes a change, unless changes are only planned. -/
def perform (m : Migrator) (s : Session σ) (c : Change) : Action σ Unit :=
  if m.config.dryRun then pure () else s.execute c

/-- Makes a change and reports it. -/
def carryOut (m : Migrator) (s : Session σ) (c : Change) : Work σ Unit := do
  Work.onSession (m.perform s c)
  Work.note (c.sql m.dialect)

/-- Makes a change unless the live schema has what it adds. -/
def addMissing (m : Migrator) (s : Session σ) (question : String → CatalogQuery)
    (change : Except MigrationError Change) : Work σ Unit := do
  if ← Work.onSession (.ask (s.affirms m.dialect question)) then pure ()
  else m.carryOut s (← Action.ofExcept change)

/-- The tasks that follow the creation of a table. -/
def laterTasks (table : String) (plan : TablePlan) : List Task :=
  plan.laterIndexes.map (.createIndex table) ++ plan.joinTables.map (.joinTable · false)

/-- Creates the table of a model and schedules what follows. -/
def createModel (m : Migrator) (s : Session σ) (model : Model) : Work σ Unit := do
  let plan ← Action.ofExcept (model.plan m.dialect m.config)
  m.carryOut s plan.change
  Work.schedule (laterTasks model.table plan)

/-- Adds what an existing table lacks: columns, foreign keys, checks, and indexes where wanted. -/
def updateModel (m : Migrator) (s : Session σ) (model : Model) : Work σ Unit := do
  let table := model.table
  model.columns.forM fun c =>
    m.addMissing s (.column · table c.name) (Change.addDeclared m.dialect table c)
  model.foreignKeys.forM fun k =>
    m.addMissing s (.constraint · table k.name) (.ok (.addForeignKey table k))
  model.checks.forM fun c =>
    m.addMissing s (.constraint · table c.name) (.ok (.addCheck table c))
  if m.config.migrateIndexes then
    model.indexes.forM fun i =>
      m.addMissing s (.index · table i.name) (.ok (.createIndex table i))
  Work.schedule (model.joinTables.map (.joinTable · true))

/-- Does a piece of deferred work. -/
def runTask (m : Migrator) (reg : Registry) (s : Session σ) : Task → Work σ Unit
  | .createIndex table i => m.carryOut s (.createIndex table i)
  | .joinTable source migrateExisting => do
    -- Described only now, since join tables may refer to each other in cycles.
    let model ← Action.ofExcept ((reg.describe source).mapError .parse)
    if ← Work.onSession (.ask (s.hasTable m.dialect model.table)) then
      if migrateExisting then m.updateModel s model else pure ()
    else m.createModel s model

/-- Does a piece of deferred work; a failure goes into the report. -/
def attempt (m : Migrator) (reg : Registry) (s : Session σ) (t : Task) (p : Progress σ) :
    Progress σ :=
  match m.runTask reg s t p with
  | .ok () p => p
  | .error e p =>
    { p with
      report := { p.report with failures := p.report.failures ++ [⟨t.title, e.message⟩] } }

/-- Does the deferred work until no task waits, if that takes at most `allowance` tasks. -/
def drain (m : Migrator) (reg : Registry) (s : Session σ) (allowance : Nat) (p : Progress σ) :
    Option (Progress σ) :=
  match p.queue.pop? with
  | none => some p
  | some (t, queue) =>
    match allowance with
    | 0 => none
    | n + 1 => m.drain reg s n (m.attempt reg s t { p with queue })

/-- Takes a step for each model in turn, each followed by the deferred work.  The first failing
step ends the run. -/
def forEachModel (m : Migrator) (reg : Registry) (s : Session σ) (allowance : Nat)
    (step : ResolvedModel → Work σ Unit) :
    List ResolvedModel → Progress σ → Option (Outcome (Progress σ) Unit)
  | [], p => some (.ok () p)
  | model :: models, p =>
    match step model p with
    | .error e p => some (.error e p)
    | .ok () p =>
      match m.drain reg s allowance p with
      | none => none
      | some p => m.forEachModel reg s allowance step models p

/-- A migration before its first step. -/
def start (m : Migrator) (session : σ) : Progress σ :=
  { session, report := { dryRun := m.config.dryRun }, queue := {} }

/-- What a migration hands out: the report, if no step failed, and the session's state. -/
def conclude : Outcome (Progress σ) Unit → Outcome σ Report
  | .ok () p => .ok p.report p.session
  | .error e p => .error e p.session

/-- Orders the models, takes a step for each, and hands out the report. -/
def migrate (m : Migrator) (reg : Registry) (s : Session σ) (allowance : Nat) (discover : Bool)
    (step : ResolvedModel → Work σ Unit) (refs : List ModelRef) (state : σ) :
    Option (Outcome σ Report) :=
  match order reg discover refs with
  | .error e => some (.error (.parse e) state)
  | .ok models =>
    (m.forEachModel reg s allowance step models (m.start state)).map conclude

/-- Creates the table of a model; a literal table name has none to create. -/
def createStep (m : Migrator) (s : Session σ) : ResolvedModel → Work σ Unit
  | .table name => throw (bareTable name)
  | .model model => m.createModel s model

/-- Creates the table of a model or adds what it lacks; a literal table name must exist. -/
def updateStep (m : Migrator) (s : Session σ) : ResolvedModel → Work σ Unit
  | .table name => do
    if ← Work.onSession (.ask (s.hasTable m.dialect name)) then pure () else throw (bareTable name)
  | .model model => do
    if ← Work.onSession (.ask (s.hasTable m.dialect model.table)) then m.updateModel s model
    else m.createModel s model

/-- Creates the tables of the models, referenced tables first. -/
def createTables (m : Migrator) (reg : Registry) (s : Session σ) (allowance : Nat)
    (refs : List ModelRef) (state : σ) : Option (Outcome σ Report) :=
  m.migrate reg s allowance false (m.createStep s) refs state

/-- Brings the live schema up to the models, and to the models that these refer to, without dropping
or altering anything. -/
def autoMigrate (m : Migrator) (reg : Registry) (s : Session σ) (allowance : Nat)
    (refs : List ModelRef) (state : σ) : Option (Outcome σ Report) :=
  m.migrate reg s allowance true (m.updateStep s) refs state

/-- Drops the tables of the models, referencing tables first. -/
def dropTables (m : Migrator) (reg : Registry) (s : Session σ) (refs : List ModelRef) (state : σ) :
    Outcome σ Report :=
  match order reg false refs with
  | .error e => .error (.parse e) state
  | .ok models =>
    let drops : Work σ Unit := models.reverse.forM fun model =>
      m.carryOut s (.dropTable model.tableName)
    conclude (drops (m.start state))

end Migrator

end SchemaMigration
