import SchemaMigration.Migration.Migrator
import SchemaMigration.Proofs.Catalog.Growth
import SchemaMigration.Proofs.Sql.ColumnTypes

/-!
# The steps of a migration

A migration of several tables does few things one at a time: it asks a question, makes a change and
notes it, schedules or takes tasks, and notes a failure.  A relation between the stages of a
migration that each of these leads along is led along by every step, failing or not, and by a whole
run: `Respects` collects the single things, and the lemmas below it go up from them, one for each
function.  What a run keeps, however its session behaves, is an instance.

What a run achieves has two further ingredients.  `forM_establishes` is about steps in a row, each
of which brings something about that the later ones keep.  `drain_induct` is the induction along the
queue, backwards from its end, so that a task may rely on what the tasks that it schedules achieve
(`drain_all`).
-/

namespace SchemaMigration

/-- The state at the end, whether with a value or with a failure. -/
def Outcome.state {σ α : Type} : Outcome σ α → σ
  | .ok _ s => s
  | .error _ s => s

namespace Action

variable {σ α β : Type} {R : σ → σ → Prop}

/-- The state that a step leaves behind, whether it fails or not. -/
def after (a : Action σ α) (s : σ) : σ :=
  match a s with
  | .ok _ t => t
  | .error _ t => t

/-- The step leads along the relation from every state, whether it fails or not. -/
def Moves (R : σ → σ → Prop) (a : Action σ α) : Prop := ∀ s, R s (after a s)

theorem Moves.of_ok {a : Action σ α} {x : α} {s t : σ} (h : Moves R a) (hs : a s = .ok x t) :
    R s t := by
  have hm := h s
  rwa [after, hs] at hm

/-- Two steps in a row succeed exactly when both do, one after the other. -/
theorem bind_ok {a : Action σ α} {f : α → Action σ β} {s t : σ} {y : β} :
    (a >>= f) s = .ok y t ↔ ∃ x u, a s = .ok x u ∧ f x u = .ok y t := by
  show EStateM.bind a f s = .ok y t ↔ _
  rw [EStateM.bind]
  cases a s with
  | ok x u =>
    constructor
    · exact fun h => ⟨x, u, rfl, h⟩
    · rintro ⟨_, _, ⟨⟩, h⟩
      exact h
  | error e u =>
    constructor
    · exact fun h => by cases h
    · rintro ⟨_, _, ⟨⟩, _⟩

/-- After a first step that succeeds, two steps in a row are the second one. -/
theorem bind_of_ok {a : Action σ α} {f : α → Action σ β} {s t : σ} {x : α} (h : a s = .ok x t) :
    (a >>= f) s = f x t := by
  show EStateM.bind a f s = _
  rw [EStateM.bind, h]

/-- A first step that fails is all that happens. -/
theorem bind_of_error {a : Action σ α} {f : α → Action σ β} {s t : σ} {e : MigrationError}
    (h : a s = .error e t) : (a >>= f) s = .error e t := by
  show EStateM.bind a f s = _
  rw [EStateM.bind, h]

/-- Behind a step that ends somewhere, the rest leads along the relation from there. -/
theorem after_bind (hrefl : ∀ s, R s s) {f : α → Action σ β} (hf : ∀ x, Moves R (f x))
    (a : Action σ α) (s : σ) : R (after a s) (after (a >>= f) s) := by
  unfold after
  cases ha : a s with
  | ok x t =>
    rw [bind_of_ok ha]
    exact hf x t
  | error e t =>
    rw [bind_of_error ha]
    exact hrefl t

theorem Moves.bind (htrans : ∀ s t u, R s t → R t u → R s u) {a : Action σ α}
    {f : α → Action σ β} (ha : Moves R a) (hf : ∀ x, Moves R (f x)) : Moves R (a >>= f) := by
  intro s
  show R s (after (EStateM.bind a f) s)
  have hs := ha s
  unfold after at hs ⊢
  rw [EStateM.bind]
  cases h : a s with
  | ok x t =>
    rw [h] at hs
    exact htrans _ _ _ hs (hf x t)
  | error e t =>
    rw [h] at hs
    exact hs

theorem moves_ofExcept (hrefl : ∀ s, R s s) (x : Except MigrationError α) :
    Moves R (ofExcept x) := by
  intro s
  cases x with
  | ok a => exact hrefl s
  | error e => exact hrefl s

theorem ofExcept_ok {x : Except MigrationError α} {a : α} {s t : σ} :
    ofExcept x s = .ok a t ↔ x = .ok a ∧ s = t := by
  cases x with
  | ok b =>
    show EStateM.Result.ok b s = .ok a t ↔ _
    simp
  | error e =>
    show EStateM.Result.error e s = .ok a t ↔ _
    simp

/-- Steps in a row that lead along the relation do so together. -/
theorem moves_forM (hrefl : ∀ s, R s s) (htrans : ∀ s t u, R s t → R t u → R s u)
    {f : α → Action σ Unit} {xs : List α} (h : ∀ x ∈ xs, Moves R (f x)) :
    Moves R (xs.forM f) := by
  induction xs with
  | nil => exact fun s => hrefl s
  | cons x xs ih =>
    exact Moves.bind htrans (h x (by simp)) fun _ => ih fun y hy => h y (List.mem_cons_of_mem x hy)

/-- What each of several steps brings about, and the later ones keep, holds after all of them. -/
theorem forM_establishes {Q : α → σ → Prop} {f : α → Action σ Unit} {xs : List α}
    (hR : ∀ x ∈ xs, Moves R (f x)) (hkeep : ∀ x s t, R s t → Q x s → Q x t)
    (hrefl : ∀ s, R s s) (htrans : ∀ s t u, R s t → R t u → R s u)
    (hdo : ∀ x ∈ xs, ∀ s t, f x s = .ok () t → Q x t) :
    ∀ {s t : σ}, xs.forM f s = .ok () t → ∀ x ∈ xs, Q x t := by
  induction xs with
  | nil =>
    intro s t _ x hx
    exact absurd hx (by simp)
  | cons y ys ih =>
    intro s t h x hx
    obtain ⟨_, u, hy, hys⟩ := bind_ok.mp h
    have hR' : ∀ x ∈ ys, Moves R (f x) := fun x hx => hR x (List.mem_cons_of_mem y hx)
    rcases List.mem_cons.mp hx with rfl | hx'
    · exact hkeep x u t ((moves_forM hrefl htrans hR').of_ok hys) (hdo x (by simp) s u hy)
    · exact ih hR' (fun x hx => hdo x (List.mem_cons_of_mem y hx)) hys x hx'

end Action

/-- What an existing table may lack, each part with the change that adds it. -/
def Model.additions (d : Dialect) (config : Config) (m : Model) :
    List (Part × Except MigrationError Change) :=
  m.columns.map (fun c => (.column c.name, Change.addDeclared d m.table c))
    ++ m.foreignKeys.map (fun k => (.constraint k.name, .ok (.addForeignKey m.table k)))
    ++ m.checks.map (fun c => (.constraint c.name, .ok (.addCheck m.table c)))
    ++ if config.migrateIndexes then
        m.indexes.map fun i => (.index i.name, .ok (.createIndex m.table i))
      else []

/-- An addition, once its change is known, adds its part to the model's table and nothing else. -/
theorem Model.adds_of_mem_additions {d : Dialect} {config : Config} {m : Model}
    {x : Part × Except MigrationError Change} (hx : x ∈ m.additions d config) {change : Change}
    (hc : x.2 = .ok change) : change.adds = some (m.table, [x.1]) := by
  simp only [additions, List.mem_append, List.mem_map] at hx
  rcases hx with ((⟨c, -, rfl⟩ | ⟨k, -, rfl⟩) | ⟨c, -, rfl⟩) | hx
  · dsimp only [Change.addDeclared] at hc
    cases ht : d.fullColumnType m.table c with
    | error e =>
      rw [ht] at hc
      cases hc
    | ok type =>
      rw [ht] at hc
      cases hc
      rfl
  · cases hc
    rfl
  · cases hc
    rfl
  · split at hx
    · obtain ⟨i, -, rfl⟩ := List.mem_map.mp hx
      cases hc
      rfl
    · exact absurd hx (by simp)

/-- An addition that adds an index creates one that the model declares, and only where missing
indexes are created. -/
theorem Model.index_of_mem_additions {d : Dialect} {config : Config} {m : Model}
    {x : Part × Except MigrationError Change} (hx : x ∈ m.additions d config) {change : Change}
    (hc : x.2 = .ok change) {name : String} (hname : x.1 = .index name) :
    config.migrateIndexes = true ∧
      ∃ i ∈ m.indexes, i.name = name ∧ change = .createIndex m.table i := by
  simp only [additions, List.mem_append, List.mem_map] at hx
  rcases hx with ((⟨_, -, rfl⟩ | ⟨_, -, rfl⟩) | ⟨_, -, rfl⟩) | hx
  · cases hname
  · cases hname
  · cases hname
  · split at hx
    · next hmigrate =>
      obtain ⟨i, hi, rfl⟩ := List.mem_map.mp hx
      cases hname
      cases hc
      exact ⟨hmigrate, i, hi, rfl, rfl⟩
    · exact absurd hx List.not_mem_nil

/-- The changes that an additive migration makes: a table is created as planned for its model, or
one thing is added to a table. -/
inductive Additive (d : Dialect) (config : Config) : Change → Prop
  | createTable {model : Model} {plan : TablePlan} :
      model.plan d config = .ok plan → Additive d config plan.change
  | addColumn {table : String} {c : Column} {change : Change} :
      Change.addDeclared d table c = .ok change → Additive d config change
  | addForeignKey (table : String) (k : ForeignKey) : Additive d config (.addForeignKey table k)
  | addCheck (table : String) (c : Check) : Additive d config (.addCheck table c)
  | createIndex (table : String) (i : Index) : Additive d config (.createIndex table i)

/-- The additions to an existing table are additive. -/
theorem Model.additive_of_mem_additions {d : Dialect} {config : Config} {m : Model}
    {x : Part × Except MigrationError Change} (hx : x ∈ m.additions d config) {change : Change}
    (hc : x.2 = .ok change) : Additive d config change := by
  simp only [additions, List.mem_append, List.mem_map] at hx
  rcases hx with ((⟨c, -, rfl⟩ | ⟨k, -, rfl⟩) | ⟨c, -, rfl⟩) | hx
  · exact .addColumn hc
  · cases hc
    exact .addForeignKey m.table k
  · cases hc
    exact .addCheck m.table c
  · split at hx
    · obtain ⟨i, -, rfl⟩ := List.mem_map.mp hx
      cases hc
      exact .createIndex m.table i
    · exact absurd hx (by simp)

/-- The parts that a new table is created with. -/
def Model.createdParts (config : Config) (m : Model) : List Part :=
  .table :: m.columns.map (.column ·.name)
    ++ (if config.separateIndexes then [] else m.indexes.map (.index ·.name))
    ++ m.foreignKeys.map (.constraint ·.name)
    ++ m.checks.map (.constraint ·.name)

/-- The tasks that follow the creation of a model's table. -/
def Model.laterTasks (config : Config) (m : Model) : List Task :=
  (if config.separateIndexes then m.indexes else []).map (.createIndex m.table)
    ++ m.joinTables.map (.joinTable · false)

/-- The indexes that are left for later when a table is created are those of its model. -/
theorem Model.createIndex_mem_laterTasks {config : Config} {a : Model} {t : String} {i : Index} :
    .createIndex t i ∈ a.laterTasks config ↔
      config.separateIndexes = true ∧ t = a.table ∧ i ∈ a.indexes := by
  rw [laterTasks, List.mem_append, List.mem_map, List.mem_map]
  constructor
  · rintro (⟨k, hk, heq⟩ | ⟨s, -, heq⟩)
    · cases heq
      split at hk
      · next hsep => exact ⟨hsep, rfl, hk⟩
      · exact absurd hk List.not_mem_nil
    · cases heq
  · rintro ⟨hsep, rfl, hi⟩
    exact Or.inl ⟨i, by rwa [if_pos hsep], rfl⟩

/-- The join tables that are left for later are those of the model, and are left alone if they are
there. -/
theorem Model.joinTable_mem_laterTasks {config : Config} {a : Model} {s : Source} {flag : Bool} :
    .joinTable s flag ∈ a.laterTasks config ↔ flag = false ∧ s ∈ a.joinTables := by
  rw [laterTasks, List.mem_append, List.mem_map, List.mem_map]
  constructor
  · rintro (⟨k, -, heq⟩ | ⟨u, hu, heq⟩)
    · cases heq
    · cases heq
      exact ⟨rfl, hu⟩
  · rintro ⟨rfl, hs⟩
    exact Or.inr ⟨s, hs, rfl⟩

/-- A plan creates the model's table with these parts and leaves these tasks for later. -/
theorem Model.plan_ok {d : Dialect} {config : Config} {m : Model} {plan : TablePlan}
    (h : m.plan d config = .ok plan) :
    plan.change.adds = some (m.table, m.createdParts config) ∧
      Migrator.laterTasks m.table plan = m.laterTasks config := by
  unfold Model.plan at h
  split at h
  · cases h
  · next typed ht =>
    cases h
    refine ⟨?_, rfl⟩
    have hcols := typedColumns_ok ht
    have hkey : (m.primaryKeyClause (typed.map (·.2))).filterMap (·.part?) = [] := by
      unfold primaryKeyClause
      split <;> rfl
    rw [Change.adds, clauses, createdParts, ← hcols]
    simp only [List.filterMap_append, List.filterMap_map, List.map_map, hkey]
    congr 2
    split <;> simp [Function.comp_def, Clause.part?, List.filterMap_eq_map']

/-- An additive change adds parts to one table and does nothing else. -/
theorem Additive.adds {d : Dialect} {config : Config} {change : Change}
    (h : Additive d config change) : ∃ table parts, change.adds = some (table, parts) := by
  cases h with
  | createTable h => exact ⟨_, _, (Model.plan_ok h).1⟩
  | @addColumn table c _ h =>
    obtain ⟨type, -, hc⟩ := bind_eq_ok.mp h
    cases hc
    exact ⟨_, _, rfl⟩
  | addForeignKey table k => exact ⟨_, _, rfl⟩
  | addCheck table c => exact ⟨_, _, rfl⟩
  | createIndex table i => exact ⟨_, _, rfl⟩

namespace Migrator

open SchemaMigration.Action (Moves after bind_ok ofExcept_ok)

variable {σ : Type} {m : Migrator} {reg : Registry} {s : Session σ}

/-- The tasks that bring join tables up to date. -/
def updates (sources : List Source) : List Task := sources.map (.joinTable · true)

/-- Updating a table adds what it lacks of one list, and schedules its join tables. -/
theorem updateModel_eq (m : Migrator) (s : Session σ) (model : Model) :
    m.updateModel s model = (do
      (model.additions m.dialect m.config).forM fun x =>
        m.addMissing s (fun database => x.1.question model.table database) x.2
      Work.schedule (updates model.joinTables)) := by
  unfold updateModel Model.additions updates
  split <;> simp [Part.question, List.forM_append, List.forM_map]

/-- What carrying out a change leaves behind: the session, and the statement in the report if it was
made. -/
theorem carryOut_after (change : Change) (p : Progress σ) :
    after (m.carryOut s change) p =
      match m.perform s change p.session with
      | .ok _ session =>
        { p with
          session
          report := { p.report with executed := p.report.executed ++ [change.sql m.dialect] } }
      | .error _ session => { p with session } := by
  unfold after carryOut
  simp only [bind, EStateM.bind, Work.onSession]
  cases m.perform s change p.session with
  | ok u session => rfl
  | error e session => rfl

/-! ## What every step respects -/

/-- A relation between stages of a migration that whatever an additive migration does one at a time
leads along. -/
structure Respects (m : Migrator) (s : Session σ) (R : Progress σ → Progress σ → Prop) : Prop where
  refl : ∀ p, R p p
  trans : ∀ p q r, R p q → R q r → R p r
  asking : ∀ question, Moves R (Work.onSession (.ask (s.affirms m.dialect question)))
  adding : ∀ change, Additive m.dialect m.config change → Moves R (m.carryOut s change)
  scheduling : ∀ ts, Moves R (Work.schedule ts)
  failing : ∀ p failure,
    R p { p with report := { p.report with failures := p.report.failures ++ [failure] } }

namespace Respects

variable {R : Progress σ → Progress σ → Prop}

theorem addMissing (h : m.Respects s R) {question : String → CatalogQuery}
    {change : Except MigrationError Change}
    (hc : ∀ c, change = .ok c → Additive m.dialect m.config c) :
    Moves R (m.addMissing s question change) := by
  refine Moves.bind h.trans (h.asking question) fun there => ?_
  cases there with
  | true => exact fun p => h.refl p
  | false =>
    cases change with
    | error e => exact fun p => h.refl p
    | ok c => exact h.adding c (hc c rfl)

theorem updateModel (h : m.Respects s R) (model : Model) : Moves R (m.updateModel s model) := by
  rw [updateModel_eq]
  refine Moves.bind h.trans (Action.moves_forM h.refl h.trans fun x hx => ?_)
    fun _ => h.scheduling _
  exact h.addMissing fun c hc => Model.additive_of_mem_additions hx hc

theorem createModel (h : m.Respects s R) (model : Model) : Moves R (m.createModel s model) := by
  unfold Migrator.createModel
  cases hp : model.plan m.dialect m.config with
  | error e => exact fun p => h.refl p
  | ok plan =>
    show Moves R (m.carryOut s plan.change >>= fun _ =>
      Work.schedule (laterTasks model.table plan))
    exact Moves.bind h.trans (h.adding _ (.createTable hp)) fun _ => h.scheduling _

theorem runTask (h : m.Respects s R) (reg : Registry) (t : Task) : Moves R (m.runTask reg s t) := by
  cases t with
  | createIndex table i => exact h.adding _ (.createIndex table i)
  | joinTable source migrateExisting =>
    refine Moves.bind h.trans (Action.moves_ofExcept h.refl _) fun model => ?_
    refine Moves.bind h.trans (h.asking _) fun there => ?_
    cases there with
    | false => exact h.createModel model
    | true =>
      cases migrateExisting with
      | true => exact h.updateModel model
      | false => exact fun p => h.refl p

theorem updateStep (h : m.Respects s R) (model : ResolvedModel) :
    Moves R (m.updateStep s model) := by
  cases model with
  | table name =>
    refine Moves.bind h.trans (h.asking _) fun there => ?_
    cases there with
    | true => exact fun p => h.refl p
    | false => exact fun p => h.refl p
  | model model =>
    refine Moves.bind h.trans (h.asking _) fun there => ?_
    cases there with
    | true => exact h.updateModel model
    | false => exact h.createModel model

theorem createStep (h : m.Respects s R) (model : ResolvedModel) :
    Moves R (m.createStep s model) := by
  cases model with
  | table name => exact fun p => h.refl p
  | model model => exact h.createModel model

theorem attempt (h : m.Respects s R) (reg : Registry) (t : Task) (p : Progress σ) :
    R p (m.attempt reg s t p) := by
  have hm := h.runTask reg t p
  unfold Migrator.attempt
  unfold after at hm
  split
  · next q hq =>
    rw [hq] at hm
    exact hm
  · next e q hq =>
    rw [hq] at hm
    exact h.trans _ _ _ hm (h.failing q _)

end Respects

/-- No step takes a task away, so that the tasks that wait go on waiting, in their order. -/
theorem queue_respects (m : Migrator) (s : Session σ) :
    m.Respects s fun p q => p.queue.tasks <+: q.queue.tasks where
  refl p := List.prefix_refl _
  trans _ _ _ := List.IsPrefix.trans
  asking question p := List.prefix_refl _
  adding change _ p := by
    rw [carryOut_after]
    split <;> exact List.prefix_refl _
  scheduling ts p := List.prefix_append _ _
  failing p failure := List.prefix_refl _

/-- No step takes a failure back. -/
theorem failures_respects (m : Migrator) (s : Session σ) :
    m.Respects s fun p q => p.report.failures <+: q.report.failures where
  refl p := List.prefix_refl _
  trans _ _ _ := List.IsPrefix.trans
  asking question p := List.prefix_refl _
  adding change _ p := by
    rw [carryOut_after]
    split <;> exact List.prefix_refl _
  scheduling ts p := List.prefix_refl _
  failing p failure := List.prefix_append _ _

/-! ## The deferred work -/

/-- A failure that is noted leaves the session and the tasks as the work left them. -/
theorem attempt_leaves (m : Migrator) (reg : Registry) (s : Session σ) (t : Task)
    (p : Progress σ) :
    (m.attempt reg s t p).session = (after (m.runTask reg s t) p).session ∧
      (m.attempt reg s t p).queue = (after (m.runTask reg s t) p).queue := by
  unfold attempt after
  cases m.runTask reg s t p <;> exact ⟨rfl, rfl⟩

/-- A task that leaves no failure has succeeded. -/
theorem attempt_ok {t : Task} {p : Progress σ}
    (h : (m.attempt reg s t p).report.failures = []) :
    m.runTask reg s t p = .ok () (m.attempt reg s t p) := by
  unfold attempt at h ⊢
  cases hrun : m.runTask reg s t p with
  | ok _ q => rfl
  | error e q =>
    rw [hrun] at h
    exact absurd h (by simp)

/-- The deferred work, taken apart: no task waits, or the first one is attempted and the work goes
on. -/
theorem drain_some {n : Nat} {p r : Progress σ} (h : m.drain reg s n p = some r) :
    p.queue.tasks = [] ∧ p = r ∨
      ∃ k t rest, n = k + 1 ∧ p.queue.tasks = t :: rest.tasks ∧
        m.drain reg s k (m.attempt reg s t { p with queue := rest }) = some r := by
  unfold drain at h
  split at h
  · next hp => exact Or.inl ⟨(TaskQueue.pop?_eq_none_iff _).mp hp, Option.some.inj h⟩
  · next t rest hp =>
    cases n with
    | zero => cases h
    | succ k => exact Or.inr ⟨k, t, rest, rfl, (TaskQueue.pop?_eq_some_iff _ _ _).mp hp, h⟩

/-- The first task is attempted before the others. -/
theorem drain_cons {n : Nat} {t : Task} {rest : List Task} {p : Progress σ}
    (hp : p.queue.tasks = t :: rest) :
    m.drain reg s (n + 1) p = m.drain reg s n (m.attempt reg s t { p with queue := ⟨rest⟩ }) := by
  rw [drain, (TaskQueue.pop?_eq_some_iff p.queue ⟨rest⟩ t).mpr hp]

/-- A larger allowance leads to the same end. -/
theorem drain_mono : ∀ {n k : Nat} {p q : Progress σ}, m.drain reg s n p = some q → n ≤ k →
    m.drain reg s k p = some q := by
  intro n
  induction n with
  | zero =>
    intro k p q h _
    unfold drain at h ⊢
    split at h
    · exact h
    · cases h
  | succ n ih =>
    intro k p q h hnk
    obtain ⟨k, rfl⟩ : ∃ k', k = k' + 1 := ⟨k - 1, by omega⟩
    unfold drain at h ⊢
    split at h
    · exact h
    · exact ih h (by omega)

/-- **The induction along the queue.**  What holds at the end of the deferred work, and before each
task whenever it holds after it, holds at the beginning. -/
theorem drain_induct {r : Progress σ} {P : Progress σ → Prop} (hend : r.queue.tasks = [] → P r)
    (hstep : ∀ n t rest p, p.queue.tasks = t :: rest.tasks →
      m.drain reg s n (m.attempt reg s t { p with queue := rest }) = some r →
      P (m.attempt reg s t { p with queue := rest }) → P p) :
    ∀ (n : Nat) {p : Progress σ}, m.drain reg s n p = some r → P p := by
  intro n
  induction n with
  | zero =>
    intro p h
    rcases drain_some h with ⟨hp, rfl⟩ | ⟨k, t, rest, hk, -⟩
    · exact hend hp
    · cases hk
  | succ n ih =>
    intro p h
    rcases drain_some h with ⟨hp, rfl⟩ | ⟨k, t, rest, hk, hp, h⟩
    · exact hend hp
    · cases hk
      exact hstep n t rest p hp h (ih h)

/-- A relation that taking tasks leads along as well is led along by the deferred work. -/
theorem Respects.drain {R : Progress σ → Progress σ → Prop} (h : m.Respects s R)
    (htake : ∀ p queue, R p { p with queue }) (reg : Registry) (n : Nat) {p q : Progress σ}
    (hq : m.drain reg s n p = some q) : R p q :=
  drain_induct (P := fun p => R p q) (fun _ => h.refl q)
    (fun _ t rest p _ _ hnext =>
      h.trans _ _ _ (h.trans _ _ _ (htake p rest) (h.attempt reg t _)) hnext) n hq

/-- When the queue is drained, no task waits. -/
theorem drain_empty (n : Nat) {p q : Progress σ} (h : m.drain reg s n p = some q) :
    q.queue.tasks = [] :=
  drain_induct (P := fun _ => q.queue.tasks = []) id (fun _ _ _ _ _ _ hnext => hnext) n h

/-- If the deferred work ends without failures, then each task on the way succeeds. -/
theorem runTask_of_drain {n : Nat} {t : Task} {p r : Progress σ}
    (h : m.drain reg s n (m.attempt reg s t p) = some r) (hr : r.report.failures = []) :
    m.runTask reg s t p = .ok () (m.attempt reg s t p) := by
  have hmove := (failures_respects m s).drain (fun p _ => List.prefix_refl _) reg n h
  rw [hr] at hmove
  exact attempt_ok (List.prefix_nil.mp hmove)

/-- If no deferred work fails, then `Q` holds of every task that waited, provided that it holds of a
task that was done whenever it holds of those that wait then. -/
theorem drain_all {R : Progress σ → Progress σ → Prop} (hR : m.Respects s R)
    (htake : ∀ p queue, R p { p with queue }) {Q : Task → Prop} {r : Progress σ}
    (hr : r.report.failures = [])
    (hdo : ∀ t p q, m.runTask reg s t p = .ok () q → R q r → (∀ u ∈ q.queue.tasks, Q u) → Q t)
    (n : Nat) {p : Progress σ} (h : m.drain reg s n p = some r) : ∀ t ∈ p.queue.tasks, Q t := by
  refine drain_induct (P := fun p => ∀ t ∈ p.queue.tasks, Q t) (fun hnil t ht => ?_)
    (fun k first rest p hp hnext hlater t ht => ?_) n h
  · rw [hnil] at ht
    exact absurd ht (by simp)
  · have hrun := runTask_of_drain hnext hr
    rw [hp] at ht
    rcases List.mem_cons.mp ht with rfl | ht'
    · exact hdo t _ _ hrun (hR.drain htake reg k hnext) hlater
    · -- The other tasks that waited still wait behind the first.
      exact hlater t ((((queue_respects m s).runTask reg first).of_ok hrun).subset ht')

/-- What each task that succeeds keeps, all deferred work keeps if none of it fails. -/
theorem drain_inv {I : Progress σ → Prop} {r : Progress σ} (hr : r.report.failures = [])
    (hstep : ∀ t p rest q, p.queue.tasks = t :: rest.tasks → I p →
      m.runTask reg s t { p with queue := rest } = .ok () q → I q)
    (n : Nat) {p : Progress σ} (h : m.drain reg s n p = some r) (hp : I p) : I r :=
  drain_induct (P := fun p => I p → I r) (fun _ => id)
    (fun _ t rest p htasks hnext hrest hp =>
      hrest (hstep t p rest _ htasks hp (runTask_of_drain hnext hr))) n h hp

/-! ## The run over the models -/

/-- A run over the models takes the step for the first one, does the deferred work, and goes on. -/
theorem forEachModel_cons {n : Nat} {step : ResolvedModel → Work σ Unit} {model : ResolvedModel}
    {models : List ResolvedModel} {p r : Progress σ}
    (h : m.forEachModel reg s n step (model :: models) p = some (.ok () r)) :
    ∃ q q', step model p = .ok () q ∧ m.drain reg s n q = some q' ∧
      m.forEachModel reg s n step models q' = some (.ok () r) := by
  rw [forEachModel] at h
  split at h
  · cases h
  · next q hq =>
    split at h
    · cases h
    · next q' hq' => exact ⟨q, q', hq, hq', h⟩

/-- A run over two lists that succeeds is a run over the first one and then one over the second. -/
theorem forEachModel_append {n : Nat} {step : ResolvedModel → Work σ Unit}
    {models : List ResolvedModel} {r : Progress σ} :
    ∀ {before : List ResolvedModel} {p : Progress σ},
      m.forEachModel reg s n step (before ++ models) p = some (.ok () r) →
      ∃ q, m.forEachModel reg s n step before p = some (.ok () q) ∧
        m.forEachModel reg s n step models q = some (.ok () r) := by
  intro before
  induction before with
  | nil => exact fun h => ⟨_, rfl, h⟩
  | cons model before ih =>
    intro p h
    obtain ⟨q, q', hq, hq', hrest⟩ := forEachModel_cons h
    obtain ⟨u, hu, hr⟩ := ih hrest
    refine ⟨u, ?_, hr⟩
    rw [forEachModel, hq]
    dsimp only
    rw [hq']
    exact hu

/-- A larger allowance leads to the same end of the run. -/
theorem forEachModel_mono {n k : Nat} (hnk : n ≤ k) {step : ResolvedModel → Work σ Unit} :
    ∀ {models : List ResolvedModel} {p : Progress σ} {r : Outcome (Progress σ) Unit},
      m.forEachModel reg s n step models p = some r →
      m.forEachModel reg s k step models p = some r := by
  intro models
  induction models with
  | nil => exact fun h => h
  | cons model models ih =>
    intro p r h
    unfold forEachModel at h ⊢
    split at h
    · exact h
    · split at h
      · cases h
      · next q' hq' =>
        rw [drain_mono hq' hnk]
        exact ih h

/-- A run that takes the step for a model, then the deferred work and then the rest of the run, with
one allowance each. -/
theorem forEachModel_of_cons {step : ResolvedModel → Work σ Unit} {model : ResolvedModel}
    {models : List ResolvedModel} {p q q' : Progress σ} {r : Outcome (Progress σ) Unit} {n k : Nat}
    (hstep : step model p = .ok () q) (hdrain : m.drain reg s n q = some q')
    (hrest : m.forEachModel reg s k step models q' = some r) :
    m.forEachModel reg s (max n k) step (model :: models) p = some r := by
  rw [forEachModel, hstep]
  dsimp only
  rw [drain_mono hdrain (Nat.le_max_left n k)]
  exact forEachModel_mono (Nat.le_max_right n k) hrest

/-- A relation that the step for every model and taking tasks lead along as well is led along by the
run, whether it fails or not. -/
theorem Respects.run_moves {R : Progress σ → Progress σ → Prop} (hR : m.Respects s R)
    (htake : ∀ p queue, R p { p with queue }) {step : ResolvedModel → Work σ Unit}
    (hstep : ∀ model, Moves R (step model)) {n : Nat} :
    ∀ {models : List ResolvedModel} {p : Progress σ} {r : Outcome (Progress σ) Unit},
      m.forEachModel reg s n step models p = some r → R p (Outcome.state r) := by
  intro models
  induction models with
  | nil =>
    intro p r h
    cases h
    exact hR.refl p
  | cons model models ih =>
    intro p r h
    have hm := hstep model p
    unfold after at hm
    rw [forEachModel] at h
    split at h
    · next e q hq =>
      cases h
      rw [hq] at hm
      exact hm
    · next q hq =>
      rw [hq] at hm
      split at h
      · cases h
      · next q' hq' => exact hR.trans _ _ _ (hR.trans _ _ _ hm (hR.drain htake reg n hq')) (ih h)

/-- From where the step for the first model ends, the rest of the run leads along the relation. -/
theorem Respects.run_behind {R : Progress σ → Progress σ → Prop} (hR : m.Respects s R)
    (htake : ∀ p queue, R p { p with queue }) {step : ResolvedModel → Work σ Unit}
    (hstep : ∀ model, Moves R (step model)) {n : Nat} {model : ResolvedModel}
    {models : List ResolvedModel} {p : Progress σ} {r : Outcome (Progress σ) Unit}
    (h : m.forEachModel reg s n step (model :: models) p = some r) :
    R (after (step model) p) (Outcome.state r) := by
  unfold after
  rw [forEachModel] at h
  split at h
  · next e q hq =>
    cases h
    rw [hq]
    exact hR.refl q
  · next q hq =>
    rw [hq]
    split at h
    · cases h
    · next q' hq' => exact hR.trans _ _ _ (hR.drain htake reg n hq') (hR.run_moves htake hstep h)

/-- What the step for a model and the deferred work after it bring about, and the rest of the run
keeps, holds at the end of the run. -/
theorem Respects.run_establishes {R : Progress σ → Progress σ → Prop} (hR : m.Respects s R)
    (htake : ∀ p queue, R p { p with queue }) {step : ResolvedModel → Work σ Unit}
    (hstep : ∀ model, Moves R (step model)) {n : Nat} {Q : ResolvedModel → Progress σ → Prop}
    (hkeep : ∀ model p q, R p q → Q model p → Q model q) :
    ∀ {models : List ResolvedModel} {p r : Progress σ},
      (∀ model ∈ models, ∀ p q q', step model p = .ok () q →
        m.drain reg s n q = some q' → Q model q') →
      m.forEachModel reg s n step models p = some (.ok () r) →
      ∀ model ∈ models, Q model r := by
  intro models
  induction models with
  | nil =>
    intro p r _ _ model hm
    exact absurd hm (by simp)
  | cons first models ih =>
    intro p r hdo h model hm
    obtain ⟨q, q', hq, hq', hrest⟩ := forEachModel_cons h
    rcases List.mem_cons.mp hm with rfl | hm'
    · -- What holds behind the first model, the rest of the run keeps.
      exact hkeep model q' r (hR.run_moves htake hstep hrest) (hdo model (by simp) p q q' hq hq')
    · exact ih (fun model hm => hdo model (List.mem_cons_of_mem first hm)) hrest model hm'

/-- What the step for a model and the deferred work after it keep, the whole run keeps. -/
theorem Respects.run_inv {R : Progress σ → Progress σ → Prop} (hR : m.Respects s R)
    (htake : ∀ p queue, R p { p with queue }) {step : ResolvedModel → Work σ Unit}
    (hstep : ∀ model, Moves R (step model)) {n : Nat} {I : Progress σ → Prop} {r : Progress σ} :
    ∀ {models : List ResolvedModel} {p : Progress σ},
      (∀ model ∈ models, ∀ p q q', I p → step model p = .ok () q →
        m.drain reg s n q = some q' → R q' r → I q') →
      m.forEachModel reg s n step models p = some (.ok () r) → I p → I r := by
  intro models
  induction models with
  | nil =>
    intro p _ h hp
    cases h
    exact hp
  | cons model models ih =>
    intro p hkeep h hp
    obtain ⟨q, q', hq, hq', hrest⟩ := forEachModel_cons h
    exact ih (fun model hm => hkeep model (List.mem_cons_of_mem _ hm)) hrest
      (hkeep model (by simp) p q q' hp hq hq' (hR.run_moves htake hstep hrest))

/-- A run that updates tables leads along every relation that its steps respect. -/
theorem forEachModel_moves {R : Progress σ → Progress σ → Prop} (hR : m.Respects s R)
    (htake : ∀ p queue, R p { p with queue }) {n : Nat} {models : List ResolvedModel}
    {p r : Progress σ} (h : m.forEachModel reg s n (m.updateStep s) models p = some (.ok () r)) :
    R p r :=
  hR.run_moves htake hR.updateStep h

/-- A run that ends without failures starts without any. -/
theorem forEachModel_clean {n : Nat} {models : List ResolvedModel} {p r : Progress σ}
    (h : m.forEachModel reg s n (m.updateStep s) models p = some (.ok () r))
    (hr : r.report.failures = []) : p.report.failures = [] := by
  have hfail := forEachModel_moves (failures_respects m s) (fun _ _ => List.prefix_refl _) h
  rw [hr] at hfail
  exact List.prefix_nil.mp hfail

/-- No task waits at the end of a run. -/
theorem forEachModel_empty {n : Nat} {step : ResolvedModel → Work σ Unit} :
    ∀ {models : List ResolvedModel} {p r : Progress σ},
      m.forEachModel reg s n step models p = some (.ok () r) → p.queue.tasks = [] →
      r.queue.tasks = [] := by
  intro models
  induction models with
  | nil =>
    intro p r h hp
    cases h
    exact hp
  | cons model models ih =>
    intro p r h _
    obtain ⟨q, q', _, hq', hrest⟩ := forEachModel_cons h
    exact ih hrest (drain_empty n hq')

/-- A step that creates a table is that of a model. -/
theorem createStep_ok {model : ResolvedModel} {p q : Progress σ}
    (h : m.createStep s model p = .ok () q) :
    ∃ a, model = .model a ∧ m.createModel s a p = .ok () q := by
  cases model with
  | table name => cases h
  | model a => exact ⟨a, rfl, h⟩

/-- A run of `createTables` that succeeds is a run over the ordered models. -/
theorem createTables_ok {n : Nat} {refs : List ModelRef} {state state' : σ} {report : Report} :
    m.createTables reg s n refs state = some (.ok report state') ↔
      ∃ out q, order reg false refs = .ok out ∧
        m.forEachModel reg s n (m.createStep s) out (m.start state) = some (.ok () q) ∧
        q.report = report ∧ q.session = state' := by
  unfold createTables migrate
  cases ho : order reg false refs with
  | error e => simp
  | ok out =>
    cases hf : m.forEachModel reg s n (m.createStep s) out (m.start state) with
    | none => simp [hf]
    | some r =>
      cases r with
      | ok u q => simp [hf, conclude]
      | error e q => simp [hf, conclude]

/-- A run of `autoMigrate` that succeeds is a run over the ordered models. -/
theorem autoMigrate_ok {n : Nat} {refs : List ModelRef} {state state' : σ} {report : Report} :
    m.autoMigrate reg s n refs state = some (.ok report state') ↔
      ∃ out q, order reg true refs = .ok out ∧
        m.forEachModel reg s n (m.updateStep s) out (m.start state) = some (.ok () q) ∧
        q.report = report ∧ q.session = state' := by
  unfold autoMigrate migrate
  cases ho : order reg true refs with
  | error e => simp
  | ok out =>
    cases hf : m.forEachModel reg s n (m.updateStep s) out (m.start state) with
    | none => simp [hf]
    | some r =>
      cases r with
      | ok u q => simp [hf, conclude]
      | error e q => simp [hf, conclude]

end Migrator

end SchemaMigration
