import SchemaMigration.Proofs.Migration.SideBySide

/-!
# Keeping a history changes nothing else

A recorded session answers and refuses as the session itself does.  So a migration on it does, but
for the history, what the migration does on the session itself (`migrate_recorded`), failing or not,
and with the same allowance.  What is shown of the history of a run is thereby shown of every run.
-/

namespace SchemaMigration

/-- The same end, seen through a function on the states. -/
def Outcome.through {σ τ α : Type} (f : σ → τ) : Outcome σ α → Outcome τ α
  | .ok x s => .ok x (f s)
  | .error e s => .error e (f s)

/-- The same stage, seen through a function on the states of the session. -/
def Progress.through {σ τ : Type} (f : σ → τ) (p : Progress σ) : Progress τ :=
  ⟨f p.session, p.report, p.queue⟩

namespace Action

variable {σ τ α β : Type} {f : σ → τ}

/-- Seen through `f`, step `a` does what step `b` does. -/
def Shows (f : σ → τ) (a : Action σ α) (b : Action τ α) : Prop :=
  ∀ s, Outcome.through f (a s) = b (f s)

theorem shows_pure (x : α) : Shows f (pure x) (pure x) := fun _ => rfl

theorem shows_throw (e : MigrationError) :
    Shows f (throw e : Action σ α) (throw e) := fun _ => rfl

theorem Shows.bind {a : Action σ α} {b : Action τ α} {k : α → Action σ β} {l : α → Action τ β}
    (h : Shows f a b) (hk : ∀ x, Shows f (k x) (l x)) : Shows f (a >>= k) (b >>= l) := by
  intro s
  have hs := h s
  show Outcome.through f (EStateM.bind a k s) = EStateM.bind b l (f s)
  unfold EStateM.bind
  rw [← hs]
  cases a s with
  | ok x t => exact hk x t
  | error e t => rfl

end Action

open SchemaMigration.Action (Shows shows_pure shows_throw)

namespace Session

variable {σ : Type}

theorem shows_recordedAction {α : Type} (call : Call) (a : Action σ α) :
    Shows Prod.fst (recordedAction call a) a := by
  intro x
  unfold recordedAction
  cases a x.1 <;> rfl

/-- A question is answered as it is without the history. -/
theorem recorded_affirms (s : Session σ) (d : Dialect) (question : String → CatalogQuery)
    (x : σ × List Exchange) : ((s.recorded.affirms d question x).1,
      (s.recorded.affirms d question x).2.1) = s.affirms d question x.1 := by
  have hdatabase : Shows Prod.fst (s.recorded.currentDatabase d) (s.currentDatabase d) := by
    refine Shows.bind (shows_recordedAction _ _) fun rows => ?_
    split
    · exact shows_pure _
    · exact shows_throw _
  have hx := hdatabase x
  unfold affirms
  rw [← hx]
  cases s.recorded.currentDatabase d x with
  | error e y => rfl
  | ok database y =>
    have hy := shows_recordedAction (.query (question database)) (s.query (question database)) y
    dsimp only [Outcome.through]
    rw [← hy]
    show (_, _) = _
    dsimp only [recorded]
    cases recordedAction (.query (question database)) (s.query (question database)) y <;> rfl

end Session

namespace Migrator

variable {σ : Type} {m : Migrator} {reg : Registry} {s : Session σ}

/-- Without the history, step `a` is step `b`. -/
def Unrecorded {α : Type} (a : Work (σ × List Exchange) α) (b : Work σ α) : Prop :=
  Shows (Progress.through Prod.fst) a b

theorem unrecorded_onSession {α : Type} {a : Action (σ × List Exchange) α} {b : Action σ α}
    (h : Shows Prod.fst a b) : Unrecorded (Work.onSession a) (Work.onSession b) := by
  intro p
  have hp : Outcome.through Prod.fst (a p.session) = b (p.through Prod.fst).session := h p.session
  unfold Work.onSession
  rw [← hp]
  cases a p.session <;> rfl

theorem unrecorded_ask (d : Dialect) (question : String → CatalogQuery) :
    Unrecorded (Work.onSession (.ask (s.recorded.affirms d question)))
      (Work.onSession (.ask (s.affirms d question))) := by
  refine unrecorded_onSession fun x => ?_
  exact congrArg (fun r => EStateM.Result.ok r.1 r.2) (s.recorded_affirms d question x)

theorem unrecorded_schedule (ts : List Task) :
    Unrecorded (σ := σ) (Work.schedule ts) (Work.schedule ts) := fun _ => rfl

theorem unrecorded_carryOut (change : Change) :
    Unrecorded (m.carryOut s.recorded change) (m.carryOut s change) := by
  refine Shows.bind (unrecorded_onSession ?_) fun _ _ => rfl
  unfold perform
  split
  · exact shows_pure ()
  · exact Session.shows_recordedAction _ _

/-- Whatever a migration does is the same without the history. -/
theorem unrecorded_relates (m : Migrator) (s : Session σ) :
    m.Relates m s.recorded s fun _ => Unrecorded where
  plan _ := rfl
  additions _ := rfl
  pure := shows_pure
  throw := shows_throw
  bind := Shows.bind
  asking := unrecorded_ask m.dialect
  carrying := unrecorded_carryOut
  scheduling := unrecorded_schedule

theorem attempt_recorded (reg : Registry) (t : Task) (p : Progress (σ × List Exchange)) :
    (m.attempt reg s.recorded t p).through Prod.fst = m.attempt reg s t (p.through Prod.fst) := by
  have hp := (unrecorded_relates m s).runTask reg t p
  unfold attempt
  rw [← hp]
  cases m.runTask reg s.recorded t p <;> rfl

theorem drain_recorded : ∀ (n : Nat) (p : Progress (σ × List Exchange)),
    (m.drain reg s.recorded n p).map (·.through Prod.fst) =
      m.drain reg s n (p.through Prod.fst) := by
  intro n
  induction n with
  | zero =>
    intro p
    have hqueue : (p.through Prod.fst).queue = p.queue := rfl
    unfold drain
    rw [hqueue]
    cases p.queue.pop? <;> rfl
  | succ n ih =>
    intro p
    have hqueue : (p.through Prod.fst).queue = p.queue := rfl
    unfold drain
    rw [hqueue]
    cases p.queue.pop? with
    | none => rfl
    | some x =>
      obtain ⟨t, queue⟩ := x
      show Option.map _ (m.drain reg s.recorded n _) = m.drain reg s n _
      rw [ih, attempt_recorded]
      rfl

theorem forEachModel_recorded {n : Nat}
    {step' : ResolvedModel → Work (σ × List Exchange) Unit} {step : ResolvedModel → Work σ Unit}
    (hstep : ∀ model, Unrecorded (step' model) (step model)) :
    ∀ (models : List ResolvedModel) (p : Progress (σ × List Exchange)),
      (m.forEachModel reg s.recorded n step' models p).map
          (Outcome.through (·.through Prod.fst)) =
        m.forEachModel reg s n step models (p.through Prod.fst) := by
  intro models
  induction models with
  | nil => exact fun _ => rfl
  | cons model models ih =>
    intro p
    have hp := hstep model p
    unfold forEachModel
    rw [← hp]
    cases step' model p with
    | error e q => rfl
    | ok _ q =>
      dsimp only [Outcome.through]
      rw [← drain_recorded]
      cases m.drain reg s.recorded n q with
      | none => rfl
      | some q' => exact ih q'

/-- What a run hands out is the same without the history. -/
theorem conclude_recorded (r : Outcome (Progress (σ × List Exchange)) Unit) :
    Outcome.through Prod.fst (conclude r) =
      conclude (Outcome.through (·.through Prod.fst) r) := by
  cases r <;> rfl

/-- **The history on the side.**  Whatever comes out of a migration on a session comes out of it on
the recorded session, and nothing else does. -/
theorem migrate_recorded (m : Migrator) (reg : Registry) (s : Session σ) (n : Nat) (discover : Bool)
    {step' : ResolvedModel → Work (σ × List Exchange) Unit} {step : ResolvedModel → Work σ Unit}
    (hstep : ∀ model, Unrecorded (step' model) (step model)) (refs : List ModelRef)
    (x : σ × List Exchange) :
    (m.migrate reg s.recorded n discover step' refs x).map (Outcome.through Prod.fst) =
      m.migrate reg s n discover step refs x.1 := by
  unfold migrate
  cases order reg discover refs with
  | error e => rfl
  | ok out =>
    show Option.map _ (Option.map conclude _) = Option.map conclude _
    rw [show m.start x.1 = (m.start x).through Prod.fst from rfl, ← forEachModel_recorded hstep,
      Option.map_map, Option.map_map]
    exact congrArg (Option.map · _) (funext conclude_recorded)

theorem autoMigrate_recorded (m : Migrator) (reg : Registry) (s : Session σ) (n : Nat)
    (refs : List ModelRef) (x : σ × List Exchange) :
    (m.autoMigrate reg s.recorded n refs x).map (Outcome.through Prod.fst) =
      m.autoMigrate reg s n refs x.1 :=
  migrate_recorded m reg s n true (unrecorded_relates m s).updateStep refs x

theorem createTables_recorded (m : Migrator) (reg : Registry) (s : Session σ) (n : Nat)
    (refs : List ModelRef) (x : σ × List Exchange) :
    (m.createTables reg s.recorded n refs x).map (Outcome.through Prod.fst) =
      m.createTables reg s n refs x.1 :=
  migrate_recorded m reg s n false (unrecorded_relates m s).createStep refs x

theorem dropTables_recorded (m : Migrator) (reg : Registry) (s : Session σ) (refs : List ModelRef)
    (x : σ × List Exchange) :
    Outcome.through Prod.fst (m.dropTables reg s.recorded refs x) =
      m.dropTables reg s refs x.1 := by
  unfold dropTables
  cases order reg false refs with
  | error e => rfl
  | ok out =>
    have hrelates := unrecorded_relates m s
    have hdrops := hrelates.forM (fun model : ResolvedModel =>
      hrelates.carrying (.dropTable model.tableName)) out.reverse (m.start x)
    exact (conclude_recorded _).trans (congrArg conclude hdrops)

/-- What ends with success without the history does so with one. -/
theorem exists_through {α : Type} {r : Outcome (σ × List Exchange) α} {y : α} {state' : σ}
    (h : Outcome.through Prod.fst r = .ok y state') : ∃ history, r = .ok y (state', history) := by
  cases r with
  | error e x => cases h
  | ok y' x =>
    cases h
    exact ⟨x.2, rfl⟩

/-- A run that succeeds on a session has a history. -/
theorem exists_history {n : Nat} {refs : List ModelRef} {state state' : σ} {report : Report}
    (h : m.autoMigrate reg s n refs state = some (.ok report state')) :
    ∃ history, m.autoMigrate reg s.recorded n refs (state, []) =
      some (.ok report (state', history)) := by
  have hsame := autoMigrate_recorded m reg s n refs (state, [])
  rw [h] at hsame
  obtain ⟨r, hr, hthrough⟩ := Option.map_eq_some_iff.mp hsame
  obtain ⟨history, rfl⟩ := exists_through hthrough
  exact ⟨history, hr⟩

/-- Tables that are created on a session with success are created with a history. -/
theorem exists_history_createTables {n : Nat} {refs : List ModelRef} {state state' : σ}
    {report : Report} (h : m.createTables reg s n refs state = some (.ok report state')) :
    ∃ history, m.createTables reg s.recorded n refs (state, []) =
      some (.ok report (state', history)) := by
  have hsame := createTables_recorded m reg s n refs (state, [])
  rw [h] at hsame
  obtain ⟨r, hr, hthrough⟩ := Option.map_eq_some_iff.mp hsame
  obtain ⟨history, rfl⟩ := exists_through hthrough
  exact ⟨history, hr⟩

end Migrator

end SchemaMigration
