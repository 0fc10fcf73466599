import SchemaMigration.Proofs.Migration.CreatedOnce
import SchemaMigration.Proofs.Migration.Creation
import SchemaMigration.Proofs.Migration.Reported
import SchemaMigration.Proofs.Migration.UnusableReferences

/-!
# Errors that are said to come before anything is sent

An error that is not the database's own is said to have arisen before anything reached the database
(`MigrationError.isClientSide`).  It is so for references that cannot be used.  But the types of the
columns are looked up table by table, between the changes.  So a column without a type stops the
migration only when its table has its turn, and what was made for the tables before it stays
(`clientSide_changes`).
-/

namespace SchemaMigration

/-! ## Why a step fails -/

namespace Action

variable {σ α β : Type} {R : MigrationError → Prop}

/-- The step fails for reasons of this kind only. -/
def FailsOnly (R : MigrationError → Prop) (a : Action σ α) : Prop :=
  ∀ x e y, a x = .error e y → R e

theorem FailsOnly.mono {R' : MigrationError → Prop} {a : Action σ α} (h : FailsOnly R a)
    (hR : ∀ e, R e → R' e) : FailsOnly R' a :=
  fun x e y hx => hR e (h x e y hx)

theorem failsOnly_pure (x : α) : FailsOnly (σ := σ) R (pure x) := by
  intro y e z h
  cases h

theorem failsOnly_ofExcept {x : Except MigrationError α} (h : ∀ e, x = .error e → R e) :
    FailsOnly (σ := σ) R (ofExcept x) := by
  intro y e z hy
  cases x with
  | ok a => cases hy
  | error e' =>
    cases hy
    exact h e rfl

theorem FailsOnly.bind {a : Action σ α} {f : α → Action σ β} (h : FailsOnly R a)
    (hf : ∀ x, FailsOnly R (f x)) : FailsOnly R (a >>= f) := by
  intro s e t hs
  cases ha : a s with
  | ok x u =>
    rw [bind_of_ok ha] at hs
    exact hf x u e t hs
  | error e' u =>
    rw [bind_of_error ha] at hs
    cases hs
    exact h s e t ha

theorem failsOnly_forM {f : α → Action σ Unit} {xs : List α} (h : ∀ x ∈ xs, FailsOnly R (f x)) :
    FailsOnly R (xs.forM f) := by
  induction xs with
  | nil => exact failsOnly_pure ()
  | cons x xs ih =>
    exact (h x List.mem_cons_self).bind fun _ => ih fun y hy => h y (List.mem_cons_of_mem x hy)

end Action

open SchemaMigration.Action (FailsOnly failsOnly_pure failsOnly_ofExcept failsOnly_forM)

/-- What the session fails with when a change is refused is not said to be the client's. -/
def Session.OwnsRefusals {σ : Type} (s : Session σ) : Prop :=
  ∀ change, FailsOnly (·.isClientSide = false) (s.execute change)

/-- A column of the model has no type. -/
def Model.Untyped (d : Dialect) (a : Model) : Prop :=
  ∃ c ∈ a.columns, Text.isBlank (d.typeText c) = true

/-- The error is about a column of the model that has no type. -/
def Model.Blames (d : Dialect) (a : Model) (e : MigrationError) : Prop :=
  ∃ c ∈ a.columns, Text.isBlank (d.typeText c) = true ∧ e = .emptyDataType a.table c.name

theorem Dialect.columnType_eq_error_iff {d : Dialect} {table : String} {c : Column}
    {e : MigrationError} : d.columnType table c = .error e ↔
      Text.isBlank (d.typeText c) = true ∧ e = .emptyDataType table c.name := by
  unfold columnType
  split
  · next h => simp [h, eq_comm]
  · next h => simp [h]

theorem Model.blames_of_plan {d : Dialect} {config : Config} {a : Model} {e : MigrationError}
    (h : a.plan d config = .error e) : a.Blames d e := by
  unfold Model.plan at h
  split at h
  · next htyped =>
    cases h
    obtain ⟨before, c, after, hcut, -, hc⟩ := Model.typedColumns_eq_error_iff.mp htyped
    exact ⟨c, by simp [hcut], Dialect.columnType_eq_error_iff.mp hc⟩
  · cases h

theorem Model.blames_of_mem_additions {d : Dialect} {config : Config} {a : Model}
    {x : Part × Except MigrationError Change} (hx : x ∈ a.additions d config) {e : MigrationError}
    (h : x.2 = .error e) : a.Blames d e := by
  simp only [additions, List.mem_append, List.mem_map] at hx
  rcases hx with ((⟨c, hc, rfl⟩ | ⟨k, -, rfl⟩) | ⟨k, -, rfl⟩) | hx
  · dsimp only [Change.addDeclared] at h
    cases htype : d.fullColumnType a.table c with
    | error e' =>
      rw [htype] at h
      cases h
      exact ⟨c, hc,
        Dialect.columnType_eq_error_iff.mp (Dialect.fullColumnType_eq_error_iff.mp htype)⟩
    | ok type =>
      rw [htype] at h
      cases h
  · cases h
  · cases h
  · split at hx
    · obtain ⟨i, -, rfl⟩ := List.mem_map.mp hx
      cases h
    · exact absurd hx List.not_mem_nil

/-- A model has a plan unless it has a column without a type. -/
theorem Model.exists_plan_iff {d : Dialect} {config : Config} {a : Model} :
    (∃ plan, a.plan d config = .ok plan) ↔ ¬ a.Untyped d := by
  constructor
  · rintro ⟨plan, h⟩ ⟨c, hc, hblank⟩
    unfold Model.plan at h
    split at h
    · cases h
    · next typed htyped =>
      obtain ⟨type, htype⟩ := Model.exists_typedColumns_iff.mp ⟨typed, htyped⟩ c hc
      cases htype.symm.trans (Dialect.columnType_eq_error_iff.mpr ⟨hblank, rfl⟩)
  · intro h
    refine Model.plan_of_typed config fun c hc => ?_
    exact Bool.eq_false_iff.mpr fun hblank => h ⟨c, hc, hblank⟩

namespace Migrator

open SchemaMigration.Action (Moves after)

variable {σ : Type} {m : Migrator} {reg : Registry} {s : Session σ}

/-- The error is the session's own, or about a column of the model that has no type. -/
def OwnOrBlames (d : Dialect) (a : Model) (e : MigrationError) : Prop :=
  e.isClientSide = false ∨ a.Blames d e

theorem failsOnly_ask {R : MigrationError → Prop} {τ : Type} (question : τ → Bool × τ) :
    FailsOnly R (Work.onSession (.ask question)) := by
  intro p e q h
  cases h

theorem failsOnly_schedule {R : MigrationError → Prop} {τ : Type} (ts : List Task) :
    FailsOnly (σ := Progress τ) R (Work.schedule ts) := by
  intro p e q h
  cases h

theorem failsOnly_carryOut (hs : s.OwnsRefusals) (m : Migrator) (change : Change) :
    FailsOnly (·.isClientSide = false) (m.carryOut s change) := by
  refine FailsOnly.bind (fun p e q h => ?_) fun _ p e q h => by cases h
  unfold Work.onSession at h
  split at h
  · cases h
  · next e' state hperform =>
    cases h
    unfold perform at hperform
    split at hperform
    · cases hperform
    · exact hs change _ _ _ hperform

/-- A table cannot be created because the session refuses it, or because a column has no type. -/
theorem failsOnly_createModel (hs : s.OwnsRefusals) (m : Migrator) (a : Model) :
    FailsOnly (OwnOrBlames m.dialect a) (m.createModel s a) := by
  refine FailsOnly.bind (failsOnly_ofExcept fun e h => Or.inr (Model.blames_of_plan h))
    fun plan => ?_
  exact ((failsOnly_carryOut hs m plan.change).mono fun _ => Or.inl).bind
    fun _ => failsOnly_schedule _

/-- What an existing table lacks cannot be added for the same reasons. -/
theorem failsOnly_updateModel (hs : s.OwnsRefusals) (m : Migrator) (a : Model) :
    FailsOnly (OwnOrBlames m.dialect a) (m.updateModel s a) := by
  rw [updateModel_eq]
  refine FailsOnly.bind (failsOnly_forM fun x hx => ?_) fun _ => failsOnly_schedule _
  refine FailsOnly.bind (failsOnly_ask _) fun there => ?_
  cases there with
  | true => exact failsOnly_pure ()
  | false =>
    exact FailsOnly.bind
      (failsOnly_ofExcept fun e h => Or.inr (Model.blames_of_mem_additions hx h))
      fun change => (failsOnly_carryOut hs m change).mono fun _ => Or.inl

/-- So it is with the step for a model. -/
theorem failsOnly_updateStep (hs : s.OwnsRefusals) (m : Migrator) (a : Model) :
    FailsOnly (OwnOrBlames m.dialect a) (m.updateStep s (.model a)) := by
  refine FailsOnly.bind (failsOnly_ask _) fun there => ?_
  cases there with
  | true => exact failsOnly_updateModel hs m a
  | false => exact failsOnly_createModel hs m a

/-- A run fails as the step for one of the models does. -/
theorem forEachModel_error {n : Nat} {step : ResolvedModel → Work σ Unit} {e : MigrationError}
    {models : List ResolvedModel} :
    ∀ {p q : Progress σ}, m.forEachModel reg s n step models p = some (.error e q) →
      ∃ model ∈ models, ∃ p', step model p' = .error e q := by
  induction models with
  | nil =>
    intro p q h
    cases h
  | cons model models ih =>
    intro p q h
    rw [forEachModel] at h
    split at h
    · next e' q' hq =>
      cases h
      exact ⟨model, List.mem_cons_self, p, hq⟩
    · split at h
      · cases h
      · obtain ⟨b, hb, hfails⟩ := ih h
        exact ⟨b, List.mem_cons_of_mem model hb, hfails⟩

/-- An error that a migration hands out is that of the run over the models. -/
theorem conclude_error {r : Option (Outcome (Progress σ) Unit)} {e : MigrationError} {x : σ}
    (h : r.map conclude = some (.error e x)) :
    ∃ q, r = some (.error e q) ∧ q.session = x := by
  obtain ⟨u, rfl, hu⟩ := Option.map_eq_some_iff.mp h
  cases u with
  | ok _ q => cases hu
  | error e' q =>
    cases hu
    exact ⟨q, rfl, rfl⟩

/-! ## What was sent before -/

/-- Where changes are only planned, none is sent, however the run ends. -/
theorem changesOf_dry (hdry : m.config.dryRun = true)
    {step : ResolvedModel → Work (σ × List Exchange) Unit}
    (hstep : ∀ model, Moves m.KeepsAccounts (step model)) {n : Nat} {models : List ResolvedModel}
    {state : σ} {r : Outcome (Progress (σ × List Exchange)) Unit}
    (h : m.forEachModel reg s.recorded n step models (m.start (state, [])) = some r) :
    changesOf (Outcome.state r).session.2 = [] :=
  ((keepsAccounts_respects m s).run_moves (fun _ _ hp => ⟨hp.executed, hp.planned⟩) hstep h
    (accounted_start m state)).planned hdry

/-- A model that has a plan is not passed without a change in a real run. -/
theorem createModel_changes (hreal : m.config.dryRun = false) (s : Session σ) {a : Model}
    {plan : TablePlan} (hplan : a.plan m.dialect m.config = .ok plan)
    (P : Progress (σ × List Exchange)) :
    changesOf (after (m.createModel s.recorded a) P).session.2 ≠ [] := by
  have hrest : Remembers (after (m.carryOut s.recorded plan.change) P)
      (after (m.createModel s.recorded a) P) := by
    unfold createModel
    rw [hplan]
    exact Action.after_bind (R := Remembers) (fun _ => List.prefix_rfl)
      (f := fun _ => Work.schedule (laterTasks a.table plan)) (fun _ _ => List.prefix_rfl)
      (m.carryOut s.recorded plan.change) P
  exact changesOf_remembered hrest (carryOut_changes hreal s plan.change P)

theorem recorded_ownsRefusals (hs : s.OwnsRefusals) : s.recorded.OwnsRefusals := by
  intro change x e y h
  change Session.recordedAction _ (s.execute change) x = _ at h
  unfold Session.recordedAction at h
  split at h
  · cases h
  · next e' state hrefused =>
    cases h
    exact hs change _ _ _ hrefused

theorem catalog_ownsRefusals (d : Dialect) (database : String) :
    (Catalog.session d database).OwnsRefusals := by
  intro change c e c' h
  dsimp only [Catalog.session] at h
  split at h
  · cases h
  · cases h
    rfl

/-- The error is about a reference, and then nothing was sent; or about a column of an ordered model
that has no type. -/
def ClientFault (d : Dialect) (reg : Registry) (discover : Bool) (refs : List ModelRef)
    (e : MigrationError) (history : List Exchange) : Prop :=
  (∃ cause, e = .parse cause) ∧ changesOf history = [] ∨
    ∃ out a, order reg discover refs = .ok out ∧ .model a ∈ out ∧ a.Blames d e

/-- A run that only plans to update the tables of these models fails for the same reason before it
has planned anything. -/
def FailsUnplanned (m : Migrator) (reg : Registry) (s : Session σ) (n : Nat)
    (models : List ResolvedModel) (state : σ) (e : MigrationError) : Prop :=
  ∃ q, m.planning.forEachModel reg s n (m.planning.updateStep s) models (m.planning.start state) =
    some (.error e q) ∧ q.report.executed = []

/-! ## The two operations -/

/-- Creating tables fails for a literal name, before the first step, or for a column of a model. -/
theorem createStep_fault (hs : s.OwnsRefusals) {n : Nat} {refs : List ModelRef} {state : σ}
    {out : List ResolvedModel} (ho : order reg false refs = .ok out) {e : MigrationError}
    {q : Progress (σ × List Exchange)}
    (h : m.forEachModel reg s.recorded n (m.createStep s.recorded) out (m.start (state, [])) =
      some (.error e q)) (hclient : e.isClientSide = true) :
    ClientFault m.dialect reg false refs e q.session.2 := by
  obtain ⟨placed, hout⟩ := order_literals ho
  cases hnames : refs.filterMap (·.literal?) with
  | cons name names =>
    rw [hnames] at hout
    subst hout
    cases h
    exact Or.inl ⟨⟨_, rfl⟩, rfl⟩
  | nil =>
    rw [hnames, List.map_nil, List.nil_append] at hout
    subst hout
    obtain ⟨_, hmem, p, hfails⟩ := forEachModel_error h
    obtain ⟨b, hb, rfl⟩ := List.mem_map.mp hmem
    exact Or.inr ⟨_, b, ho, hmem,
      (failsOnly_createModel (recorded_ownsRefusals hs) m b p e q hfails).resolve_left
        (by simp [hclient])⟩

/-- Updating tables fails for a literal name whose table is not there, before the first model, or
for a column of a model. -/
theorem updateStep_fault (hs : s.OwnsRefusals) {n : Nat} {refs : List ModelRef} {state : σ}
    {out : List ResolvedModel} (ho : order reg true refs = .ok out) {e : MigrationError}
    {q : Progress (σ × List Exchange)}
    (h : m.forEachModel reg s.recorded n (m.updateStep s.recorded) out (m.start (state, [])) =
      some (.error e q)) (hclient : e.isClientSide = true) :
    ClientFault m.dialect reg true refs e q.session.2 := by
  obtain ⟨placed, rfl⟩ := order_literals ho
  obtain ⟨asked, hnone, hrecorded⟩ :=
    s.firstMissing_recorded (d := m.dialect) (refs.filterMap (·.literal?)) state []
  rw [forEachModel_literals rfl, show (m.start (state, [])).session = (state, []) from rfl,
    hrecorded] at h
  cases hmissing : s.firstMissing m.dialect (refs.filterMap (·.literal?)) state with
  | mk missing state₁ =>
    rw [hmissing] at h
    cases missing with
    | some name =>
      cases h
      exact Or.inl ⟨⟨_, rfl⟩, hnone⟩
    | none =>
      obtain ⟨_, hmem, p, hfails⟩ := forEachModel_error h
      obtain ⟨b, hb, rfl⟩ := List.mem_map.mp hmem
      exact Or.inr ⟨_, b, ho, List.mem_append_right _ hmem,
        (failsOnly_updateStep (recorded_ownsRefusals hs) m b p e q hfails).resolve_left
          (by simp [hclient])⟩

/-- A real run that creates tables and fails has sent nothing exactly if a model that comes first
has no plan. -/
theorem createStep_unchanged_iff (hreal : m.config.dryRun = false) {n : Nat}
    {out : List ResolvedModel} {state : σ} {e : MigrationError}
    {q : Progress (σ × List Exchange)}
    (h : m.forEachModel reg s.recorded n (m.createStep s.recorded) out (m.start (state, [])) =
      some (.error e q)) :
    changesOf q.session.2 = [] ↔ ∀ a rest, out = .model a :: rest → a.Untyped m.dialect := by
  cases out with
  | nil => cases h
  | cons model rest =>
    cases model with
    | table name =>
      cases h
      exact iff_of_true rfl (by simp)
    | model a =>
      have hfirst : (∀ b models, ResolvedModel.model a :: rest = .model b :: models →
          b.Untyped m.dialect) ↔ a.Untyped m.dialect := by
        refine ⟨fun h => h a rest rfl, fun huntyped b models heq => ?_⟩
        cases heq
        exact huntyped
      rw [hfirst]
      cases hplan : a.plan m.dialect m.config with
      | ok plan =>
        -- The table is sent, and then something was.
        have hrest := (s.remembers_respects m).run_behind (fun _ _ => List.prefix_rfl)
          (s.remembers_respects m).createStep h
        exact iff_of_false (changesOf_remembered hrest (createModel_changes hreal s hplan _))
          (Model.exists_plan_iff.mp ⟨plan, hplan⟩)
      | error e' =>
        -- The run ends where it began.
        have hstep : m.createStep s.recorded (.model a) (m.start (state, [])) =
            .error e' (m.start (state, [])) := createModel_unplanned hplan _
        rw [forEachModel, hstep] at h
        cases h
        refine iff_of_true rfl (not_not.mp fun htyped => ?_)
        obtain ⟨plan, hplan'⟩ := Model.exists_plan_iff.mpr htyped
        cases hplan.symm.trans hplan'

/-- A real run that updates tables and fails has sent nothing exactly if the run that only plans
fails in the same way with nothing planned. -/
theorem updateStep_unchanged_iff (hreal : m.config.dryRun = false) {n : Nat}
    {out : List ResolvedModel} {state : σ} {e : MigrationError}
    {q : Progress (σ × List Exchange)}
    (h : m.forEachModel reg s.recorded n (m.updateStep s.recorded) out (m.start (state, [])) =
      some (.error e q)) :
    changesOf q.session.2 = [] ↔ m.FailsUnplanned reg s n out state e := by
  have hstart : InTune (m.start (state, [])) (m.planning.start state) := ⟨rfl, rfl, rfl, rfl⟩
  rcases hstart.run hreal h with ⟨r', hr', halike⟩ | hapart
  · -- Both runs end without a change and without a statement.
    cases halike with
    | error _ h' => exact iff_of_true h'.changes ⟨_, hr', h'.executed⟩
  · refine iff_of_false hapart.1 ?_
    rintro ⟨q', hq', hempty⟩
    exact hapart.2 _ hq' hempty

theorem createTables_clientSide (hs : s.OwnsRefusals) {n : Nat} {refs : List ModelRef} {state : σ}
    {e : MigrationError} {state' : σ} {history : List Exchange}
    (hrun : m.createTables reg s.recorded n refs (state, []) =
      some (.error e (state', history)))
    (hclient : e.isClientSide = true) :
    ClientFault m.dialect reg false refs e history ∧
      (changesOf history = [] ↔ m.config.dryRun = true ∨
        ∀ a rest, order reg false refs = .ok (.model a :: rest) → a.Untyped m.dialect) := by
  unfold createTables migrate at hrun
  cases ho : order reg false refs with
  | error cause =>
    rw [ho] at hrun
    cases hrun
    exact ⟨Or.inl ⟨⟨cause, rfl⟩, rfl⟩, iff_of_true rfl (Or.inr fun a rest h => by cases h)⟩
  | ok out =>
    rw [ho] at hrun
    obtain ⟨q, hq, hsession⟩ := conclude_error hrun
    have hhistory : q.session.2 = history := congrArg Prod.snd hsession
    rw [← hhistory]
    refine ⟨createStep_fault hs ho hq hclient, ?_⟩
    cases hdry : m.config.dryRun with
    | true =>
      exact iff_of_true (changesOf_dry hdry (keepsAccounts_respects m s).createStep hq)
        (Or.inl rfl)
    | false =>
      rw [createStep_unchanged_iff hdry hq]
      simp

theorem autoMigrate_clientSide (hs : s.OwnsRefusals) {n : Nat} {refs : List ModelRef} {state : σ}
    {e : MigrationError} {state' : σ} {history : List Exchange}
    (hrun : m.autoMigrate reg s.recorded n refs (state, []) =
      some (.error e (state', history)))
    (hclient : e.isClientSide = true) :
    ClientFault m.dialect reg true refs e history ∧
      (changesOf history = [] ↔ m.config.dryRun = true ∨
        ∀ out, order reg true refs = .ok out → m.FailsUnplanned reg s n out state e) := by
  unfold autoMigrate migrate at hrun
  cases ho : order reg true refs with
  | error cause =>
    rw [ho] at hrun
    cases hrun
    exact ⟨Or.inl ⟨⟨cause, rfl⟩, rfl⟩, iff_of_true rfl (Or.inr fun out h => by cases h)⟩
  | ok out =>
    rw [ho] at hrun
    obtain ⟨q, hq, hsession⟩ := conclude_error hrun
    have hhistory : q.session.2 = history := congrArg Prod.snd hsession
    rw [← hhistory]
    refine ⟨updateStep_fault hs ho hq hclient, ?_⟩
    cases hdry : m.config.dryRun with
    | true =>
      exact iff_of_true (changesOf_dry hdry (keepsAccounts_respects m s).updateStep hq)
        (Or.inl rfl)
    | false =>
      rw [updateStep_unchanged_iff hdry hq]
      simp

/-- **Errors of the client and what was sent before.**  Take any session that does not claim to be
the client when it refuses a change.  If `createTables` or `autoMigrate` fails with an error that is
said to be the client's, then this error is about a reference, and nothing was sent, or about a
column without a type of an ordered model.

Nothing was sent exactly if the run was a dry one or, for `createTables`, if the first of the
ordered models has a column without a type; for `autoMigrate`, if a run that only plans fails for
the same reason with nothing planned. -/
theorem clientSide_changes (m : Migrator) (reg : Registry) (s : Session σ) (hs : s.OwnsRefusals)
    (n : Nat) (refs : List ModelRef) (state : σ) :
    (∀ e state' history,
      m.createTables reg s.recorded n refs (state, []) = some (.error e (state', history)) →
      e.isClientSide = true →
        ClientFault m.dialect reg false refs e history ∧
        (changesOf history = [] ↔ m.config.dryRun = true ∨
          ∀ a rest, order reg false refs = .ok (.model a :: rest) → a.Untyped m.dialect)) ∧
    ∀ e state' history,
      m.autoMigrate reg s.recorded n refs (state, []) = some (.error e (state', history)) →
      e.isClientSide = true →
        ClientFault m.dialect reg true refs e history ∧
        (changesOf history = [] ↔ m.config.dryRun = true ∨
          ∀ out, order reg true refs = .ok out → m.FailsUnplanned reg s n out state e) :=
  ⟨fun _ _ _ => createTables_clientSide hs, fun _ _ _ => autoMigrate_clientSide hs⟩

/-- A table whose only column has an empty type of its own. -/
def notes : Model where
  table := "notes"
  columns := [{ field := "body", name := "body", dataType := .custom "" }]

/-- Notes that come first stop the creation before anything is sent; and so do notes behind a table
that is there already, where tables are updated. -/
theorem clientSide_changes_notes :
    (∃ c history, plainMigrator.createTables spokenRegistry
        (Catalog.session Mysql.dialect "app").recorded 1 [.model notes, .model languages] ({}, []) =
      some (.error (.emptyDataType "notes" "body") (c, history)) ∧ changesOf history = []) ∧
    ∃ c history, plainMigrator.autoMigrate spokenRegistry
        (Catalog.session Mysql.dialect "app").recorded 1 [.model languages, .model notes]
        (speakersAfter, []) =
      some (.error (.emptyDataType "notes" "body") (c, history)) ∧ changesOf history = [] := by
  have hs := catalog_ownsRefusals Mysql.dialect "app"
  obtain ⟨c, history, hcreate⟩ : ∃ c history, plainMigrator.createTables spokenRegistry
      (Catalog.session Mysql.dialect "app").recorded 1 [.model notes, .model languages] ({}, []) =
      some (.error (.emptyDataType "notes" "body") (c, history)) :=
    ⟨_, _, by with_unfolding_all rfl⟩
  obtain ⟨c', history', hupdate⟩ : ∃ c history, plainMigrator.autoMigrate spokenRegistry
      (Catalog.session Mysql.dialect "app").recorded 1 [.model languages, .model notes]
      (speakersAfter, []) = some (.error (.emptyDataType "notes" "body") (c, history)) :=
    ⟨_, _, by with_unfolding_all rfl⟩
  refine ⟨⟨c, history, hcreate, ?_⟩, c', history', hupdate, ?_⟩
  · refine ((clientSide_changes plainMigrator spokenRegistry _ hs 1 _ {}).1 _ _ _ hcreate
      rfl).2.mpr (Or.inr fun a rest ho => ?_)
    have horder : order spokenRegistry false [.model notes, .model languages] =
        .ok [.model notes, .model languages] := by with_unfolding_all rfl
    cases horder.symm.trans ho
    exact ⟨_, List.mem_singleton_self _, by decide +kernel⟩
  · refine ((clientSide_changes plainMigrator spokenRegistry _ hs 1 _ speakersAfter).2 _ _ _ hupdate
      rfl).2.mpr (Or.inr fun out ho => ?_)
    have horder : order spokenRegistry true [.model languages, .model notes] =
        .ok [.model languages, .model notes] := by with_unfolding_all rfl
    cases horder.symm.trans ho
    exact ⟨_, by with_unfolding_all rfl, rfl⟩

/-- Behind languages, which are created, the notes fail with an error that is said to be the
client's. -/
theorem createTables_late_notes :
    notes.IsBuilt ∧ MigrationError.isClientSide (.emptyDataType "notes" "body") = true ∧
      (setback (plainMigrator.createTables spokenRegistry
          (Catalog.session Mysql.dialect "app").recorded 1
          [.model languages, .model notes] ({}, []))).map
        (fun r => (r.1, (changesOf r.2.2).map (·.sql Mysql.dialect))) =
      some (.emptyDataType "notes" "body",
        ["CREATE TABLE `languages` (`id` bigint,PRIMARY KEY (`id`))"]) :=
  ⟨⟨notes, by with_unfolding_all rfl⟩, rfl, by decide +kernel⟩

end Migrator

end SchemaMigration
