import Mathlib.Logic.Relation
import SchemaMigration.Proofs.Migration.Convergence

/-!
# Migration only adds

Whatever the session answers and whatever it refuses, `autoMigrate` hands it no change but those
that create a table or add one thing to a table (`autoMigrate_additive`).

The statement is about whole runs, those that fail and those that never end included.  So a run is
looked at stage by stage here: from one stage to the next, `Next`, the run attempts the first task
that waits or, when none does, takes the step for the first model that is left.  Where a run ends it
has come to such a stage (`forEachModel_reached`); a run without end comes to one after the other.

Two things that a session keeps then hold at every stage: that the history of its changes is
additive, for any session that keeps one, and that the catalog has what it had, for a rehearsal.
-/

namespace SchemaMigration

open Relation (ReflTransGen)

/-- A stage of a run: the models that are left, and the migration under way. -/
structure Stage (σ : Type) where
  models : List ResolvedModel
  progress : Progress σ

namespace Migrator

open SchemaMigration.Action (Moves after bind_ok)

variable {σ : Type} {m : Migrator} {reg : Registry} {s : Session σ}

/-! ## Stages of a run -/

/-- A run goes on from one stage to the next. -/
inductive Next (m : Migrator) (reg : Registry) (s : Session σ)
    (step : ResolvedModel → Work σ Unit) : Stage σ → Stage σ → Prop
  /-- The first task that waits is attempted. -/
  | task {models : List ResolvedModel} {p : Progress σ} {t : Task} {rest : TaskQueue} :
      p.queue.tasks = t :: rest.tasks →
      Next m reg s step ⟨models, p⟩ ⟨models, m.attempt reg s t { p with queue := rest }⟩
  /-- No task waits, and the step for the first model is taken. -/
  | step {model : ResolvedModel} {models : List ResolvedModel} {p q : Progress σ} :
      p.queue.tasks = [] → step model p = .ok () q →
      Next m reg s step ⟨model :: models, p⟩ ⟨models, q⟩
  /-- The step for the first model fails, and nothing is done for the others. -/
  | stop {model : ResolvedModel} {models : List ResolvedModel} {p q : Progress σ}
      {e : MigrationError} : p.queue.tasks = [] → step model p = .error e q →
      Next m reg s step ⟨model :: models, p⟩ ⟨[], { q with queue := {} }⟩

/-- A run comes from one stage to another. -/
abbrev Reaches (m : Migrator) (reg : Registry) (s : Session σ)
    (step : ResolvedModel → Work σ Unit) : Stage σ → Stage σ → Prop :=
  ReflTransGen (Next m reg s step)

/-- A relation that every step and the taking of tasks lead along is led along from stage to
stage. -/
theorem Respects.reaches {R : Progress σ → Progress σ → Prop} (hR : m.Respects s R)
    (htake : ∀ p queue, R p { p with queue }) {step : ResolvedModel → Work σ Unit}
    (hstep : ∀ model, Moves R (step model)) {a b : Stage σ} (h : m.Reaches reg s step a b) :
    R a.progress b.progress := by
  induction h with
  | refl => exact hR.refl _
  | tail _ hnext ih =>
    refine hR.trans _ _ _ ih ?_
    cases hnext with
    | @task models p t rest hp => exact hR.trans _ _ _ (htake p rest) (hR.attempt reg t _)
    | step _ hq => exact (hstep _).of_ok hq
    | @stop model models p q e _ hq =>
      have hm := hstep model p
      rw [after, hq] at hm
      exact hR.trans _ _ _ hm (htake q {})

/-- The deferred work goes from stage to stage. -/
theorem drain_reached {step : ResolvedModel → Work σ Unit} {models : List ResolvedModel} {n : Nat}
    {p q : Progress σ} (h : m.drain reg s n p = some q) :
    m.Reaches reg s step ⟨models, p⟩ ⟨models, q⟩ :=
  drain_induct (P := fun p => m.Reaches reg s step ⟨models, p⟩ ⟨models, q⟩)
    (fun _ => ReflTransGen.refl)
    (fun _ _ _ _ hp _ hrest => ReflTransGen.head (Next.task hp) hrest) n h

/-- A run ends, with success or not, in what the session is at a stage that it comes to. -/
theorem forEachModel_reached {step : ResolvedModel → Work σ Unit} {n : Nat} :
    ∀ {models : List ResolvedModel} {p : Progress σ} {r : Outcome (Progress σ) Unit},
      m.forEachModel reg s n step models p = some r → p.queue.tasks = [] →
      ∃ b, m.Reaches reg s step ⟨models, p⟩ b ∧ b.progress.session = (Outcome.state r).session := by
  intro models
  induction models with
  | nil =>
    intro p r h _
    cases h
    exact ⟨_, ReflTransGen.refl, rfl⟩
  | cons model models ih =>
    intro p r h hp
    rw [forEachModel] at h
    split at h
    · next e q hq =>
      cases h
      exact ⟨_, ReflTransGen.single (Next.stop hp hq), rfl⟩
    · next q hq =>
      split at h
      · cases h
      · next q' hq' =>
        obtain ⟨b, hb, heq⟩ := ih h (drain_empty n hq')
        exact ⟨b, ReflTransGen.head (Next.step hp hq) ((drain_reached hq').trans hb), heq⟩

end Migrator

/-! ## What a session keeps -/

namespace Session

open SchemaMigration.Action (Moves after)

variable {σ : Type} {s : Session σ} {d : Dialect} {config : Config} {T : σ → σ → Prop}

/-- A relation between states of a session that its answers and the additive changes lead along,
refused or not. -/
structure Keeps (s : Session σ) (d : Dialect) (config : Config) (T : σ → σ → Prop) : Prop where
  refl : ∀ x, T x x
  trans : ∀ x y z, T x y → T y z → T x z
  asking : ∀ q, Moves T (s.query q)
  adding : ∀ change, Additive d config change → Moves T (s.execute change)

/-- A question leads along what the single questions lead along, with an answer or without. -/
theorem moves_affirms (hrefl : ∀ x, T x x) (htrans : ∀ x y z, T x y → T y z → T x z)
    (hquery : ∀ q, Moves T (s.query q)) (e : Dialect) (question : String → CatalogQuery) :
    Moves T (.ask (s.affirms e question)) := by
  have hdatabase : Moves T (s.currentDatabase e) :=
    Moves.bind htrans (hquery _) fun rows => by
      split
      · exact fun x => hrefl x
      · exact fun x => hrefl x
  intro x
  have hx := hdatabase x
  unfold after at hx ⊢
  unfold Action.ask Session.affirms
  cases hdb : s.currentDatabase e x with
  | error e y =>
    rw [hdb] at hx
    exact hx
  | ok database y =>
    rw [hdb] at hx
    have hy := hquery (question database) y
    unfold after at hy
    cases hrows : s.query (question database) y with
    | error e z =>
      rw [hrows] at hy
      simpa only [hrows] using htrans x y z hx hy
    | ok rows z =>
      rw [hrows] at hy
      simpa only [hrows] using htrans x y z hx hy

/-- A step on the session leads the session along, and leaves the report and the tasks. -/
theorem moves_onSession {α : Type} {a : Action σ α} (ha : Moves T a) :
    Moves (fun p q : Progress σ => T p.session q.session ∧ q.report = p.report ∧ q.queue = p.queue)
      (Work.onSession a) := by
  intro p
  have hp := ha p.session
  unfold after at hp ⊢
  unfold Work.onSession
  cases hap : a p.session with
  | ok x t =>
    rw [hap] at hp
    exact ⟨hp, rfl, rfl⟩
  | error e t =>
    rw [hap] at hp
    exact ⟨hp, rfl, rfl⟩

/-- What the session keeps, every step of a migration keeps. -/
theorem Keeps.respects {m : Migrator} (h : s.Keeps m.dialect m.config T) :
    m.Respects s fun p q => T p.session q.session := by
  refine ⟨fun p => h.refl _, fun p q r => h.trans _ _ _, fun question p => ?_, fun change hc => ?_,
    fun ts p => h.refl _, fun p failure => h.refl _⟩
  · exact (moves_onSession (moves_affirms h.refl h.trans h.asking m.dialect question) p).1
  · have hperform : Moves T (m.perform s change) := by
      unfold Migrator.perform
      split
      · exact fun x => h.refl x
      · exact h.adding change hc
    exact Moves.bind (R := fun p q : Progress σ => T p.session q.session)
      (fun _ _ _ => h.trans _ _ _) (fun p => (moves_onSession hperform p).1)
      fun _ p => h.refl p.session

end Session

/-! ## The history of a session -/

/-- The changes that a session was asked to make, accepted or refused. -/
def changesOf (history : List Exchange) : List Change :=
  history.filterMap fun x =>
    match x.call with
    | .execute change => some change
    | .query _ => none

/-- A history goes on, and the changes that are new in it are additive. -/
def GrowsAdditively (d : Dialect) (config : Config) (h h' : List Exchange) : Prop :=
  ∃ more, h' = h ++ more ∧ ∀ change ∈ changesOf more, Additive d config change

theorem GrowsAdditively.refl {d : Dialect} {config : Config} (h : List Exchange) :
    GrowsAdditively d config h h := ⟨[], by simp, fun _ hc => absurd hc (by simp [changesOf])⟩

theorem GrowsAdditively.trans {d : Dialect} {config : Config} {h h' h'' : List Exchange}
    (h₁ : GrowsAdditively d config h h') (h₂ : GrowsAdditively d config h' h'') :
    GrowsAdditively d config h h'' := by
  obtain ⟨more, rfl, hm⟩ := h₁
  obtain ⟨rest, rfl, hr⟩ := h₂
  refine ⟨more ++ rest, by simp, fun change hc => ?_⟩
  rw [changesOf, List.filterMap_append, List.mem_append] at hc
  exact hc.elim (hm change) (hr change)

/-- A recorded step adds its call to the history and nothing else. -/
theorem Session.recordedAction_history {σ α : Type} (call : Call) (a : Action σ α)
    (x : σ × List Exchange) :
    ∃ succeeded, (Action.after (recordedAction call a) x).2 = x.2 ++ [⟨call, succeeded⟩] := by
  unfold Action.after recordedAction
  cases a x.1 with
  | ok _ t => exact ⟨true, rfl⟩
  | error _ t => exact ⟨false, rfl⟩

/-- The history of any session grows additively when it is asked and given additive changes. -/
theorem Session.recorded_keeps {σ : Type} (s : Session σ) (d : Dialect) (config : Config) :
    s.recorded.Keeps d config fun x y => GrowsAdditively d config x.2 y.2 where
  refl x := GrowsAdditively.refl x.2
  trans _ _ _ := GrowsAdditively.trans
  asking q x := by
    obtain ⟨b, hb⟩ := recordedAction_history (.query q) (s.query q) x
    exact ⟨_, hb, fun _ hc => absurd hc (by simp [changesOf])⟩
  adding change ha x := by
    obtain ⟨b, hb⟩ := recordedAction_history (.execute change) (s.execute change) x
    refine ⟨_, hb, fun c hc => ?_⟩
    have hcc : c = change := by simpa [changesOf] using hc
    exact hcc ▸ ha

/-! ## Rehearsals -/

/-- A rehearsal keeps what its catalog has, whatever it refuses and however it answers. -/
theorem Rehearsal.session_keeps (d e : Dialect) (config : Config) :
    (Rehearsal.session d).Keeps e config fun x y => x.catalog.Grows y.catalog where
  refl x := Catalog.Grows.refl x.catalog
  trans _ _ _ := Catalog.Grows.trans
  asking q x := by
    unfold Action.after
    dsimp only [Rehearsal.session]
    by_cases href : mentions x.refusedQueries ((q.statement d).sql d) = true
    · rw [if_pos href]
      exact Catalog.Grows.refl x.catalog
    · rw [if_neg href]
      exact Catalog.Grows.refl x.catalog
  adding change ha x := by
    obtain ⟨table, parts, hadds⟩ := ha.adds
    unfold Action.after
    dsimp only [Rehearsal.session]
    by_cases href : mentions x.refusedChanges (change.sql d) = true
    · rw [if_pos href]
      exact Catalog.Grows.refl x.catalog
    · rw [if_neg href]
      cases hc : x.catalog.apply change with
      | ok catalog => exact Catalog.apply_grows hadds hc
      | error refusal => exact Catalog.Grows.refl x.catalog

namespace Migrator

variable {σ : Type} {m : Migrator} {reg : Registry} {s : Session σ}

/-! ## The theorem -/

/-- An `autoMigrate` that starts with the session in state `x` meets it in state `y`: at its end, if
it has one, or at a stage that it comes to. -/
inductive Meets (m : Migrator) (reg : Registry) (s : Session σ) (refs : List ModelRef) (x : σ) :
    σ → Prop
  | atEnd {n : Nat} {r : Outcome σ Report} :
      m.autoMigrate reg s n refs x = some r → Meets m reg s refs x (Outcome.state r)
  | atStage {out : List ResolvedModel} {b : Stage σ} : order reg true refs = .ok out →
      m.Reaches reg s (m.updateStep s) ⟨out, m.start x⟩ b →
      Meets m reg s refs x b.progress.session

/-- What holds of the session at the start and at every stage holds wherever `autoMigrate` meets
it. -/
theorem Meets.of_stages {T : σ → Prop} {refs : List ModelRef} {x y : σ} (hstart : T x)
    (hstage : ∀ out b, order reg true refs = .ok out →
      m.Reaches reg s (m.updateStep s) ⟨out, m.start x⟩ b → T b.progress.session)
    (h : m.Meets reg s refs x y) : T y := by
  cases h with
  | atStage ho hb => exact hstage _ _ ho hb
  | @atEnd n r hr =>
    unfold autoMigrate migrate at hr
    split at hr
    · cases hr
      exact hstart
    · next out ho =>
      obtain ⟨q, hq, rfl⟩ := Option.map_eq_some_iff.mp hr
      obtain ⟨b, hb, heq⟩ := forEachModel_reached hq rfl
      have hend : Outcome.state (conclude q) = (Outcome.state q).session := by cases q <;> rfl
      rw [hend, ← heq]
      exact hstage out b ho hb

/-- What the session keeps leads to every state in which `autoMigrate` meets it. -/
theorem Meets.keeps {T : σ → σ → Prop} (hT : s.Keeps m.dialect m.config T) {refs : List ModelRef}
    {x y : σ} (h : m.Meets reg s refs x y) : T x y :=
  h.of_stages (hT.refl x) fun _ _ _ hb =>
    hT.respects.reaches (fun _ _ => hT.refl _) hT.respects.updateStep hb

/-- **Migration only adds.**  Every change that `autoMigrate` hands to a session, accepted or
refused, creates a table as planned for a model or adds a declared column, a foreign key, a check or
an index, at every stage and at the end.  So a catalog keeps every table, column, constraint and
index that it had, whatever its session refuses and however it answers. -/
theorem autoMigrate_additive (m : Migrator) (reg : Registry) (refs : List ModelRef) :
    (∀ (σ : Type) (s : Session σ) (state : σ) (x : σ × List Exchange),
      m.Meets reg s.recorded refs (state, []) x →
        ∀ change ∈ changesOf x.2, Additive m.dialect m.config change) ∧
    ∀ (d : Dialect) (before after : Rehearsal),
      m.Meets reg (Rehearsal.session d) refs before after →
        before.catalog.Grows after.catalog := by
  refine ⟨fun σ s state x h change hc => ?_, fun d before after h => ?_⟩
  · obtain ⟨more, hx, hadd⟩ := h.keeps (s.recorded_keeps m.dialect m.config)
    rw [hx] at hc
    exact hadd change hc
  · exact h.keeps (Rehearsal.session_keeps d m.dialect m.config)

/-- The orders are there in part, and the database refuses their check. -/
def shopRefusing : Rehearsal :=
  { catalog := shopBefore, refusedChanges := ["ADD CONSTRAINT `ck_orders_id`"] }

/-- A run against it asks for four changes, the check being the last, and all of them are additive.
What the orders had they have still. -/
theorem autoMigrate_additive_refusing :
    (∃ r, shopMigrator.autoMigrate ⟨#[.ok shopUsers]⟩ (Rehearsal.session Mysql.dialect).recorded 0
        [.model shopOrders] (shopRefusing, []) = some r ∧
      (changesOf (Outcome.state r).2).length = 4 ∧
      ∀ change ∈ changesOf (Outcome.state r).2, Additive Mysql.dialect { migrateIndexes := true }
        change) ∧
    ∃ r, shopMigrator.autoMigrate ⟨#[.ok shopUsers]⟩ (Rehearsal.session Mysql.dialect) 0
        [.model shopOrders] shopRefusing = some r ∧
      shopBefore.Grows (Outcome.state r).catalog := by
  constructor
  · have hrun : ((shopMigrator.autoMigrate ⟨#[.ok shopUsers]⟩
        (Rehearsal.session Mysql.dialect).recorded 0 [.model shopOrders] (shopRefusing, [])).map
        fun r => (changesOf (Outcome.state r).2).length) = some 4 := by decide +kernel
    obtain ⟨r, hr, hlen⟩ := Option.map_eq_some_iff.mp hrun
    exact ⟨r, hr, hlen, (autoMigrate_additive _ _ _).1 _ _ _ _ (Meets.atEnd hr)⟩
  · have hrun : (shopMigrator.autoMigrate ⟨#[.ok shopUsers]⟩ (Rehearsal.session Mysql.dialect) 0
        [.model shopOrders] shopRefusing).isSome = true := by decide +kernel
    obtain ⟨r, hr⟩ := Option.isSome_iff_exists.mp hrun
    exact ⟨r, hr, (autoMigrate_additive _ _ _).2 _ _ _ (Meets.atEnd hr)⟩

end Migrator

end SchemaMigration
