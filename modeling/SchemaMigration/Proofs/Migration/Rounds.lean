import SchemaMigration.Proofs.Migration.Additivity
import SchemaMigration.Proofs.Migration.Quiet
import SchemaMigration.Proofs.Migration.Tasks

/-!
# Rounds of join tables

A task for a join table leaves tasks for the join tables of its model.  Where something was added,
there is one thing less to add; but a task may also pass, `Passes`: it succeeds, adds nothing to the
catalog, and leaves its tasks all the same.  It passes if the table has all that its model declares
and, in a dry run, if what is missing can be planned.

So work can be passed on from one join table to the next until it is back where it was
(`EntersRound`).  Then it goes round for ever, since nothing remembers which tables were looked at:

> `Circles`: a task waits from which the work is passed on into a round.

It is kept by every task, so that the queue is never empty again and the deferred work has no end
(`Circles.drain`).
-/

namespace SchemaMigration

open Relation (ReflTransGen TransGen)

namespace Migrator

open SchemaMigration.Action (Moves after bind_ok ofExcept_ok)

/-! ## Runs with an end -/

section

variable {σ : Type} {m : Migrator} {reg : Registry} {s : Session σ}
variable {step : ResolvedModel → Work σ Unit}

/-- With some allowance, a run comes to its end from this stage on. -/
def Ends (m : Migrator) (reg : Registry) (s : Session σ) (step : ResolvedModel → Work σ Unit)
    (a : Stage σ) : Prop :=
  ∃ n q r, m.drain reg s n a.progress = some q ∧ m.forEachModel reg s n step a.models q = some r

theorem ends_iff_of_empty {models : List ResolvedModel} {p : Progress σ}
    (hp : p.queue.tasks = []) :
    m.Ends reg s step ⟨models, p⟩ ↔ ∃ n r, m.forEachModel reg s n step models p = some r := by
  have hdrain : ∀ n, m.drain reg s n p = some p := fun n => by
    rw [drain, (TaskQueue.pop?_eq_none_iff _).mpr hp]
  constructor
  · rintro ⟨n, q, r, hq, hr⟩
    cases (hdrain n).symm.trans hq
    exact ⟨n, r, hr⟩
  · rintro ⟨n, r, hr⟩
    exact ⟨n, p, r, hdrain n, hr⟩

/-- A run that comes to its end does so from each of its stages. -/
theorem Ends.reaches {a b : Stage σ} (h : m.Ends reg s step a) (hab : m.Reaches reg s step a b) :
    m.Ends reg s step b := by
  induction hab with
  | refl => exact h
  | tail _ hnext ih =>
    obtain ⟨n, q, r, hq, hr⟩ := ih
    cases hnext with
    | @task models p t rest hp =>
      obtain ⟨hnil, -⟩ | ⟨k, t', rest', rfl, hp', hk⟩ := drain_some hq
      · rw [hp] at hnil
        cases hnil
      · obtain ⟨rest⟩ := rest
        obtain ⟨rest'⟩ := rest'
        cases hp.symm.trans hp'
        exact ⟨k + 1, q, r, drain_mono hk (Nat.le_succ k), hr⟩
    | @step model models p q' hp hstep =>
      obtain ⟨-, rfl⟩ | ⟨_, t, rest, -, hp', -⟩ := drain_some hq
      · rw [forEachModel, hstep] at hr
        dsimp only at hr
        split at hr
        · cases hr
        · next u hu => exact ⟨n, u, r, hu, hr⟩
      · rw [hp] at hp'
        cases hp'
    | stop hp hstep => exact ⟨0, _, _, rfl, rfl⟩

end

/-! ## Tasks that pass -/

variable {m : Migrator} {reg : Registry} {d : Dialect} {database : String}
variable {c c' : Catalog} {p q : Progress Catalog}

/-- A part of a table is there, or its addition is only planned. -/
def Skips (m : Migrator) (c : Catalog) (table : String) (x : Part × Except MigrationError Change) :
    Prop :=
  c.has table x.1 = true ∨ m.config.dryRun = true ∧ ∃ change, x.2 = .ok change

/-- A task for the join table of model `j` succeeds and adds nothing to the catalog.  The flags tell
whether an existing table gets what it lacks, by this task and by those that it leaves. -/
inductive Passes (m : Migrator) (c : Catalog) (j : Model) : Bool → Bool → Prop
  /-- An existing table lacks nothing, or nothing that cannot be planned. -/
  | existing : c.hasTable j.table = true →
      (∀ x ∈ j.additions m.dialect m.config, m.Skips c j.table x) → Passes m c j true true
  /-- A missing table is only planned. -/
  | missing {flag : Bool} {plan : TablePlan} : m.config.dryRun = true →
      c.hasTable j.table = false → j.plan m.dialect m.config = .ok plan → Passes m c j flag false

/-- A task passes where the table has all that its model declares. -/
theorem Passes.of_conforms {j : Model} (h : c.Conforms m.config j) : m.Passes c j true true := by
  refine .existing ?_ fun x hx => Or.inl (h x.1 (Model.mem_parts_iff.mpr (Or.inr ⟨x, hx, rfl⟩)))
  rw [← Catalog.has_table]
  exact h .table (by simp [Model.parts])

/-- A dry run leaves the catalog as it is. -/
theorem dry_respects (m : Migrator) (d : Dialect) (database : String) :
    m.Respects (Catalog.session d database) fun p q =>
      m.config.dryRun = true → q.session = p.session where
  refl _ _ := rfl
  trans _ _ _ h h' hdry := (h' hdry).trans (h hdry)
  asking _ _ _ := rfl
  adding change _ p hdry := by
    unfold after
    rw [carryOut_eq, performed, if_pos hdry]
  scheduling _ _ _ := rfl
  failing _ _ _ := rfl

/-- A task that passes does so in a larger catalog, and in a dry run there is none. -/
theorem Passes.mono {j : Model} {flag flag' : Bool} (h : m.Passes c j flag flag')
    (hgrows : c.Grows c') (hdry : m.config.dryRun = true → c' = c) :
    m.Passes c' j flag flag' := by
  cases h with
  | existing hthere hskips =>
    exact .existing (hgrows.hasTable hthere) fun x hx => (hskips x hx).imp_left (hgrows _ _)
  | missing hplanned hmiss hplan =>
    cases hdry hplanned
    exact .missing hplanned hmiss hplan

theorem addMissing_skips (d : Dialect) (database : String) {table : String}
    {x : Part × Except MigrationError Change} (h : m.Skips p.session table x) :
    ∃ q, m.addMissing (Catalog.session d database) (fun named => x.1.question table named) x.2 p =
      .ok () q ∧ q.session = p.session ∧ q.queue = p.queue := by
  rw [addMissing_eq]
  by_cases hthere : p.session.has table x.1 = true
  · rw [if_pos hthere]
    exact ⟨p, rfl, rfl, rfl⟩
  · rw [if_neg hthere]
    obtain ⟨hdry, change, hchange⟩ := h.resolve_left hthere
    rw [hchange]
    show ∃ q, m.carryOut (Catalog.session d database) change p = _ ∧ _
    rw [carryOut_eq, performed, if_pos hdry]
    exact ⟨_, rfl, rfl, rfl⟩

/-- An addition that succeeds has made what it did not skip. -/
theorem skips_of_addMissing {table : String} {x : Part × Except MigrationError Change}
    (hadds : ∀ change, x.2 = .ok change → change.adds = some (table, [x.1]))
    (h : m.addMissing (Catalog.session d database) (fun named => x.1.question table named) x.2 p =
      .ok () q) : m.Skips q.session table x := by
  cases hdry : m.config.dryRun with
  | false => exact Or.inl (addMissing_has hdry hadds h)
  | true =>
    rw [addMissing_eq] at h
    split at h
    · next hthere =>
      cases h
      exact Or.inl hthere
    · obtain ⟨change, u, hu, -⟩ := bind_ok.mp h
      exact Or.inr ⟨hdry, change, (ofExcept_ok.mp hu).1⟩

/-- Additions in a row have made all that they did not skip. -/
theorem skips_of_forM {a : Model} (h : (a.additions m.dialect m.config).forM (fun x =>
      m.addMissing (Catalog.session d database) (fun named => x.1.question a.table named) x.2) p =
        .ok () q) :
    ∀ x ∈ a.additions m.dialect m.config, m.Skips q.session a.table x := by
  have hR := advances_respects m d database
  exact Action.forM_establishes (Q := fun x (r : Progress Catalog) => m.Skips r.session a.table x)
    (fun x hx => hR.addMissing fun c hc => Model.additive_of_mem_additions hx hc)
    (fun x v w hvw hx => hx.imp_left (hvw.grows _ _)) hR.refl hR.trans
    (fun x hx v w hw => skips_of_addMissing (fun c hc => Model.adds_of_mem_additions hx hc) hw) h

theorem forM_skips (d : Dialect) (database : String) {table : String}
    {xs : List (Part × Except MigrationError Change)} :
    ∀ {p : Progress Catalog}, (∀ x ∈ xs, m.Skips p.session table x) →
      ∃ q, xs.forM (fun x => m.addMissing (Catalog.session d database)
          (fun named => x.1.question table named) x.2) p = .ok () q ∧
        q.session = p.session ∧ q.queue = p.queue := by
  induction xs with
  | nil => exact fun _ => ⟨_, rfl, rfl, rfl⟩
  | cons x xs ih =>
    intro p h
    obtain ⟨u, hu, hsession, hqueue⟩ := addMissing_skips d database
      (h x List.mem_cons_self)
    obtain ⟨q, hq, hsession', hqueue'⟩ := ih (p := u) fun y hy =>
      hsession ▸ h y (List.mem_cons_of_mem x hy)
    exact ⟨q, bind_ok.mpr ⟨(), u, hu, hq⟩, hsession'.trans hsession, hqueue'.trans hqueue⟩

/-- A task that passes leaves the catalog as it is, and tasks for all join tables of its model. -/
theorem Passes.runs (d : Dialect) (database : String) {source : Source} {j : Model}
    {flag flag' : Bool} (hj : reg.describe source = .ok j) (h : m.Passes p.session j flag flag') :
    ∃ q, m.runTask reg (Catalog.session d database) (.joinTable source flag) p = .ok () q ∧
      q.session = p.session ∧ ∀ s ∈ j.joinTables, .joinTable s flag' ∈ q.queue.tasks := by
  rw [runTask_join hj]
  cases h with
  | existing hthere hskips =>
    obtain ⟨u, hu, hsession, -⟩ := forM_skips d database hskips
    rw [if_pos hthere, if_pos rfl, updateModel_eq]
    refine ⟨_, bind_ok.mpr ⟨(), u, hu, rfl⟩, hsession, fun s hs => ?_⟩
    exact List.mem_append_right _ (List.mem_map.mpr ⟨s, hs, rfl⟩)
  | @missing _ plan hdry hmiss hplan =>
    have hperformed : m.performed p.session plan.change = .ok p.session := by
      rw [performed, if_pos hdry]
    obtain ⟨u, hu⟩ : ∃ u, m.carryOut (Catalog.session d database) plan.change p = .ok () u :=
      ⟨_, by rw [carryOut_eq, hperformed]⟩
    obtain ⟨q, hq⟩ : ∃ q, m.createModel (Catalog.session d database) j p = .ok () q :=
      ⟨_, bind_ok.mpr ⟨plan, p, ofExcept_ok.mpr ⟨hplan, rfl⟩, bind_ok.mpr ⟨(), u, hu, rfl⟩⟩⟩
    obtain ⟨_, -, hc, hqueue⟩ := createModel_performed hq
    rw [if_neg (by simp [hmiss])]
    refine ⟨q, hq, ?_, fun s hs => ?_⟩
    · rw [performed, if_pos hdry] at hc
      exact (Except.ok.inj hc).symm
    · rw [hqueue]
      exact List.mem_append_right _ (Model.joinTable_mem_laterTasks.mpr ⟨rfl, hs⟩)

/-! ## Rounds -/

/-- A task for one join table passes, and leaves one for the other. -/
def PassesOn (m : Migrator) (reg : Registry) (c : Catalog) (x y : Model × Bool) : Prop :=
  m.Passes c x.1 x.2 y.2 ∧ Joins reg x.1 y.1

/-- The work is passed on from one join table to the next until it is back where it was. -/
def EntersRound (m : Migrator) (reg : Registry) (c : Catalog) (x : Model × Bool) : Prop :=
  ∃ y, ReflTransGen (m.PassesOn reg c) x y ∧ TransGen (m.PassesOn reg c) y y

theorem EntersRound.mono {x : Model × Bool} (h : m.EntersRound reg c x) (hgrows : c.Grows c')
    (hdry : m.config.dryRun = true → c' = c) : m.EntersRound reg c' x := by
  have hmono : ∀ x y, m.PassesOn reg c x y → m.PassesOn reg c' x y := fun _ _ hxy =>
    ⟨hxy.1.mono hgrows hdry, hxy.2⟩
  obtain ⟨y, hxy, hyy⟩ := h
  exact ⟨y, ReflTransGen.mono hmono _ _ hxy, TransGen.mono hmono _ _ hyy⟩

/-- From where a round is entered the work is passed on. -/
theorem EntersRound.next {x : Model × Bool} (h : m.EntersRound reg c x) :
    ∃ y, m.PassesOn reg c x y ∧ m.EntersRound reg c y := by
  obtain ⟨y, hxy, hyy⟩ := h
  rcases ReflTransGen.cases_head hxy with rfl | ⟨z, hxz, hzy⟩
  · obtain ⟨z, hxz, hzx⟩ := TransGen.head'_iff.mp hyy
    exact ⟨z, hxz, x, hzx, hyy⟩
  · exact ⟨z, hxz, y, hzy, hyy⟩

/-- A task waits from which the work is passed on into a round. -/
def Circles (m : Migrator) (reg : Registry) (p : Progress Catalog) : Prop :=
  ∃ s flag j, .joinTable s flag ∈ p.queue.tasks ∧ reg.describe s = .ok j ∧
    m.EntersRound reg p.session (j, flag)

/-- Whichever task is done first, the work goes on into a round. -/
theorem Circles.attempt {t : Task} {rest : TaskQueue} (h : m.Circles reg p)
    (hp : p.queue.tasks = t :: rest.tasks) :
    m.Circles reg (m.attempt reg (Catalog.session d database) t { p with queue := rest }) := by
  have hgrows := ((advances_respects m d database).attempt reg t { p with queue := rest }).grows
  have hdry := (dry_respects m d database).attempt reg t { p with queue := rest }
  obtain ⟨s, flag, j, hwaits, hj, hround⟩ := h
  rw [hp] at hwaits
  rcases List.mem_cons.mp hwaits with rfl | hwaits
  · obtain ⟨⟨k, flag'⟩, ⟨hpasses, s', hs', hk⟩, hround'⟩ := hround.next
    obtain ⟨q, hq, -, hleft⟩ := Passes.runs d database
      (p := { p with queue := rest }) hj hpasses
    have hattempt : m.attempt reg (Catalog.session d database) (.joinTable s flag)
        { p with queue := rest } = q := by
      rw [Migrator.attempt, hq]
    rw [hattempt] at hgrows hdry ⊢
    exact ⟨s', flag', k, hleft s' hs', hk, hround'.mono hgrows hdry⟩
  · -- Another task is done, and this one still waits.
    have hqueue := (queue_respects m (Catalog.session d database)).attempt reg t
      { p with queue := rest }
    exact ⟨s, flag, j, hqueue.subset hwaits, hj, hround.mono hgrows hdry⟩

/-- The deferred work that goes round has no end. -/
theorem Circles.drain (h : m.Circles reg p) (n : Nat) :
    m.drain reg (Catalog.session d database) n p = none := by
  cases hq : m.drain reg (Catalog.session d database) n p with
  | none => rfl
  | some q =>
    obtain ⟨s, flag, -, hwaits, -⟩ := drain_keeps (fun _ _ _ hp hI => hI.attempt hp) n hq h
    rw [drain_empty n hq] at hwaits
    exact absurd hwaits List.not_mem_nil

/-- A run that comes to its end meets no stage from which the work goes round. -/
theorem Ends.not_circles {step : ResolvedModel → Work Catalog Unit} {a b : Stage Catalog}
    (h : m.Ends reg (Catalog.session d database) step a)
    (hab : m.Reaches reg (Catalog.session d database) step a b) : ¬ m.Circles reg b.progress := by
  intro hcircles
  obtain ⟨n, q, _, hq, -⟩ := h.reaches hab
  rw [hcircles.drain n] at hq
  cases hq

end Migrator

end SchemaMigration
