import Mathlib.Logic.Relation
import SchemaMigration.Proofs.Migration.OnCatalog

/-!
# Migrations with nothing to do

When has `autoMigrate` nothing to do?  Every model that it comes across must find its table with all
that it declares.  These are the ordered models and, since the deferred work of an existing table
updates its join tables, the models of these, the models of the join tables of those, and so on.
`Settled` says it of one model and of all that its join tables lead to, which must come to an end:
the deferred work follows them without remembering where it was.

`autoMigrate_quiet_iff` shows that this is the exact condition.  That it is enough goes level by
level: the queue holds the join tables of one level at a time, and when they are done, those of the
next (`drain_level`).  All that counts is what the session answers (`Session.Tells`), not what it
would do with a change.  That it is necessary is an induction along the queue of the quiet run.
-/

namespace SchemaMigration

open Relation (ReflTransGen TransGen)

/-- Model `j` is the model of a join table of model `m`. -/
def Joins (reg : Registry) (m j : Model) : Prop := ∃ s ∈ m.joinTables, reg.describe s = .ok j

/-- The model has all that it declares, and so has every model that its join tables lead to; they
describe one each, and no chain of them goes on without end. -/
structure Settled (reg : Registry) (config : Config) (c : Catalog) (m : Model) : Prop where
  conforms : ∀ j, ReflTransGen (Joins reg) m j → c.Conforms config j
  described : ∀ j, ReflTransGen (Joins reg) m j → ∀ s ∈ j.joinTables, ∃ k, reg.describe s = .ok k
  ends : Acc (fun j m => Joins reg m j) m

/-- The join tables of a model describe settled models. -/
def JoinsSettled (reg : Registry) (config : Config) (c : Catalog) (m : Model) : Prop :=
  ∀ s ∈ m.joinTables, ∃ j, reg.describe s = .ok j ∧ Settled reg config c j

/-- The literal tables are there, and the models are settled. -/
def ResolvedModel.Settled (reg : Registry) (config : Config) (c : Catalog) : ResolvedModel → Prop
  | .table name => c.has name .table = true
  | .model m => SchemaMigration.Settled reg config c m

section

variable {reg : Registry} {config : Config} {c : Catalog} {m : Model}

/-- A model is settled when it has all that it declares and its join tables are settled. -/
theorem settled_iff :
    Settled reg config c m ↔ c.Conforms config m ∧ JoinsSettled reg config c m := by
  constructor
  · intro h
    refine ⟨h.conforms m ReflTransGen.refl, fun s hs => ?_⟩
    obtain ⟨j, hj⟩ := h.described m ReflTransGen.refl s hs
    have hmj : Joins reg m j := ⟨s, hs, hj⟩
    exact ⟨j, hj, fun k hk => h.conforms k (ReflTransGen.head hmj hk),
      fun k hk => h.described k (ReflTransGen.head hmj hk), h.ends.inv hmj⟩
  · rintro ⟨hc, hj⟩
    have hnext : ∀ j, Joins reg m j → Settled reg config c j := by
      rintro j ⟨s, hs, hsj⟩
      obtain ⟨k, hk, hset⟩ := hj s hs
      cases hsj.symm.trans hk
      exact hset
    refine ⟨fun k hk => ?_, fun k hk => ?_, Acc.intro m fun j hmj => (hnext j hmj).ends⟩
    · rcases ReflTransGen.cases_head hk with rfl | ⟨j, hmj, hjk⟩
      · exact hc
      · exact (hnext j hmj).conforms k hjk
    · rcases ReflTransGen.cases_head hk with rfl | ⟨j, hmj, hjk⟩
      · intro s hs
        obtain ⟨j, hsj, -⟩ := hj s hs
        exact ⟨j, hsj⟩
      · exact (hnext j hmj).described k hjk

theorem Settled.grows {c' : Catalog} (h : Settled reg config c m) (hg : c.Grows c') :
    Settled reg config c' m :=
  ⟨fun j hj => (h.conforms j hj).grows hg, h.described, h.ends⟩

/-- A settled model whose join tables go on for fewer than so many levels. -/
def SettledWithin (reg : Registry) (config : Config) (c : Catalog) : Nat → Model → Prop
  | 0, _ => False
  | n + 1, m => c.Conforms config m ∧
      ∀ s ∈ m.joinTables, ∃ j, reg.describe s = .ok j ∧ SettledWithin reg config c n j

theorem SettledWithin.mono {n k : Nat} (h : SettledWithin reg config c n m) (hnk : n ≤ k) :
    SettledWithin reg config c k m := by
  induction n generalizing m k with
  | zero => exact h.elim
  | succ n ih =>
    obtain ⟨k, rfl⟩ : ∃ k', k = k' + 1 := ⟨k - 1, by omega⟩
    refine ⟨h.1, fun s hs => ?_⟩
    obtain ⟨j, hj, hw⟩ := h.2 s hs
    exact ⟨j, hj, ih hw (by omega)⟩

/-- What holds of each entry of a list from some number on holds of all from some number on. -/
theorem exists_bound {α : Type} {P : α → Nat → Prop}
    (hmono : ∀ a n k, P a n → n ≤ k → P a k) :
    ∀ xs : List α, (∀ x ∈ xs, ∃ n, P x n) → ∃ n, ∀ x ∈ xs, P x n := by
  intro xs
  induction xs with
  | nil => exact fun _ => ⟨0, fun x hx => absurd hx (by simp)⟩
  | cons y ys ih =>
    intro h
    obtain ⟨n, hn⟩ := h y (by simp)
    obtain ⟨k, hk⟩ := ih fun x hx => h x (List.mem_cons_of_mem y hx)
    refine ⟨max n k, fun x hx => ?_⟩
    rcases List.mem_cons.mp hx with rfl | hx'
    · exact hmono _ _ _ hn (Nat.le_max_left n k)
    · exact hmono _ _ _ (hk x hx') (Nat.le_max_right n k)

/-- One number of levels does for all join tables. -/
theorem joins_within {sources : List Source}
    (h : ∀ s ∈ sources, ∃ j, reg.describe s = .ok j ∧ ∃ n, SettledWithin reg config c n j) :
    ∃ n, ∀ s ∈ sources, ∃ j, reg.describe s = .ok j ∧ SettledWithin reg config c n j := by
  refine exists_bound (fun s n k ⟨j, hj, hw⟩ hnk => ⟨j, hj, hw.mono hnk⟩) sources fun s hs => ?_
  obtain ⟨j, hj, n, hw⟩ := h s hs
  exact ⟨n, j, hj, hw⟩

/-- The levels of a settled model have a number. -/
theorem Settled.within (h : Settled reg config c m) : ∃ n, SettledWithin reg config c n m := by
  have hends := h.ends
  induction hends with
  | intro m _ ih =>
    obtain ⟨hc, hj⟩ := settled_iff.mp h
    obtain ⟨n, hn⟩ := joins_within fun s hs => by
      obtain ⟨j, hsj, hset⟩ := hj s hs
      exact ⟨j, hsj, ih j ⟨s, hs, hsj⟩ hset⟩
    exact ⟨n + 1, hc, hn⟩

end

/-- Wherever the state of the session is in `I`, it answers every question for a part as the catalog
does, and its state stays in `I`. -/
def Session.Tells {σ : Type} (s : Session σ) (d : Dialect) (c : Catalog) (I : σ → Prop) : Prop :=
  ∀ table part x, I x → ∃ y, I y ∧
    s.affirms d (fun named => part.question table named) x = (c.has table part, y)

theorem Catalog.session_tells (c : Catalog) (d e : Dialect) (database : String) :
    (Catalog.session d database).Tells e c (· = c) := by
  rintro table part _ rfl
  exact ⟨_, rfl, Catalog.session_affirms _ d e database table part⟩

namespace Migrator

open SchemaMigration.Action (Moves after bind_ok ofExcept_ok)

variable {m : Migrator} {reg : Registry}

/-! ## Enough to be quiet

Nothing is said here of what the session would do with a change: a run that finds nothing to do asks
for parts, and that is all. -/

section

variable {σ : Type} {s : Session σ} {c : Catalog} {I : σ → Prop} {p : Progress σ}

theorem ask_quiet (hs : s.Tells m.dialect c I) (hp : I p.session) (table : String) (part : Part) :
    ∃ x, I x ∧
      Work.onSession (.ask (s.affirms m.dialect fun named => part.question table named)) p =
        .ok (c.has table part) { p with session := x } := by
  obtain ⟨x, hx, hask⟩ := hs table part p.session hp
  refine ⟨x, hx, ?_⟩
  unfold Work.onSession Action.ask
  rw [hask]

theorem addMissing_quiet (hs : s.Tells m.dialect c I) (hp : I p.session) {table : String}
    {part : Part} {change : Except MigrationError Change} (h : c.has table part = true) :
    ∃ x, I x ∧ m.addMissing s (fun named => part.question table named) change p =
      .ok () { p with session := x } := by
  obtain ⟨x, hx, hask⟩ := ask_quiet hs hp table part
  exact ⟨x, hx, bind_ok.mpr ⟨true, _, h ▸ hask, rfl⟩⟩

/-- Updating a table that conforms just schedules its join tables. -/
theorem updateModel_quiet (hs : s.Tells m.dialect c I) (hp : I p.session) {model : Model}
    (h : c.Conforms m.config model) :
    ∃ x, I x ∧ m.updateModel s model p =
      .ok () { p with session := x, queue := p.queue.pushAll (updates model.joinTables) } := by
  have hall : ∀ (xs : List (Part × Except MigrationError Change)) {p : Progress σ}, I p.session →
      (∀ x ∈ xs, c.has model.table x.1 = true) →
      ∃ y, I y ∧ xs.forM (fun x => m.addMissing s
        (fun named => x.1.question model.table named) x.2) p = .ok () { p with session := y } := by
    intro xs
    induction xs with
    | nil => exact fun hp _ => ⟨_, hp, rfl⟩
    | cons x xs ih =>
      intro p hp hx
      obtain ⟨y, hy, hfirst⟩ := addMissing_quiet hs hp (hx x (by simp))
      obtain ⟨z, hz, hrest⟩ := ih (p := { p with session := y }) hy
        fun x hxs => hx x (List.mem_cons_of_mem _ hxs)
      exact ⟨z, hz, bind_ok.mpr ⟨(), _, hfirst, hrest⟩⟩
  obtain ⟨y, hy, hadd⟩ := hall (model.additions m.dialect m.config) hp fun x hx =>
    h x.1 (Model.mem_parts_iff.mpr (Or.inr ⟨x, hx, rfl⟩))
  rw [updateModel_eq]
  exact ⟨y, hy, bind_ok.mpr ⟨(), _, hadd, rfl⟩⟩

theorem joinTable_quiet (hs : s.Tells m.dialect c I) (hp : I p.session) {source : Source}
    {j : Model} (hj : reg.describe source = .ok j) (h : c.Conforms m.config j) :
    ∃ x, I x ∧ m.runTask reg s (.joinTable source true) p =
      .ok () { p with session := x, queue := p.queue.pushAll (updates j.joinTables) } := by
  have hthere : c.has j.table .table = true := h .table (by simp [Model.parts])
  obtain ⟨x, hx, hask⟩ := ask_quiet hs hp j.table .table
  obtain ⟨y, hy, hupdate⟩ := updateModel_quiet hs (p := { p with session := x }) hx h
  refine ⟨y, hy, bind_ok.mpr ⟨j, p, ofExcept_ok.mpr ⟨mapError_ok.mpr hj, rfl⟩, ?_⟩⟩
  exact bind_ok.mpr ⟨true, _, hthere ▸ hask, hupdate⟩

/-- The join tables of the models behind handles. -/
def nextLevel (reg : Registry) (sources : List Source) : List Source :=
  sources.flatMap fun s =>
    match reg.describe s with
    | .ok j => j.joinTables
    | .error _ => []

/-- When the join tables of one level are done, those of the next wait behind what waited before. -/
theorem drain_level (hs : s.Tells m.dialect c I) :
    ∀ {sources : List Source} (rest : List Task) {p : Progress σ}, I p.session →
      p.queue.tasks = updates sources ++ rest →
      (∀ t ∈ sources, ∃ j, reg.describe t = .ok j ∧ c.Conforms m.config j) →
      ∃ x, I x ∧ ∀ n, m.drain reg s (sources.length + n) p =
        m.drain reg s n
          { p with session := x, queue := ⟨rest ++ updates (nextLevel reg sources)⟩ } := by
  intro sources
  induction sources with
  | nil =>
    intro rest p hp htasks _
    obtain ⟨session, report, ⟨tasks⟩⟩ := p
    cases htasks
    exact ⟨session, hp, fun n => by simp [nextLevel, updates]⟩
  | cons t sources ih =>
    intro rest p hp htasks h
    obtain ⟨j, hj, hc⟩ := h t (by simp)
    have hpop : p.queue.pop? = some (.joinTable t true, ⟨updates sources ++ rest⟩) :=
      (TaskQueue.pop?_eq_some_iff _ _ _).mpr htasks
    obtain ⟨x, hx, htask⟩ := joinTable_quiet hs
      (p := { p with queue := ⟨updates sources ++ rest⟩ }) hp hj hc
    -- The first task finds nothing to do; its own join tables wait behind all others.
    have hfirst : m.attempt reg s (.joinTable t true)
        { p with queue := ⟨updates sources ++ rest⟩ } =
        { p with session := x, queue := ⟨updates sources ++ (rest ++ updates j.joinTables)⟩ } := by
      unfold attempt
      rw [htask]
      simp [TaskQueue.pushAll]
    obtain ⟨y, hy, hrest⟩ := ih (rest ++ updates j.joinTables)
      (p := { p with session := x, queue := ⟨updates sources ++ (rest ++ updates j.joinTables)⟩ })
      hx rfl fun u hu => h u (List.mem_cons_of_mem _ hu)
    refine ⟨y, hy, fun n => ?_⟩
    rw [List.length_cons, Nat.add_right_comm, drain, hpop]
    dsimp only
    rw [hfirst, hrest]
    simp [nextLevel, updates, hj]

theorem drain_quiet (hs : s.Tells m.dialect c I) :
    ∀ {n : Nat} {sources : List Source} {p : Progress σ}, I p.session →
    p.queue.tasks = updates sources →
    (∀ t ∈ sources, ∃ j, reg.describe t = .ok j ∧ SettledWithin reg m.config c n j) →
    ∃ k x, I x ∧ m.drain reg s k p = some { p with session := x, queue := {} } := by
  intro n
  induction n with
  | zero =>
    intro sources p hp htasks h
    have hnil : sources = [] := List.eq_nil_iff_forall_not_mem.mpr fun t ht => by
      obtain ⟨_, _, hw⟩ := h t ht
      exact hw
    obtain ⟨session, report, ⟨tasks⟩⟩ := p
    subst hnil
    cases htasks
    exact ⟨0, session, hp, rfl⟩
  | succ n ih =>
    intro sources p hp htasks h
    have hconforms : ∀ t ∈ sources, ∃ j, reg.describe t = .ok j ∧ c.Conforms m.config j := by
      intro t ht
      obtain ⟨j, hj, hw⟩ := h t ht
      exact ⟨j, hj, hw.1⟩
    obtain ⟨x, hx, hlevel⟩ := drain_level hs [] hp (by simpa using htasks) hconforms
    -- The join tables of the next level go on for one level less.
    have hnext : ∀ t ∈ nextLevel reg sources, ∃ j, reg.describe t = .ok j ∧
        SettledWithin reg m.config c n j := by
      intro t ht
      obtain ⟨u, hu, htu⟩ := List.mem_flatMap.mp ht
      obtain ⟨j, hj, hw⟩ := h u hu
      rw [hj] at htu
      exact hw.2 t htu
    obtain ⟨k, y, hy, hk⟩ := ih
      (p := { p with session := x, queue := ⟨updates (nextLevel reg sources)⟩ }) hx rfl hnext
    exact ⟨sources.length + k, y, hy, (hlevel k).trans hk⟩

/-- The step for something settled, and the deferred work after it, do nothing but ask. -/
theorem updateStep_quiet (hs : s.Tells m.dialect c I) (hp : I p.session)
    (htasks : p.queue.tasks = []) {model : ResolvedModel} (h : model.Settled reg m.config c) :
    ∃ q n x, I x ∧ m.updateStep s model p = .ok () q ∧
      ∀ k, n ≤ k → m.drain reg s k q = some { p with session := x } := by
  obtain ⟨session, report, ⟨tasks⟩⟩ := p
  cases htasks
  cases model with
  | table name =>
    have hthere : c.has name .table = true := h
    obtain ⟨x, hx, hask⟩ := ask_quiet hs (p := ⟨session, report, {}⟩) hp name .table
    exact ⟨⟨x, report, {}⟩, 0, x, hx, bind_ok.mpr ⟨true, _, hthere ▸ hask, rfl⟩,
      fun k hk => drain_mono (n := 0) rfl hk⟩
  | model model =>
    obtain ⟨hc, hj⟩ := settled_iff.mp h
    have hthere : c.has model.table .table = true := hc .table (by simp [Model.parts])
    obtain ⟨n, hn⟩ := joins_within fun t ht => by
      obtain ⟨j, htj, hset⟩ := hj t ht
      exact ⟨j, htj, hset.within⟩
    obtain ⟨x, hx, hask⟩ := ask_quiet hs (p := ⟨session, report, {}⟩) hp model.table .table
    obtain ⟨y, hy, hupdate⟩ := updateModel_quiet hs (p := ⟨x, report, {}⟩) hx hc
    obtain ⟨k, z, hz, hdrain⟩ := drain_quiet hs
      (p := ⟨y, report, ⟨updates model.joinTables⟩⟩) hy rfl hn
    exact ⟨_, k, z, hz, bind_ok.mpr ⟨true, _, hthere ▸ hask, hupdate⟩,
      fun k' hk' => drain_mono hdrain hk'⟩

theorem forEachModel_quiet (hs : s.Tells m.dialect c I) :
    ∀ {models : List ResolvedModel} {p : Progress σ}, I p.session → p.queue.tasks = [] →
    (∀ model ∈ models, model.Settled reg m.config c) →
    ∃ n x, I x ∧ ∀ k, n ≤ k →
      m.forEachModel reg s k (m.updateStep s) models p = some (.ok () { p with session := x }) := by
  intro models
  induction models with
  | nil => exact fun hp _ _ => ⟨0, _, hp, fun _ _ => rfl⟩
  | cons model models ih =>
    intro p hp htasks h
    obtain ⟨q, n, x, hx, hstep, hdrain⟩ := updateStep_quiet hs hp htasks (h model (by simp))
    obtain ⟨n', y, hy, hrest⟩ := ih (p := { p with session := x }) hx htasks
      fun model hm => h model (List.mem_cons_of_mem _ hm)
    refine ⟨max n n', y, hy, fun k hk => ?_⟩
    rw [forEachModel, hstep]
    dsimp only
    rw [hdrain k (by omega)]
    exact hrest k (by omega)

/-- When everything is settled, `autoMigrate` succeeds with an empty report, having done nothing but
ask. -/
theorem autoMigrate_settled (hs : s.Tells m.dialect c I) {refs : List ModelRef}
    {out : List ResolvedModel} (ho : order reg true refs = .ok out) (state : σ) (hstate : I state)
    (h : ∀ model ∈ out, model.Settled reg m.config c) :
    ∃ n state', I state' ∧ ∀ k, n ≤ k →
      m.autoMigrate reg s k refs state = some (.ok { dryRun := m.config.dryRun } state') := by
  obtain ⟨n, x, hx, hn⟩ := forEachModel_quiet hs (p := m.start state) hstate rfl h
  exact ⟨n, x, hx, fun k hk => autoMigrate_ok.mpr ⟨out, _, ho, hn k hk, rfl, rfl⟩⟩

end

/-! ## Quiet only if settled -/

variable {d : Dialect} {database : String} {p q r : Progress Catalog}

/-- A step that creates a table is not quiet. -/
theorem createModel_executes {model : Model}
    (h : m.createModel (Catalog.session d database) model p = .ok () q) :
    q.report.executed ≠ [] := by
  unfold createModel at h
  obtain ⟨plan, u, hu, h⟩ := bind_ok.mp h
  obtain ⟨_, v, hv, h⟩ := bind_ok.mp h
  cases h
  show v.report.executed ≠ []
  rw [(carryOut_ok hv).2.1]
  simp

/-- Nothing was executed by an earlier stage, and nothing changes any more, if nothing has been
executed by a later one. -/
theorem Advances.quiet (h : Advances p q) (hq : q.report.executed = []) :
    p.report.executed = [] ∧ q.session = p.session := by
  have hp : p.report.executed = [] := List.prefix_nil.mp (hq ▸ h.executed)
  exact ⟨hp, h.still (hq.trans hp.symm)⟩

section

variable (hreal : m.config.dryRun = false)

include hreal

/-- When the deferred work is quiet and does not fail, the join tables that waited are settled.
Those of a table that was updated wait behind it, so that they may be taken to be settled. -/
theorem settled_of_drain {n : Nat} (h : m.drain reg (Catalog.session d database) n p = some q)
    (hclean : q.report.failures = []) (hquiet : q.report.executed = []) {s : Source}
    (hs : .joinTable s true ∈ p.queue.tasks) :
    ∃ j, reg.describe s = .ok j ∧ Settled reg m.config q.session j := by
  refine drain_all (advances_respects m d database) advances_take
    (Q := fun t => ∀ s, t = .joinTable s true →
      ∃ j, reg.describe s = .ok j ∧ Settled reg m.config q.session j)
    hclean (fun t u v hrun hmove hlater s ht => ?_) n h _ hs s rfl
  subst ht
  obtain ⟨hv, hsame⟩ := hmove.quiet hquiet
  obtain ⟨j, hj, hrun⟩ := joinTable_ok hrun
  refine ⟨j, hj, settled_iff.mpr ?_⟩
  rcases hrun with ⟨hflag, -⟩ | ⟨hu, hrun⟩ | ⟨-, hrun⟩
  · cases hflag
  · refine ⟨hsame ▸ updateModel_conforms hreal hu hrun, fun s hs => hlater _ ?_ s rfl⟩
    rw [(updateModel_ok hrun).2]
    exact List.mem_append_right _ (List.mem_map.mpr ⟨s, hs, rfl⟩)
  · exact absurd hv (createModel_executes hrun)

/-- A step that is quiet together with the deferred work after it was for something settled. -/
theorem settled_of_updateStep {model : ResolvedModel} {n : Nat}
    (hstep : m.updateStep (Catalog.session d database) model p = .ok () q)
    (hdrain : m.drain reg (Catalog.session d database) n q = some r)
    (hclean : r.report.failures = []) (hquiet : r.report.executed = []) :
    model.Settled reg m.config r.session := by
  have hR := advances_respects m d database
  obtain ⟨hq, hsame⟩ := (hR.drain advances_take reg n hdrain).quiet hquiet
  cases model with
  | table name =>
    obtain ⟨hp, rfl⟩ := updateStep_table hstep
    show r.session.has name .table = true
    rw [hsame, hp]
  | model model =>
    rcases updateStep_ok hstep with ⟨hp, h⟩ | ⟨-, h⟩
    · refine settled_iff.mpr ⟨hsame ▸ updateModel_conforms hreal hp h, fun s hs => ?_⟩
      refine settled_of_drain hreal hdrain hclean hquiet ?_
      rw [(updateModel_ok h).2]
      exact List.mem_append_right _ (List.mem_map.mpr ⟨s, hs, rfl⟩)
    · exact absurd hq (createModel_executes h)

/-- **There is nothing to do exactly when everything is settled.**  Some allowance is enough for
`autoMigrate` to succeed with an empty report, if and only if the literal tables are there and the
ordered models are settled. -/
theorem autoMigrate_quiet_iff {refs : List ModelRef} {out : List ResolvedModel} {c : Catalog}
    (ho : order reg true refs = .ok out) :
    (∃ n report c', m.autoMigrate reg (Catalog.session d database) n refs c =
        some (.ok report c') ∧ report.isEmpty = true) ↔
      ∀ model ∈ out, model.Settled reg m.config c := by
  constructor
  · rintro ⟨n, report, c', hrun, hempty⟩
    obtain ⟨out', q, ho', hall, rfl, rfl⟩ := autoMigrate_ok.mp hrun
    cases ho.symm.trans ho'
    have hR := advances_respects m d database
    simp only [Report.isEmpty, Bool.and_eq_true, List.isEmpty_iff] at hempty
    obtain ⟨hquiet, hclean⟩ := hempty
    -- A run that has executed nothing by its end has changed nothing on the way.
    have hstart : q.session = c := ((forEachModel_moves hR advances_take hall).quiet hquiet).2
    intro model hm
    refine hstart ▸ hR.run_establishes advances_take hR.updateStep
      (Q := fun model r => r.report.failures = [] → r.report.executed = [] →
        model.Settled reg m.config r.session)
      (fun model u v huv hu hv hv' => ?_)
      (fun model _ u v w hstep hdrain hw hw' =>
        settled_of_updateStep hreal hstep hdrain hw hw') hall model hm hclean hquiet
    obtain ⟨hu', hsame⟩ := huv.quiet hv'
    exact hsame ▸ hu (huv.clean hv) hu'
  · intro h
    obtain ⟨n, c', -, hn⟩ := autoMigrate_settled (c.session_tells d m.dialect database) ho c rfl h
    exact ⟨n, _, c', hn n (Nat.le_refl n), rfl⟩

end

end Migrator

end SchemaMigration
