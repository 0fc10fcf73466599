import SchemaMigration.Proofs.Migration.Creation
import SchemaMigration.Proofs.Migration.OnCatalog

/-!
# Deferred work that may fail

A task that fails leaves the catalog as it was and schedules nothing; all that remains of it is its
failure in the report (`attempt_join`).  So a task for a join table that is created if it is
missing, and else left alone, either shortens the queue or makes a table that was missing, and the
deferred work after the creation of a table always comes to an end (`drain_ends`), however many
tasks fail and even if join tables lead back to themselves.

Tasks for indexes do not fail as long as the indexes are missing on tables that are there, which is
what `IndexesReady` keeps track of.
-/

namespace SchemaMigration

/-- The table and the name of the index that a task is to create. -/
def Task.index? : Task → Option (String × String)
  | .createIndex table i => some (table, i.name)
  | .joinTable _ _ => none

/-- The indexes that wait to be created are distinct, and missing on tables that are there. -/
structure IndexesReady (c : Catalog) (tasks : List Task) : Prop where
  distinct : (tasks.filterMap (·.index?)).Nodup
  ready : ∀ x ∈ tasks.filterMap (·.index?),
    c.hasTable x.1 = true ∧ c.has x.1 (.index x.2) = false

/-- The indexes that are left for later when the table of a model is created. -/
theorem Model.indexes_laterTasks (config : Config) (a : Model) :
    (a.laterTasks config).filterMap (·.index?) =
      (if config.separateIndexes then a.indexes else []).map fun i => (a.table, i.name) := by
  have hjoins : (a.joinTables.map (Task.joinTable · false)).filterMap (·.index?) = [] := by
    rw [List.filterMap_map, List.filterMap_eq_nil_iff]
    exact fun _ _ => rfl
  rw [laterTasks, List.filterMap_append, hjoins, List.append_nil, List.filterMap_map]
  show List.filterMap (some ∘ fun i : Index => (a.table, i.name)) _ = _
  rw [List.filterMap_eq_map]

/-- A list keeps fewer entries under a condition that is stronger and fails for one of them. -/
theorem length_filter_lt {α : Type} {p q : α → Bool} {xs : List α} {x : α} (hx : x ∈ xs)
    (hweaker : ∀ y ∈ xs, q y = true → p y = true) (hp : p x = true) (hq : q x = false) :
    (xs.filter q).length < (xs.filter p).length := by
  have hsub : xs.filter q = (xs.filter p).filter q := by
    rw [List.filter_filter]
    refine List.filter_congr fun y hy => ?_
    cases hqy : q y with
    | false => rfl
    | true => simp [hweaker y hy hqy]
  rw [hsub, List.length_filter_lt_length_iff_exists]
  exact ⟨x, List.mem_filter.mpr ⟨hx, hp⟩, by simp [hq]⟩

namespace Migrator

open SchemaMigration.Action (after bind_ok bind_of_ok ofExcept_ok)

variable {m : Migrator} {reg : Registry} {d : Dialect} {database : String}
variable {p q : Progress Catalog}

/-! ## Single tasks -/

/-- A table that cannot be created leaves no trace. -/
theorem createModel_error {a : Model} {e : MigrationError}
    (h : m.createModel (Catalog.session d database) a p = .error e q) : q = p := by
  unfold createModel at h
  cases hplan : a.plan m.dialect m.config with
  | error e' =>
    rw [hplan] at h
    cases h
    rfl
  | ok plan =>
    rw [hplan] at h
    change EStateM.bind (m.carryOut _ plan.change)
      (fun _ => Work.schedule (laterTasks a.table plan)) p = _ at h
    unfold EStateM.bind at h
    rw [carryOut_eq] at h
    split at h
    · next hx =>
      cases h
    · next hx =>
      split at hx
      · cases hx
      · cases hx
        cases h
        rfl

/-- The table of a model with a plan is created exactly when the catalog accepts the plan. -/
theorem createModel_accepts (d : Dialect) (database : String) (hreal : m.config.dryRun = false)
    {a : Model} {plan : TablePlan} (hplan : a.plan m.dialect m.config = .ok plan) :
    (∃ q, m.createModel (Catalog.session d database) a p = .ok () q) ↔
      p.session.Accepts plan.change := by
  constructor
  · rintro ⟨q, h⟩
    obtain ⟨plan', u, hu, h⟩ := bind_ok.mp h
    obtain ⟨hplan', rfl⟩ := ofExcept_ok.mp hu
    cases hplan.symm.trans hplan'
    obtain ⟨_, v, hv, -⟩ := bind_ok.mp h
    exact ⟨_, applied hreal hv⟩
  · rintro ⟨c, hc⟩
    have hperformed : m.performed p.session plan.change = .ok c := by
      rw [performed, if_neg (by simp [hreal])]
      exact hc
    obtain ⟨u, hu⟩ : ∃ u, m.carryOut (Catalog.session d database) plan.change p = .ok () u :=
      ⟨_, by rw [carryOut_eq, hperformed]⟩
    exact ⟨_, bind_ok.mpr ⟨plan, p, ofExcept_ok.mpr ⟨hplan, rfl⟩, bind_ok.mpr ⟨(), u, hu, rfl⟩⟩⟩

/-- What a table refers to that is created is itself or was there. -/
theorem createModel_refers (hreal : m.config.dryRun = false) {a : Model}
    (h : m.createModel (Catalog.session d database) a p = .ok () q) :
    ∀ k ∈ a.foreignKeys, a.table = k.referencedTable ∨
      p.session.hasTable k.referencedTable = true := by
  obtain ⟨plan, _, hu, -⟩ := bind_ok.mp h
  have hplan := (ofExcept_ok.mp hu).1
  exact ((Catalog.accepts_plan hplan).mp ((createModel_accepts d database hreal hplan).mp ⟨q, h⟩)).2

/-- A stage with one more failure in the report. -/
def withFailure (p : Progress Catalog) (f : Failure) : Progress Catalog :=
  { p with report := { p.report with failures := p.report.failures ++ [f] } }

/-- The work of a task for a join table. -/
theorem runTask_join {source : Source} {flag : Bool} {j : Model}
    (hj : reg.describe source = .ok j) :
    m.runTask reg (Catalog.session d database) (.joinTable source flag) p =
      if p.session.hasTable j.table then
        if flag then m.updateModel (Catalog.session d database) j p else .ok () p
      else m.createModel (Catalog.session d database) j p := by
  rw [runTask]
  refine (bind_of_ok (ofExcept_ok.mpr ⟨mapError_ok.mpr hj, rfl⟩)).trans ?_
  refine (bind_of_ok (ask_eq m d database j.table .table p)).trans ?_
  rw [Catalog.has_table]
  cases p.session.hasTable j.table <;> cases flag <;> rfl

/-- A task for a join table leaves a table that is there, or creates the one of the model behind its
handle, or notes that this failed. -/
theorem attempt_join {source : Source} {j : Model} (hj : reg.describe source = .ok j) {r}
    (hr : m.attempt reg (Catalog.session d database) (.joinTable source false) p = r) :
    p.session.hasTable j.table = true ∧ r = p ∨
    p.session.hasTable j.table = false ∧
      (m.createModel (Catalog.session d database) j p = .ok () r ∨
        (∃ e, m.createModel (Catalog.session d database) j p = .error e p) ∧
          ∃ f, r = withFailure p f) := by
  subst hr
  unfold attempt
  rw [runTask_join hj]
  cases hthere : p.session.hasTable j.table with
  | true => exact Or.inl ⟨rfl, by simp⟩
  | false =>
    refine Or.inr ⟨rfl, ?_⟩
    cases hcreate : m.createModel (Catalog.session d database) j p with
    | ok _ q => exact Or.inl (by simp)
    | error e q =>
      cases createModel_error hcreate
      exact Or.inr ⟨⟨e, rfl⟩, ⟨(Task.joinTable source false).title, e.message⟩, rfl⟩

/-- A task whose handle describes no model only leaves a failure. -/
theorem attempt_undescribed (m : Migrator) (d : Dialect) (database : String)
    (p : Progress Catalog) {source : Source} (flag : Bool) {e : SchemaError}
    (hj : reg.describe source = .error e) :
    ∃ f, m.attempt reg (Catalog.session d database) (.joinTable source flag) p =
      withFailure p f := by
  rw [attempt, runTask, hj]
  exact ⟨_, rfl⟩

/-- A task for an index touches no other task. -/
theorem attempt_createIndex_tasks (m : Migrator) (reg : Registry) (d : Dialect) (database : String)
    (p : Progress Catalog) (table : String) (i : Index) :
    (m.attempt reg (Catalog.session d database) (.createIndex table i) p).queue = p.queue ∧
      ∀ t, (m.attempt reg (Catalog.session d database) (.createIndex table i) p).session.hasTable t
        = p.session.hasTable t := by
  rw [attempt, runTask, carryOut_eq]
  cases hc : m.performed p.session (.createIndex table i) with
  | error refusal => exact ⟨rfl, fun _ => rfl⟩
  | ok c =>
    refine ⟨rfl, fun t => ?_⟩
    unfold performed at hc
    split at hc
    · cases hc
      rfl
    · show c.hasTable t = _
      rw [Bool.eq_iff_iff, Catalog.hasTable_of_adds rfl hc]
      simp

/-! ## Indexes that wait -/

/-- An index that is ready is created, and the others stay ready. -/
theorem attempt_createIndex (hreal : m.config.dryRun = false) {table : String} {i : Index}
    {rest : List Task} (h : IndexesReady p.session (.createIndex table i :: rest)) {r}
    (hr : m.attempt reg (Catalog.session d database) (.createIndex table i) p = r) :
    r.report.failures = p.report.failures ∧ IndexesReady r.session rest := by
  subst hr
  obtain ⟨hfirst, hnodup⟩ := List.nodup_cons.mp h.distinct
  obtain ⟨ht, hi⟩ := h.ready (table, i.name) (by simp [Task.index?])
  obtain ⟨c, hc⟩ := Catalog.accepts_createIndex.mpr ⟨ht, hi⟩
  have hperformed : m.performed p.session (.createIndex table i) = .ok c := by
    rw [performed, if_neg (by simp [hreal])]
    exact hc
  rw [attempt, runTask, carryOut_eq, hperformed]
  refine ⟨rfl, hnodup, fun x hx => ?_⟩
  obtain ⟨hxt, hxi⟩ := h.ready x (List.mem_cons_of_mem _ hx)
  refine ⟨(Catalog.hasTable_of_adds rfl hc _).mpr (Or.inl hxt), ?_⟩
  rw [Bool.eq_false_iff, Ne, Catalog.apply_adds rfl hc, hxi]
  rintro (hf | ⟨htable, hname⟩)
  · cases hf
  · have hxname : x.2 = i.name := by simpa using hname
    have hx' : x = (table, i.name) := Prod.ext htable hxname
    exact hfirst (hx' ▸ hx)

/-- The indexes that are left for later when a table is created are ready then. -/
theorem IndexesReady.create (hreal : m.config.dryRun = false) {a : Model} (hbuilt : a.IsBuilt)
    (h : IndexesReady p.session p.queue.tasks) (hmiss : p.session.hasTable a.table = false)
    (hcreate : m.createModel (Catalog.session d database) a p = .ok () q) :
    IndexesReady q.session q.queue.tasks := by
  obtain ⟨hparts, hqueue⟩ := createModel_ok hreal hcreate
  have hold : ∀ x ∈ p.queue.tasks.filterMap (·.index?), x.1 ≠ a.table := by
    intro x hx hxa
    have hthere := (h.ready x hx).1
    rw [hxa, hmiss] at hthere
    cases hthere
  have hlater := a.indexes_laterTasks m.config
  constructor
  · rw [hqueue, List.filterMap_append, hlater, List.nodup_append]
    refine ⟨h.distinct, ?_, fun x hx y hy hxy => ?_⟩
    · split
      · have hnames := hbuilt.nodup_indexes
        have hpair := hnames.map (f := fun n => (a.table, n)) fun n k hnk => (Prod.ext_iff.mp hnk).2
        rwa [List.map_map] at hpair
      · simp
    · obtain ⟨i, -, rfl⟩ := List.mem_map.mp hy
      exact hold x hx (hxy ▸ rfl)
  · intro x hx
    rw [hqueue, List.filterMap_append, hlater, List.mem_append] at hx
    rcases hx with hx | hx
    · obtain ⟨hxt, hxi⟩ := h.ready x hx
      rw [← Catalog.has_table, hparts, Catalog.has_table]
      refine ⟨Or.inl hxt, ?_⟩
      rw [Bool.eq_false_iff, Ne, hparts, hxi]
      rintro (hf | ⟨hxa, -⟩)
      · cases hf
      · exact hold x hx hxa
    · split at hx
      · next hsep =>
        obtain ⟨i, -, rfl⟩ := List.mem_map.mp hx
        rw [← Catalog.has_table, hparts]
        refine ⟨Or.inr ⟨rfl, by simp [Model.createdParts]⟩, ?_⟩
        rw [Bool.eq_false_iff, Ne, hparts, Catalog.not_has_of_fresh hmiss]
        simp [Model.createdParts, hsep]
      · exact absurd hx (by simp)

/-! ## The deferred work ends -/

/-- Only join tables that are left alone when they are there wait to be looked at. -/
def LeavesExisting (p : Progress Catalog) : Prop :=
  ∀ s flag, .joinTable s flag ∈ p.queue.tasks → flag = false

/-- The described tables that are not there. -/
def missing (reg : Registry) (c : Catalog) : List String :=
  reg.tables.filter fun t => !c.hasTable t

/-- A created table that was missing is missing no more, and no other one is. -/
theorem missing_lt {c c' : Catalog} {t : String} (ht : t ∈ reg.tables)
    (hc : c.hasTable t = false) (hc' : ∀ u, c'.hasTable u = true ↔ c.hasTable u = true ∨ u = t) :
    (missing reg c').length < (missing reg c).length := by
  refine length_filter_lt ht (fun u _ hu => ?_) (by simp [hc]) (by simp [(hc' t).mpr (Or.inr rfl)])
  rw [Bool.not_eq_true'] at hu ⊢
  exact Bool.eq_false_iff.mpr fun hthere => Bool.eq_false_iff.mp hu ((hc' u).mpr (Or.inl hthere))

/-- **The deferred work ends.**  The induction is on the number of tables that are missing and, for
as many, on the tasks that wait. -/
theorem drain_ends (reg : Registry) (d : Dialect) (database : String)
    (hreal : m.config.dryRun = false) :
    ∀ (n : Nat) (tasks : List Task) {p : Progress Catalog}, (missing reg p.session).length = n →
      p.queue.tasks = tasks → LeavesExisting p →
      ∃ k q, m.drain reg (Catalog.session d database) k p = some q := by
  intro n
  induction n using Nat.strongRecOn with
  | _ n ihn =>
    intro tasks
    induction tasks with
    | nil =>
      intro p _ hp _
      exact ⟨0, p, by rw [drain, (TaskQueue.pop?_eq_none_iff _).mpr hp]⟩
    | cons t rest iht =>
      intro p hn hp hleave
      obtain ⟨r, hr⟩ : ∃ r, m.attempt reg (Catalog.session d database) t
        { p with queue := ⟨rest⟩ } = r := ⟨_, rfl⟩
      have hrest : ∀ s flag, .joinTable s flag ∈ rest → flag = false := fun s flag hs =>
        hleave s flag (hp ▸ List.mem_cons_of_mem t hs)
      -- One task less with as many tables missing, or one table less missing.
      have hnext : (r.queue.tasks = rest ∧ missing reg r.session = missing reg p.session) ∨
          (missing reg r.session).length < n ∧ LeavesExisting r := by
        cases t with
        | createIndex table i =>
          obtain ⟨hqueue, hsame⟩ := attempt_createIndex_tasks m reg d database
            { p with queue := ⟨rest⟩ } table i
          rw [hr] at hqueue hsame
          refine Or.inl ⟨by rw [hqueue], ?_⟩
          unfold missing
          simp only [hsame]
        | joinTable source flag =>
          cases hleave source flag (by simp [hp])
          cases hj : reg.describe source with
          | error e =>
            obtain ⟨f, hf⟩ := attempt_undescribed m d database { p with queue := ⟨rest⟩ } false hj
            rw [hr] at hf
            subst hf
            exact Or.inl ⟨rfl, rfl⟩
          | ok j =>
            rcases attempt_join hj hr with ⟨-, rfl⟩ | ⟨hmiss, hcreate | ⟨-, f, rfl⟩⟩
            · exact Or.inl ⟨rfl, rfl⟩
            · refine Or.inr ⟨hn ▸ missing_lt (Registry.mem_tables hj) hmiss
                (createModel_hasTable hreal (p := { p with queue := ⟨rest⟩ }) hcreate),
                fun s flag hs => ?_⟩
              rcases createModel_joinTables hcreate hs with hs | ⟨rfl, -⟩
              · exact hrest s flag hs
              · rfl
            · exact Or.inl ⟨rfl, rfl⟩
      rcases hnext with ⟨hqueue, hmissing⟩ | ⟨hlt, hleave'⟩
      · obtain ⟨k, q, hq⟩ := iht (p := r) (hmissing ▸ hn) hqueue fun s flag hs =>
          hrest s flag (hqueue ▸ hs)
        exact ⟨k + 1, q, by rw [drain_cons hp, hr]; exact hq⟩
      · obtain ⟨k, q, hq⟩ := ihn _ hlt r.queue.tasks rfl rfl hleave'
        exact ⟨k + 1, q, by rw [drain_cons hp, hr]; exact hq⟩

/-- What every task keeps, failing or not, the deferred work keeps. -/
theorem drain_keeps {σ : Type} {s : Session σ} {I : Progress σ → Prop}
    (hstep : ∀ t p rest, p.queue.tasks = t :: rest.tasks → I p →
      I (m.attempt reg s t { p with queue := rest }))
    (n : Nat) {p r : Progress σ} (h : m.drain reg s n p = some r) (hp : I p) : I r :=
  drain_induct (P := fun p => I p → I r) (fun _ => id)
    (fun _ t rest p htasks _ hrest hp => hrest (hstep t p rest htasks hp)) n h hp

end Migrator

end SchemaMigration
