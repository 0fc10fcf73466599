import SchemaMigration.Proofs.Catalog.Indexes
import SchemaMigration.Proofs.Migration.ExistenceChecks
import SchemaMigration.Proofs.Migration.Returning

/-!
# Indexes with their tables or after them

`createTables` can create the indexes of a new table together with it or as deferred work.  The two
runs differ in their statements and in the tasks that wait, between which those for join tables make
new tables.  But they end alike (`createTables_separateIndexes`).

They are taken side by side.  At each stage the catalog of the run with separate indexes lacks just
the indexes that wait, and each of these can be created; the join tables that wait are the same
(`Lags`).  A task for an index is taken by one run alone and brings it closer to the other one; all
else both runs do at once, and fail at once.
-/

namespace SchemaMigration

/-- The clauses before those for the indexes. -/
def Model.leadingClauses (a : Model) (columns : List (Column × String)) : List Clause :=
  columns.map (fun c => .column c.1.name c.2) ++ a.primaryKeyClause (columns.map (·.2))

/-- The clauses behind those for the indexes. -/
def Model.trailingClauses (a : Model) : List Clause :=
  a.foreignKeys.map .foreignKey ++ a.checks.map .check

theorem Model.clauses_inline (config : Config) (a : Model) (columns : List (Column × String)) :
    a.clauses { config with separateIndexes := false } columns =
      a.leadingClauses columns ++ a.indexes.map .index ++ a.trailingClauses := by
  simp [clauses, leadingClauses, trailingClauses]

theorem Model.clauses_separate (config : Config) (a : Model) (columns : List (Column × String)) :
    a.clauses { config with separateIndexes := true } columns =
      a.leadingClauses columns ++ a.trailingClauses := by
  simp [clauses, leadingClauses, trailingClauses]

theorem Model.ne_index_of_mem_trailingClauses {a : Model} {clause : Clause}
    (h : clause ∈ a.trailingClauses) (i : Index) : clause ≠ .index i := by
  rcases List.mem_append.mp h with hk | hk
  · obtain ⟨k, -, rfl⟩ := List.mem_map.mp hk
    simp
  · obtain ⟨k, -, rfl⟩ := List.mem_map.mp hk
    simp

/-- The plan for a table with its indexes and the one without them.  The first leads to the catalog
to which the second leads, with these indexes besides those that waited before. -/
theorem Model.plan_inline {d : Dialect} {config : Config} {a : Model} {plan : TablePlan}
    (h : a.plan d { config with separateIndexes := true } = .ok plan) :
    ∃ inline, a.plan d { config with separateIndexes := false } = .ok inline ∧
      ∀ (c : Catalog) (xs : List (String × String)), (∀ x ∈ xs, c.hasTable x.1 = true) →
        (c.addIndexes xs).apply inline.change =
          (c.apply plan.change).map
            (·.addIndexes (xs ++ a.indexes.map fun i => (a.table, i.name))) := by
  unfold Model.plan at h ⊢
  cases htyped : typedColumns d a.table a.columns with
  | error e =>
    rw [htyped] at h
    cases h
  | ok columns =>
    rw [htyped] at h
    cases h
    refine ⟨_, rfl, fun c xs hxs => ?_⟩
    dsimp only
    rw [clauses_inline, clauses_separate]
    exact Catalog.apply_createTable_late hxs a.table _ _ a.indexes _
      fun _ => ne_index_of_mem_trailingClauses

/-- Without a plan for the one, there is none for the other. -/
theorem Model.plan_inline_error {d : Dialect} {config : Config} {a : Model} {e : MigrationError}
    (h : a.plan d { config with separateIndexes := true } = .error e) :
    a.plan d { config with separateIndexes := false } = .error e := by
  unfold Model.plan at h ⊢
  cases htyped : typedColumns d a.table a.columns with
  | error e' =>
    rw [htyped] at h
    exact h
  | ok columns =>
    rw [htyped] at h
    cases h

/-- The join tables among the work that follows a table are all that follows it if its indexes are
created with it. -/
theorem Model.joins_laterTasks (config : Config) (a : Model) :
    (a.laterTasks { config with separateIndexes := true }).filter (·.index?.isNone) =
      a.laterTasks { config with separateIndexes := false } := by
  have hindexes : (a.indexes.map (Task.createIndex a.table)).filter (·.index?.isNone) = [] := by
    simp [List.filter_eq_nil_iff, Task.index?]
  have hjoins : (a.joinTables.map (Task.joinTable · false)).filter (·.index?.isNone) =
      a.joinTables.map (Task.joinTable · false) := by
    simp [List.filter_eq_self, Task.index?]
  rw [laterTasks, laterTasks, if_pos rfl, if_neg Bool.false_ne_true, List.filter_append, hindexes,
    hjoins]
  rfl

namespace Migrator

/-- The same migrator, creating the indexes of a new table after it, or with it. -/
def separating (m : Migrator) (separate : Bool) : Migrator :=
  { m with config := { m.config with separateIndexes := separate } }

/-- Both runs succeed, with failures of the same tasks, or none does; and they lead to the same
state. -/
def EndsAlike {σ : Type} : Outcome σ Report → Outcome σ Report → Prop
  | .ok report state, .ok report' state' =>
    state = state' ∧ report.failures.map (·.task) = report'.failures.map (·.task)
  | .error _ state, .error _ state' => state = state'
  | _, _ => False

variable {m : Migrator} {reg : Registry} {d : Dialect} {database : String}
variable {out : List ResolvedModel} {p q P Q : Progress Catalog}

/-- Creating a table in earnest, as one case distinction. -/
theorem createModel_eq (d : Dialect) (database : String) (hreal : m.config.dryRun = false)
    (a : Model) (p : Progress Catalog) :
    m.createModel (Catalog.session d database) a p =
      match a.plan m.dialect m.config with
      | .error e => .error e p
      | .ok plan =>
        match p.session.apply plan.change with
        | .error refusal => .error (.exec (plan.change.sql d) refusal.message) p
        | .ok session => .ok ()
            { session
              report := { p.report with
                executed := p.report.executed ++ [plan.change.sql m.dialect] }
              queue := p.queue.pushAll (laterTasks a.table plan) } := by
  unfold createModel
  cases a.plan m.dialect m.config with
  | error e => rfl
  | ok plan =>
    show EStateM.bind (m.carryOut _ plan.change) (fun _ => Work.schedule _) p = _
    unfold EStateM.bind
    rw [carryOut_eq, performed, if_neg (by simp [hreal])]
    dsimp only
    cases p.session.apply plan.change <;> rfl

/-! ## One stage of both runs -/

/-- The run with separate indexes at `Q` lags behind the other one at `P` by the indexes that wait,
and by nothing else. -/
structure Lags (reg : Registry) (out : List ResolvedModel) (P Q : Progress Catalog) : Prop where
  session : P.session = Q.session.addIndexes (Q.queue.tasks.filterMap (·.index?))
  tasks : P.queue.tasks = Q.queue.tasks.filter (·.index?.isNone)
  failures : P.report.failures.map (·.task) = Q.report.failures.map (·.task)
  ready : IndexesReady Q.session Q.queue.tasks
  joins : ∀ s flag, .joinTable s flag ∈ Q.queue.tasks →
    flag = false ∧ ∀ j, reg.describe s = .ok j → Joined reg out j

theorem Lags.hasTable (h : Lags reg out P Q) (t : String) :
    P.session.hasTable t = Q.session.hasTable t := by
  rw [h.session, Catalog.hasTable_addIndexes]

/-- Once no task waits, the catalogs are the same. -/
theorem Lags.caughtUp (h : Lags reg out P Q) (hq : Q.queue.tasks = []) :
    P.session = Q.session := by
  rw [h.session, hq]
  rfl

/-- A failure of the same task on both sides. -/
theorem Lags.fail (h : Lags reg out P Q) {f g : Failure} (hfg : f.task = g.task) :
    Lags reg out (withFailure P f) (withFailure Q g) :=
  ⟨h.session, h.tasks, by simp [withFailure, h.failures, hfg], h.ready, h.joins⟩

/-- A waiting index is created by the one run and is there in the other. -/
theorem Lags.index (hreal : m.config.dryRun = false) (h : Lags reg out P Q) {table : String}
    {i : Index} {rest : TaskQueue} (hq : Q.queue.tasks = .createIndex table i :: rest.tasks) :
    Lags reg out P (m.attempt reg (Catalog.session d database) (.createIndex table i)
      { Q with queue := rest }) := by
  have hready := h.ready
  have hsession := h.session
  have htasks := h.tasks
  rw [hq] at hready hsession htasks
  obtain ⟨hthere, hnew⟩ := hready.ready (table, i.name) (by simp [Task.index?])
  obtain ⟨r, hr⟩ : ∃ r, m.attempt reg (Catalog.session d database) (.createIndex table i)
    { Q with queue := rest } = r := ⟨_, rfl⟩
  obtain ⟨hfailures, hrest⟩ := attempt_createIndex (p := { Q with queue := rest }) hreal hready hr
  have hcreated : r.session = Q.session.addIndex (table, i.name) := by
    rw [← hr, attempt, runTask, carryOut_eq, performed, if_neg (by simp [hreal]),
      Catalog.apply_createIndex hthere hnew]
  have hqueue := (attempt_createIndex_tasks m reg d database { Q with queue := rest } table i).1
  rw [hr] at hqueue ⊢
  refine ⟨?_, ?_, ?_, ?_, ?_⟩
  · rw [hcreated, hqueue, hsession]
    rfl
  · rw [hqueue, htasks]
    rfl
  · rw [hfailures, h.failures]
  · rw [hqueue]
    exact hrest
  · rw [hqueue]
    exact fun s flag hs => h.joins s flag (hq ▸ List.mem_cons_of_mem _ hs)

/-- A waiting join table is the next task of both runs. -/
theorem Lags.take (h : Lags reg out P Q) {source : Source} {flag : Bool} {rest : TaskQueue}
    (hq : Q.queue.tasks = .joinTable source flag :: rest.tasks) :
    ∃ rest' : TaskQueue, P.queue.tasks = .joinTable source flag :: rest'.tasks ∧
      Lags reg out { P with queue := rest' } { Q with queue := rest } := by
  have hready := h.ready
  have hsession := h.session
  have htasks := h.tasks
  rw [hq] at hready hsession htasks
  exact ⟨⟨rest.tasks.filter (·.index?.isNone)⟩, htasks, hsession, rfl, h.failures,
    ⟨hready.distinct, hready.ready⟩,
    fun s flag hs => h.joins s flag (hq ▸ List.mem_cons_of_mem _ hs)⟩

/-- Both runs create the table of a model, or both do not and stay where they are. -/
theorem Lags.create (d : Dialect) (database : String) (hreal : m.config.dryRun = false)
    (h : Lags reg out P Q) {a : Model} (ha : Involved reg out a) (hbuilt : a.IsBuilt) :
    (∃ P' Q', (m.separating false).createModel (Catalog.session d database) a P = .ok () P' ∧
        (m.separating true).createModel (Catalog.session d database) a Q = .ok () Q' ∧
        Lags reg out P' Q') ∨
      ∃ e e', (m.separating false).createModel (Catalog.session d database) a P = .error e P ∧
        (m.separating true).createModel (Catalog.session d database) a Q = .error e' Q := by
  have hinline := createModel_eq (m := m.separating false) d database hreal a P
  have hseparate := createModel_eq (m := m.separating true) d database hreal a Q
  cases hplan : a.plan (m.separating true).dialect (m.separating true).config with
  | error e =>
    have hnone : a.plan (m.separating false).dialect (m.separating false).config = .error e :=
      Model.plan_inline_error hplan
    rw [hnone] at hinline
    rw [hplan] at hseparate
    exact Or.inr ⟨e, e, hinline, hseparate⟩
  | ok plan =>
    obtain ⟨inline, hboth, happly⟩ := Model.plan_inline hplan
    have hplan' : a.plan (m.separating false).dialect (m.separating false).config = .ok inline :=
      hboth
    have hsession := happly Q.session _ fun x hx => (h.ready.ready x hx).1
    rw [← h.session] at hsession
    rw [hplan'] at hinline
    rw [hplan] at hseparate
    dsimp only at hinline hseparate
    rw [hsession] at hinline
    cases hchange : Q.session.apply plan.change with
    | error refusal =>
      rw [hchange] at hinline hseparate
      exact Or.inr ⟨_, _, hinline, hseparate⟩
    | ok c =>
      rw [hchange] at hinline hseparate
      have hmiss := ((Catalog.accepts_plan hplan).mp ⟨c, hchange⟩).1
      have hready :=
        IndexesReady.create (m := m.separating true) hreal hbuilt h.ready hmiss hseparate
      refine Or.inl ⟨_, _, hinline, hseparate, ?_, ?_, h.failures, hready, fun s flag hs => ?_⟩
      · have hlater := a.indexes_laterTasks (m.separating true).config
        dsimp only [TaskQueue.tasks_pushAll]
        rw [(Model.plan_ok hplan).2, List.filterMap_append, hlater]
        rfl
      · dsimp only [TaskQueue.tasks_pushAll]
        rw [(Model.plan_ok hplan).2, (Model.plan_ok hplan').2, List.filter_append, h.tasks]
        exact congrArg _ (a.joins_laterTasks m.config).symm
      · rcases createModel_joinTables hseparate hs with hold | ⟨rfl, hown⟩
        · exact h.joins s flag hold
        · exact ⟨rfl, fun j hj => Joined.step ha ⟨s, hown, hj⟩⟩

/-- Both runs do the task for a join table, or note the same failure. -/
theorem Lags.join (hreal : m.config.dryRun = false)
    (hbuilt : ∀ a, Involved reg out a → a.IsBuilt) (h : Lags reg out P Q) {source : Source}
    (hjoined : ∀ j, reg.describe source = .ok j → Joined reg out j) :
    Lags reg out
      ((m.separating false).attempt reg (Catalog.session d database) (.joinTable source false) P)
      ((m.separating true).attempt reg (Catalog.session d database) (.joinTable source false)
        Q) := by
  unfold attempt
  cases hj : reg.describe source with
  | error e =>
    rw [runTask, runTask, hj]
    exact h.fail rfl
  | ok j =>
    rw [runTask_join hj, runTask_join hj, h.hasTable]
    cases Q.session.hasTable j.table with
    | true => exact h
    | false =>
      have hinvolved : Involved reg out j := Or.inr (hjoined j hj)
      rcases h.create d database (m := m) hreal hinvolved (hbuilt j hinvolved) with
        ⟨P', Q', hP, hQ, h'⟩ | ⟨e, e', hP, hQ⟩
      · rw [if_neg Bool.false_ne_true, if_neg Bool.false_ne_true, hP, hQ]
        exact h'
      · rw [if_neg Bool.false_ne_true, if_neg Bool.false_ne_true, hP, hQ]
        exact h.fail rfl

/-! ## Whole runs -/

/-- The deferred work of the run with separate indexes is done in the other one as well, which may
take fewer tasks for it. -/
theorem Lags.drain (hreal : m.config.dryRun = false)
    (hbuilt : ∀ a, Involved reg out a → a.IsBuilt) {n : Nat} {R : Progress Catalog}
    (hdrain : (m.separating true).drain reg (Catalog.session d database) n Q = some R) :
    ∀ {P : Progress Catalog}, Lags reg out P Q → ∃ k P',
      (m.separating false).drain reg (Catalog.session d database) k P = some P' ∧
        Lags reg out P' R := by
  refine drain_induct (P := fun Q => ∀ {P}, Lags reg out P Q → ∃ k P',
    (m.separating false).drain reg (Catalog.session d database) k P = some P' ∧ Lags reg out P' R)
    (fun hR P h => ?_) (fun _ t rest Q hQ _ ih P h => ?_) n hdrain
  · have hP : P.queue.tasks = [] := by rw [h.tasks, hR]; rfl
    exact ⟨0, P, by rw [Migrator.drain, (TaskQueue.pop?_eq_none_iff _).mpr hP], h⟩
  · cases t with
    | createIndex table i => exact ih (h.index (m := m.separating true) hreal hQ)
    | joinTable source flag =>
      obtain ⟨rfl, hjoined⟩ := h.joins source flag (hQ ▸ List.mem_cons_self)
      obtain ⟨rest', hP, h'⟩ := h.take hQ
      obtain ⟨k, P', hk, hend⟩ := ih (h'.join hreal hbuilt hjoined)
      exact ⟨k + 1, P', by rw [drain_cons hP]; exact hk, hend⟩

/-- Whatever comes of the models with separate indexes, the like comes of them without. -/
theorem Lags.run (hreal : m.config.dryRun = false)
    (hbuilt : ∀ a, Involved reg out a → a.IsBuilt) {n : Nat} {models : List ResolvedModel} :
    ∀ {P Q : Progress Catalog} {r}, models ⊆ out → Lags reg out P Q → Q.queue.tasks = [] →
      (m.separating true).forEachModel reg (Catalog.session d database) n
        ((m.separating true).createStep (Catalog.session d database)) models Q = some r →
      ∃ k r', (m.separating false).forEachModel reg (Catalog.session d database) k
          ((m.separating false).createStep (Catalog.session d database)) models P = some r' ∧
        EndsAlike (conclude r') (conclude r) := by
  induction models with
  | nil =>
    intro P Q r _ h hempty hr
    cases hr
    exact ⟨0, _, rfl, h.caughtUp hempty, h.failures⟩
  | cons model models ih =>
    intro P Q r hsub h hempty hr
    cases model with
    | table name =>
      cases hr
      exact ⟨0, _, rfl, h.caughtUp hempty⟩
    | model a =>
      have ha : Involved reg out a := Or.inl (hsub List.mem_cons_self)
      rcases h.create d database (m := m) hreal ha (hbuilt a ha) with
        ⟨P₁, Q₁, hP, hQ, h₁⟩ | ⟨e, e', hP, hQ⟩
      · have hstep : (m.separating true).createStep (Catalog.session d database) (.model a) Q =
            .ok () Q₁ := hQ
        rw [forEachModel, hstep] at hr
        dsimp only at hr
        cases hdrain : (m.separating true).drain reg (Catalog.session d database) n Q₁ with
        | none =>
          rw [hdrain] at hr
          cases hr
        | some Q₂ =>
          rw [hdrain] at hr
          obtain ⟨k, P₂, hk, h₂⟩ := h₁.drain hreal hbuilt hdrain
          obtain ⟨l, r', hl, halike⟩ :=
            ih (fun x hx => hsub (List.mem_cons_of_mem _ hx)) h₂ (drain_empty n hdrain) hr
          exact ⟨max k l, r', forEachModel_of_cons hP hk hl, halike⟩
      · have hstep : (m.separating true).createStep (Catalog.session d database) (.model a) Q =
            .error e' Q := hQ
        rw [forEachModel, hstep] at hr
        cases hr
        have hstep' : (m.separating false).createStep (Catalog.session d database) (.model a) P =
            .error e P := hP
        exact ⟨0, .error e P, by rw [forEachModel, hstep'], h.caughtUp hempty⟩

/-- A larger allowance leads to the same end of a migration. -/
theorem migrate_mono {σ : Type} {s : Session σ} {n k : Nat} {discover : Bool}
    {step : ResolvedModel → Work σ Unit} {refs : List ModelRef} {state : σ} {r : Outcome σ Report}
    (h : m.migrate reg s n discover step refs state = some r) (hnk : n ≤ k) :
    m.migrate reg s k discover step refs state = some r := by
  unfold migrate at h ⊢
  cases ho : order reg discover refs with
  | error e =>
    rw [ho] at h
    exact h
  | ok models =>
    rw [ho] at h
    obtain ⟨u, hu, hr⟩ := Option.map_eq_some_iff.mp h
    exact Option.map_eq_some_iff.mpr ⟨u, forEachModel_mono hnk hu, hr⟩

/-- **Separate indexes make no difference in the end.**  On every catalog, and if all models that
are listed and all that their join tables lead to were accepted by the builder: `createTables` with
separate indexes and `createTables` without both return; they succeed in the same cases, lead to the
same catalog, and the deferred work that failed is the same. -/
theorem createTables_separateIndexes (m : Migrator) (reg : Registry) (d : Dialect)
    (database : String) (refs : List ModelRef) (c : Catalog) (hreal : m.config.dryRun = false)
    (hbuilt : ∀ out, order reg false refs = .ok out → ∀ a, Involved reg out a → a.IsBuilt) :
    ∃ n r r', (∀ k, n ≤ k →
        (m.separating false).createTables reg (Catalog.session d database) k refs c = some r ∧
        (m.separating true).createTables reg (Catalog.session d database) k refs c = some r') ∧
      EndsAlike r r' := by
  cases ho : order reg false refs with
  | error e =>
    refine ⟨0, .error (.parse e) c, .error (.parse e) c, fun _ _ => ⟨?_, ?_⟩, rfl⟩
    · rw [createTables, migrate, ho]
    · rw [createTables, migrate, ho]
  | ok out =>
    obtain ⟨n, r', hr'⟩ := forEachModel_creates (m := m.separating true) reg d database hreal out
      (p := (m.separating true).start c) rfl
    have hstart : Lags reg out ((m.separating false).start c) ((m.separating true).start c) :=
      ⟨rfl, rfl, rfl, ⟨List.nodup_nil, fun _ hx => absurd hx List.not_mem_nil⟩,
        fun _ _ hs => absurd hs List.not_mem_nil⟩
    obtain ⟨k, r, hr, halike⟩ := hstart.run hreal (hbuilt out ho) (List.Subset.refl out) rfl hr'
    have hinline : (m.separating false).createTables reg (Catalog.session d database) k refs c =
        some (conclude r) := by
      rw [createTables, migrate, ho]
      exact congrArg (Option.map conclude) hr
    have hseparate : (m.separating true).createTables reg (Catalog.session d database) n refs c =
        some (conclude r') := by
      rw [createTables, migrate, ho]
      exact congrArg (Option.map conclude) hr'
    exact ⟨max k n, conclude r, conclude r', fun l hl =>
      ⟨migrate_mono hinline ((Nat.le_max_left k n).trans hl),
        migrate_mono hseparate ((Nat.le_max_right k n).trans hl)⟩, halike⟩

theorem order_peopleListed : order linkRegistry false [.model people] = .ok [.model people] := by
  with_unfolding_all rfl

/-- The links of people are made with their index or before it, by two statements or by three. -/
theorem createTables_separateIndexes_people :
    ∃ n report report' c, (∀ k, n ≤ k →
        (plainMigrator.separating false).createTables linkRegistry
            (Catalog.session Mysql.dialect "app") k [.model people] {} = some (.ok report c) ∧
        (plainMigrator.separating true).createTables linkRegistry
            (Catalog.session Mysql.dialect "app") k [.model people] {} = some (.ok report' c)) ∧
      report.executed.length = 2 ∧ report'.executed.length = 3 ∧
      c.has "links" (.index "idx_links_to") = true := by
  obtain ⟨n, r, r', hrun, halike⟩ := createTables_separateIndexes plainMigrator linkRegistry
    Mysql.dialect "app" [.model people] {} rfl fun out ho a ha => by
      cases order_peopleListed.symm.trans ho
      exact isBuilt_people ha
  have hinline : (arrival ((plainMigrator.separating false).createTables linkRegistry
      (Catalog.session Mysql.dialect "app") 3 [.model people] {})).map
        (fun r => (r.1.executed.length, r.2.has "links" (.index "idx_links_to"))) =
      some (2, true) := by decide +kernel
  have hseparate : (arrival ((plainMigrator.separating true).createTables linkRegistry
      (Catalog.session Mysql.dialect "app") 3 [.model people] {})).map
        (fun r => r.1.executed.length) = some 3 := by decide +kernel
  obtain ⟨⟨report, c⟩, hr, hvalues⟩ := Option.map_eq_some_iff.mp hinline
  obtain ⟨hlength, hthere⟩ := Prod.mk.inj hvalues
  obtain ⟨⟨report', c'⟩, hr', hlength'⟩ := Option.map_eq_some_iff.mp hseparate
  -- The outcome is that of the runs above, whatever the allowance.
  obtain ⟨hk, hk'⟩ := hrun (max n 3) (Nat.le_max_left n 3)
  cases hk.symm.trans (migrate_mono (arrival_eq_some.mp hr) (Nat.le_max_right n 3))
  cases hk'.symm.trans (migrate_mono (arrival_eq_some.mp hr') (Nat.le_max_right n 3))
  obtain ⟨rfl, -⟩ := halike
  exact ⟨n, report, report', c, hrun, hlength, hlength', hthere⟩

end Migrator

end SchemaMigration
