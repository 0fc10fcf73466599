import SchemaMigration.Proofs.Catalog.Keyed
import SchemaMigration.Proofs.Migration.Additivity

/-!
# Creating tables and dropping them again

For models without join tables, `createTables` hands the session the changes that create their
tables, in dependency order, and `dropTables` those that drop them, in the opposite order: whenever
the session carries these changes out one after the other, the run succeeds without failures
(`createTables_of_execute`, `dropTables_of_execute`).  On a catalog that enforces foreign keys it
does, and `createTables_dropTables` puts this together.
-/

namespace SchemaMigration

/-! ## Changes one after the other -/

namespace Session

variable {σ : Type}

/-- Hands several changes to a session, one after the other. -/
def executeAll (s : Session σ) (changes : List Change) : Action σ Unit := changes.forM s.execute

theorem executeAll_append {s : Session σ} {changes rest : List Change} {x y : σ} :
    s.executeAll (changes ++ rest) x = .ok () y ↔
      ∃ z, s.executeAll changes x = .ok () z ∧ s.executeAll rest z = .ok () y := by
  unfold executeAll
  rw [List.forM_eq_forM, List.forM_append, Action.bind_ok]
  exact ⟨fun ⟨_, z, hz, h⟩ => ⟨z, hz, h⟩, fun ⟨z, hz, h⟩ => ⟨(), z, hz, h⟩⟩

theorem executeAll_cons {s : Session σ} {change : Change} {rest : List Change} {x y : σ} :
    s.executeAll (change :: rest) x = .ok () y ↔
      ∃ z, s.execute change x = .ok () z ∧ s.executeAll rest z = .ok () y := by
  unfold executeAll
  rw [List.forM_eq_forM, List.forM_cons, Action.bind_ok]
  exact ⟨fun ⟨_, z, hz, h⟩ => ⟨z, hz, h⟩, fun ⟨z, hz, h⟩ => ⟨(), z, hz, h⟩⟩

/-- The history of changes that were all carried out. -/
def carriedOut (changes : List Change) : List Exchange := changes.map fun c => ⟨.execute c, true⟩

/-- Changes that a session carries out go into its history as such. -/
theorem executeAll_recorded {s : Session σ} {changes : List Change} :
    ∀ {x y : σ} (history : List Exchange), s.executeAll changes x = .ok () y →
      s.recorded.executeAll changes (x, history) = .ok () (y, history ++ carriedOut changes) := by
  induction changes with
  | nil =>
    intro x y history h
    cases h
    show EStateM.Result.ok () (x, history) = _
    simp [carriedOut]
  | cons change changes ih =>
    intro x y history h
    obtain ⟨z, hz, h⟩ := executeAll_cons.mp h
    refine executeAll_cons.mpr ⟨(z, history ++ [⟨.execute change, true⟩]), ?_, ?_⟩
    · simp only [recorded, recordedAction, hz]
    · rw [ih _ h, carriedOut, carriedOut, List.map_cons, List.append_assoc]
      rfl

end Session

/-- The session on a keyed catalog carries out the changes that the catalog applies. -/
theorem KeyedCatalog.executeAll_ok (d : Dialect) (database : String) {changes : List Change} :
    ∀ {c c' : KeyedCatalog}, changes.foldlM apply c = .ok c' →
      (session d database).executeAll changes c = .ok () c' := by
  induction changes with
  | nil =>
    intro c c' h
    cases h
    rfl
  | cons change changes ih =>
    intro c c' h
    obtain ⟨c₁, hc₁, h⟩ := foldlM_cons_ok.mp h
    exact Session.executeAll_cons.mpr ⟨c₁, by simp only [session, hc₁], ih h⟩

/-- The changes in a history of changes that were all carried out. -/
theorem changesOf_carriedOut (changes : List Change) :
    changesOf (Session.carriedOut changes) = changes := by
  simp [changesOf, Session.carriedOut]

namespace Migrator

open SchemaMigration.Action (bind_ok)

variable {σ : Type} {m : Migrator} {reg : Registry} {s : Session σ}

/-- Stage `q` is that of a migration that went on from stage `p` without a failure, with the session
in state `x` now. -/
structure Proceeds (p q : Progress σ) (x : σ) : Prop where
  session : q.session = x
  failures : q.report.failures = p.report.failures

section

variable (hreal : m.config.dryRun = false)

include hreal

/-! ## The run, given that the session carries out its changes -/

theorem carryOut_of_execute {change : Change} {p : Progress σ} {x : σ}
    (h : s.execute change p.session = .ok () x) :
    ∃ q, m.carryOut s change p = .ok () q ∧ Proceeds p q x ∧ q.queue = p.queue := by
  have hperform : m.perform s change p.session = .ok () x := by
    rw [perform, if_neg (by simp [hreal])]
    exact h
  refine ⟨_, bind_ok.mpr ⟨(), { p with session := x }, ?_, rfl⟩, ⟨rfl, rfl⟩, rfl⟩
  rw [Work.onSession, hperform]

theorem carryOutAll_of_execute {changes : List Change} :
    ∀ {p : Progress σ} {x : σ}, s.executeAll changes p.session = .ok () x →
      ∃ q, changes.forM (m.carryOut s) p = .ok () q ∧ Proceeds p q x := by
  induction changes with
  | nil =>
    intro p x h
    cases h
    exact ⟨p, rfl, rfl, rfl⟩
  | cons change changes ih =>
    intro p x h
    obtain ⟨y, hy, h⟩ := Session.executeAll_cons.mp h
    obtain ⟨q, hq, hpq, -⟩ := carryOut_of_execute hreal hy
    obtain ⟨r, hr, hqr⟩ := ih (p := q) (by rwa [hpq.session])
    exact ⟨r, bind_ok.mpr ⟨(), q, hq, hr⟩, hqr.session, hqr.failures.trans hpq.failures⟩

/-- Indexes that wait are created one after the other. -/
theorem drain_createIndexes (reg : Registry) {table : String} {is : List Index} :
    ∀ {p : Progress σ} {x : σ}, p.queue.tasks = is.map (.createIndex table) →
      s.executeAll (is.map (.createIndex table)) p.session = .ok () x →
      ∃ n q, m.drain reg s n p = some q ∧ Proceeds p q x := by
  induction is with
  | nil =>
    intro p x hp h
    cases h
    refine ⟨0, p, ?_, rfl, rfl⟩
    rw [drain, (TaskQueue.pop?_eq_none_iff _).mpr hp]
  | cons i is ih =>
    intro p x hp h
    obtain ⟨y, hy, h⟩ := Session.executeAll_cons.mp h
    obtain ⟨q, hq, hpq, hqueue⟩ := carryOut_of_execute hreal
      (p := { p with queue := ⟨is.map (.createIndex table)⟩ }) hy
    have hattempt : m.attempt reg s (.createIndex table i)
        { p with queue := ⟨is.map (.createIndex table)⟩ } = q := by
      rw [attempt, runTask, hq]
    obtain ⟨n, r, hr, hqr⟩ := ih (p := q) (by rw [hqueue]) (by rwa [hpq.session])
    refine ⟨n + 1, r, ?_, hqr.session, hqr.failures.trans hpq.failures⟩
    rw [drain_cons hp, hattempt]
    exact hr

/-- The step for a model without join tables, and the deferred work after it, create its table. -/
theorem createStep_of_execute (reg : Registry) {a : Model} {plan : TablePlan}
    (hjoin : a.joinTables = [])
    (hplan : a.plan m.dialect m.config = .ok plan) {p : Progress σ} {x : σ}
    (hp : p.queue.tasks = [])
    (h : s.executeAll (a.creation m.dialect m.config) p.session = .ok () x) :
    ∃ q n r, m.createStep s (.model a) p = .ok () q ∧ m.drain reg s n q = some r ∧
      Proceeds p r x := by
  rw [Model.creation_eq hplan, TablePlan.changes] at h
  obtain ⟨y, hy, h⟩ := Session.executeAll_cons.mp h
  obtain ⟨q, hq, hpq, hqueue⟩ := carryOut_of_execute hreal hy
  have hlater : laterTasks a.table plan = plan.laterIndexes.map (.createIndex a.table) := by
    have hnone : plan.joinTables = [] := by
      unfold Model.plan at hplan
      split at hplan
      · cases hplan
      · cases hplan
        exact hjoin
    simp [laterTasks, hnone]
  obtain ⟨n, r, hr, hqr⟩ := drain_createIndexes hreal reg
    (p := { q with queue := q.queue.pushAll (laterTasks a.table plan) })
    (by rw [TaskQueue.tasks_pushAll, hqueue, hp, hlater, List.nil_append])
    (by rwa [hpq.session])
  refine ⟨_, n, r, ?_, hr, hqr.session, hqr.failures.trans hpq.failures⟩
  exact bind_ok.mpr ⟨plan, p, Action.ofExcept_ok.mpr ⟨hplan, rfl⟩, bind_ok.mpr ⟨(), q, hq, rfl⟩⟩

theorem forEachModel_of_execute (reg : Registry) {models : List Model}
    (hjoin : ∀ a ∈ models, a.joinTables = [])
    (hplan : ∀ a ∈ models, ∃ plan, a.plan m.dialect m.config = .ok plan) :
    ∀ {p : Progress σ} {x : σ}, p.queue.tasks = [] →
      s.executeAll (models.flatMap (·.creation m.dialect m.config)) p.session = .ok () x →
      ∃ n q, m.forEachModel reg s n (m.createStep s) (models.map .model) p = some (.ok () q) ∧
        Proceeds p q x := by
  induction models with
  | nil =>
    intro p x _ h
    cases h
    exact ⟨0, p, rfl, rfl, rfl⟩
  | cons a models ih =>
    intro p x hp h
    rw [List.flatMap_cons, Session.executeAll_append] at h
    obtain ⟨y, hy, h⟩ := h
    obtain ⟨plan, ha⟩ := hplan a (by simp)
    obtain ⟨q, n, r, hq, hr, hpr⟩ := createStep_of_execute hreal reg (hjoin a (by simp)) ha hp hy
    obtain ⟨k, t, ht, hrt⟩ := ih (fun b hb => hjoin b (List.mem_cons_of_mem a hb))
      (fun b hb => hplan b (List.mem_cons_of_mem a hb)) (p := r) (drain_empty n hr)
      (by rwa [hpr.session])
    exact ⟨_, t, forEachModel_of_cons hq hr ht, hrt.session, hrt.failures.trans hpr.failures⟩

/-- If the session carries out the changes that create the tables in order, then `createTables`
succeeds without failures. -/
theorem createTables_of_execute {refs : List ModelRef} {models : List Model}
    (horder : order reg false refs = .ok (models.map .model))
    (hjoin : ∀ a ∈ models, a.joinTables = [])
    (hplan : ∀ a ∈ models, ∃ plan, a.plan m.dialect m.config = .ok plan) {x y : σ}
    (h : s.executeAll (models.flatMap (·.creation m.dialect m.config)) x = .ok () y) :
    ∃ n report, (∀ k, n ≤ k → m.createTables reg s k refs x = some (.ok report y)) ∧
      report.failures = [] := by
  obtain ⟨n, q, hq, hpq⟩ := forEachModel_of_execute hreal reg hjoin hplan
    (p := m.start x) rfl h
  refine ⟨n, q.report, fun k hk => ?_, hpq.failures⟩
  unfold createTables migrate
  rw [horder]
  dsimp only
  rw [forEachModel_mono hk hq, ← hpq.session]
  rfl

/-- If the session carries out the changes that drop the tables in the opposite order, then
`dropTables` succeeds. -/
theorem dropTables_of_execute {refs : List ModelRef} {models : List Model}
    (horder : order reg false refs = .ok (models.map .model)) {x y : σ}
    (h : s.executeAll (models.reverse.map fun a => .dropTable a.table) x = .ok () y) :
    ∃ report, m.dropTables reg s refs x = .ok report y ∧ report.failures = [] := by
  obtain ⟨q, hq, hpq⟩ := carryOutAll_of_execute hreal (p := m.start x) h
  refine ⟨q.report, ?_, hpq.failures⟩
  have hdrops : ((models.map ResolvedModel.model).reverse.forM fun model =>
      m.carryOut s (.dropTable model.tableName)) (m.start x) = .ok () q := by
    rw [List.forM_eq_forM, ← List.map_reverse, List.forM_map]
    rwa [List.forM_eq_forM, List.forM_map] at hq
  unfold dropTables
  rw [horder]
  dsimp only
  rw [hdrops, ← hpq.session]
  rfl

end

/-! ## The theorem -/

/-- The tables that changes create, in order. -/
def createdTables (changes : List Change) : List String :=
  changes.filterMap fun
    | .createTable table _ _ => some table
    | _ => none

/-- The tables that changes drop, in order. -/
def droppedTables (changes : List Change) : List String :=
  changes.filterMap KeyedCatalog.dropped?

theorem createdTables_creations {d : Dialect} {config : Config} {models : List Model}
    (hplan : ∀ a ∈ models, ∃ plan, a.plan d config = .ok plan) :
    createdTables (models.flatMap (·.creation d config)) = models.map (·.table) := by
  induction models with
  | nil => rfl
  | cons a models ih =>
    obtain ⟨plan, hp⟩ := hplan a (by simp)
    have ha : createdTables (a.creation d config) = [a.table] := by
      rw [Model.creation_eq hp]
      unfold Model.plan at hp
      split at hp
      · cases hp
      · cases hp
        simp [createdTables, TablePlan.changes]
    have hrest := ih fun b hb => hplan b (List.mem_cons_of_mem a hb)
    unfold createdTables at ha hrest ⊢
    rw [List.flatMap_cons, List.filterMap_append, ha, hrest]
    rfl

/-- **There and back under foreign keys.**  Built models without join tables, with distinct tables
and without cycles, whose columns have types and whose keys refer to tables of the list or of the
database, are created on a database that has none of these tables and no foreign keys to them:
`createTables` succeeds, nothing that it executes is refused, no deferred work fails, and just the
listed tables are added.  Then `dropTables` succeeds, no drop is refused, and the database is what
it was.  Read backwards, the tables dropped are the tables created, in order. -/
theorem createTables_dropTables (m : Migrator) (reg : Registry) (d : Dialect) (database : String)
    (refs : List ModelRef) (models : List Model) (c : KeyedCatalog)
    (hreal : m.config.dryRun = false) (hlist : Orderable reg refs models)
    (hjoin : ∀ a ∈ models, a.joinTables = [])
    (htyped : ∀ a ∈ models, ∀ x ∈ a.columns, Text.isBlank (m.dialect.typeText x) = false)
    (hrefers : ∀ a ∈ models, ∀ k ∈ a.foreignKeys,
      k.referencedTable ∈ models.map (·.table) ∨ c.catalog.hasTable k.referencedTable = true)
    (hfresh : ∀ a ∈ models, c.catalog.hasTable a.table = false)
    (hkeys : ∀ k ∈ c.keys, k.referenced ∉ models.map (·.table)) :
    ∃ c' created history dropped drops,
      (∃ n, ∀ k, n ≤ k → m.createTables reg (KeyedCatalog.session d database).recorded k refs
        (c, []) = some (.ok created (c', history))) ∧
      (∀ x ∈ history, x.succeeded = true) ∧ created.failures = [] ∧
      (∀ a ∈ models, c'.catalog.hasTable a.table = true) ∧
      c'.without (models.map (·.table)) = c ∧
      m.dropTables reg (KeyedCatalog.session d database).recorded refs (c', []) =
        .ok dropped (c, drops) ∧
      (∀ x ∈ drops, x.succeeded = true) ∧
      (createdTables (changesOf history)).Perm (models.map (·.table)) ∧
      (droppedTables (changesOf drops)).reverse = createdTables (changesOf history) := by
  obtain ⟨placed, horder, hperm, hback⟩ := order_acyclic hlist
  have hmem : ∀ a ∈ placed, a ∈ models := fun a ha => hperm.subset ha
  have htables : (placed.map (·.table)).Perm (models.map (·.table)) := hperm.map _
  have hplan : ∀ a ∈ placed, ∃ plan, a.plan m.dialect m.config = .ok plan := fun a ha =>
    Model.plan_of_typed _ (htyped a (hmem a ha))
  have hadmits : c.catalog.Admits placed :=
    ⟨fun a ha => hfresh a (hmem a ha), htables.nodup_iff.mpr hlist.distinct, hback,
      fun a ha k hk => (hrefers a (hmem a ha) k hk).imp_left htables.mem_iff.mpr⟩
  obtain ⟨c', hcreate, hthere, hbetween, hdrop⟩ := KeyedCatalog.creations_drops hadmits
    (fun a ha => hlist.built a (hmem a ha)) hplan
    fun k hk => mt htables.mem_iff.mp (hkeys k hk)
  obtain ⟨n, created, hcreated, hclean⟩ := createTables_of_execute hreal horder
    (fun a ha => hjoin a (hmem a ha)) hplan
    (Session.executeAll_recorded [] (KeyedCatalog.executeAll_ok d database hcreate))
  obtain ⟨dropped, hdropped, -⟩ := dropTables_of_execute hreal horder
    (Session.executeAll_recorded [] (KeyedCatalog.executeAll_ok d database hdrop))
  have hsucceeded : ∀ changes, ∀ x ∈ [] ++ Session.carriedOut changes, x.succeeded = true := by
    intro changes x hx
    obtain ⟨_, -, rfl⟩ := List.mem_map.mp hx
    rfl
  have houter : c'.without (models.map (·.table)) = c'.without (placed.map (·.table)) := by
    refine KeyedCatalog.without_congr fun t => htables.mem_iff.symm
  refine ⟨c', created, _, dropped, _, ⟨n, hcreated⟩, hsucceeded _, hclean,
    fun a ha => hthere a (hperm.symm.subset ha), houter.trans hbetween, hdropped, hsucceeded _,
    ?_, ?_⟩
  · rw [List.nil_append, changesOf_carriedOut, createdTables_creations hplan]
    exact htables
  · rw [List.nil_append, List.nil_append, changesOf_carriedOut, changesOf_carriedOut,
      createdTables_creations hplan, droppedTables, List.filterMap_map]
    simp [Function.comp_def, KeyedCatalog.dropped?]

/-- A database of tenants, which refer to each other. -/
def tenantsOnly : KeyedCatalog where
  catalog := ⟨[("tenants", { columns := ["id", "parent_id"], constraints := ⟨["fk_parent"]⟩ })]⟩
  keys := [⟨"tenants", "fk_parent", "tenants"⟩]
  owned := by decide

/-- Orders, listed before the users that they refer to, are created after them, with their index by
a statement of its own; and they are dropped before them. -/
theorem createTables_dropTables_shop :
    ∃ c' created history dropped drops,
      (∃ n, ∀ k, n ≤ k → (Migrator.mk Mysql.dialect { separateIndexes := true }).createTables {}
        (KeyedCatalog.session Mysql.dialect "app").recorded k [.model shopOrders, .model shopUsers]
        (tenantsOnly, []) = some (.ok created (c', history))) ∧
      c'.catalog.hasTable "orders" = true ∧ c'.catalog.hasTable "users" = true ∧
      (Migrator.mk Mysql.dialect { separateIndexes := true }).dropTables {}
        (KeyedCatalog.session Mysql.dialect "app").recorded [.model shopOrders, .model shopUsers]
        (c', []) = .ok dropped (tenantsOnly, drops) := by
  have hlist : Orderable {} [.model shopOrders, .model shopUsers] [shopOrders, shopUsers] := by
    refine ⟨.cons rfl (.cons rfl .nil), ?_, by decide, ?_⟩
    · intro a ha
      simp only [List.mem_cons, List.not_mem_nil, or_false] at ha
      rcases ha with rfl | rfl
      · exact ⟨shopOrders, by with_unfolding_all rfl⟩
      · exact ⟨shopUsers, by with_unfolding_all rfl⟩
    · refine acyclic_of_rank (fun t => if t = "orders" then 1 else 0) fun a ha k hk => ?_
      simp only [List.map_cons, List.map_nil, List.mem_cons, ResolvedModel.model.injEq,
        List.not_mem_nil, or_false] at ha
      rcases ha with rfl | rfl
      · cases List.mem_singleton.mp hk
        decide
      · exact absurd hk List.not_mem_nil
  obtain ⟨c', created, history, dropped, drops, hcreate, -, -, hthere, -, hdrop, -⟩ :=
    createTables_dropTables (.mk Mysql.dialect { separateIndexes := true }) {} Mysql.dialect "app" _
      _ tenantsOnly rfl hlist (by decide) (by decide) (by decide) (by decide) (by decide)
  exact ⟨c', created, history, dropped, drops, hcreate, hthere shopOrders (by simp),
    hthere shopUsers (by simp), hdrop⟩

end Migrator

end SchemaMigration
