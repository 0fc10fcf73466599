import SchemaMigration.Proofs.Migration.Steps

/-!
# Migrations of a catalog

The session on a catalog answers truthfully and refuses only what the catalog refuses, so that every
step of a migration on it can be said in terms of the catalog: `addMissing_eq` and `carryOut_ok` are
the two facts that the others rest on.

`Advances` is what every stretch of such a migration keeps: the catalog grows, both lists of the
report get longer at their ends, and a stretch that executes nothing changes nothing.
-/

namespace SchemaMigration

/-- The parts that a table has once its model is migrated, those of its indexes where they are
migrated too. -/
def Model.parts (config : Config) (m : Model) : List Part :=
  .table :: m.columns.map (.column ·.name)
    ++ m.foreignKeys.map (.constraint ·.name)
    ++ m.checks.map (.constraint ·.name)
    ++ if config.migrateIndexes then m.indexes.map (.index ·.name) else []

/-- The catalog has all that a model declares; of indexes only where they are migrated. -/
def Catalog.Conforms (config : Config) (c : Catalog) (m : Model) : Prop :=
  ∀ p ∈ m.parts config, c.has m.table p = true

theorem Catalog.Conforms.grows {config : Config} {c c' : Catalog} {m : Model}
    (h : c.Conforms config m) (hg : c.Grows c') : c'.Conforms config m :=
  fun p hp => hg m.table p (h p hp)

/-- Apart from the table itself, the parts of a model are those of its additions. -/
theorem Model.parts_eq (d : Dialect) (config : Config) (m : Model) :
    m.parts config = .table :: (m.additions d config).map (·.1) := by
  unfold parts additions
  split <;> simp [Function.comp_def]

theorem Model.mem_parts_iff {d : Dialect} {config : Config} {m : Model} {p : Part} :
    p ∈ m.parts config ↔ p = .table ∨ ∃ x ∈ m.additions d config, x.1 = p := by
  rw [parts_eq d, List.mem_cons, List.mem_map]

/-- What a task is for is there: the index, or the table of the model behind the handle. -/
def Task.Done (reg : Registry) (c : Catalog) : Task → Prop
  | .createIndex table i => c.has table (.index i.name) = true
  | .joinTable source _ => ∃ j, reg.describe source = .ok j ∧ c.has j.table .table = true

theorem Task.Done.grows {reg : Registry} {c c' : Catalog} {t : Task} (h : t.Done reg c)
    (hg : c.Grows c') : t.Done reg c' := by
  cases t with
  | createIndex table i => exact hg _ _ h
  | joinTable source migrateExisting =>
    obtain ⟨j, hj, hc⟩ := h
    exact ⟨j, hj, hg _ _ hc⟩

namespace Migrator

open SchemaMigration.Action (Moves after bind_ok ofExcept_ok)

variable {m : Migrator} {reg : Registry} {d : Dialect} {database : String}
variable {p q : Progress Catalog}

/-! ## Single steps -/

/-- The question for a part is answered from the catalog. -/
theorem ask_eq (m : Migrator) (d : Dialect) (database table : String) (part : Part)
    (p : Progress Catalog) : Work.onSession (.ask ((Catalog.session d database).affirms m.dialect
      fun named => part.question table named)) p = .ok (p.session.has table part) p := by
  unfold Work.onSession Action.ask
  rw [Catalog.session_affirms]

/-- A part is added only if the table lacks it. -/
theorem addMissing_eq (table : String) (part : Part) (change : Except MigrationError Change) :
    m.addMissing (Catalog.session d database) (fun named => part.question table named) change p =
      if p.session.has table part then .ok () p
      else (Action.ofExcept change >>= m.carryOut (Catalog.session d database)) p := by
  unfold addMissing
  show EStateM.bind _ _ p = _
  rw [EStateM.bind, ask_eq]
  dsimp only
  split
  · rfl
  · rfl

/-- What a change does to the catalog: nothing when changes are only planned. -/
def performed (m : Migrator) (c : Catalog) (change : Change) : Except Refusal Catalog :=
  if m.config.dryRun then .ok c else c.apply change

theorem perform_eq (change : Change) (c : Catalog) :
    m.perform (Catalog.session d database) change c =
      match m.performed c change with
      | .ok c' => .ok () c'
      | .error refusal => .error (.exec (change.sql d) refusal.message) c := by
  unfold perform performed
  split
  · rfl
  · rfl

/-- A change that is carried out is applied to the catalog and noted; a refused one leaves all as it
was. -/
theorem carryOut_eq (change : Change) :
    m.carryOut (Catalog.session d database) change p =
      match m.performed p.session change with
      | .ok c => .ok ()
          { p with
            session := c
            report := { p.report with executed := p.report.executed ++ [change.sql m.dialect] } }
      | .error refusal => .error (.exec (change.sql d) refusal.message) p := by
  unfold carryOut
  show EStateM.bind _ _ p = _
  unfold EStateM.bind Work.onSession
  rw [perform_eq]
  cases m.performed p.session change with
  | error refusal => rfl
  | ok c => rfl

theorem carryOut_ok {change : Change}
    (h : m.carryOut (Catalog.session d database) change p = .ok () q) :
    m.performed p.session change = .ok q.session ∧
      q.report.executed = p.report.executed ++ [change.sql m.dialect] ∧
      q.report.failures = p.report.failures ∧ q.queue = p.queue := by
  rw [carryOut_eq] at h
  split at h
  · next c hc =>
    cases h
    exact ⟨hc, rfl, rfl, rfl⟩
  · cases h

/-- Work on a model: its table is updated if it is there, and created if not. -/
def WorksOn (m : Migrator) (d : Dialect) (database : String) (a : Model)
    (p q : Progress Catalog) : Prop :=
  p.session.has a.table .table = true ∧
      m.updateModel (Catalog.session d database) a p = .ok () q ∨
    p.session.has a.table .table = false ∧
      m.createModel (Catalog.session d database) a p = .ok () q

/-- The task of a join table works on the model behind the handle, or leaves a table that is
there. -/
theorem joinTable_ok {source : Source} {migrateExisting : Bool}
    (h : m.runTask reg (Catalog.session d database) (.joinTable source migrateExisting) p =
      .ok () q) :
    ∃ j, reg.describe source = .ok j ∧
      (migrateExisting = false ∧ p.session.has j.table .table = true ∧ q = p ∨
        m.WorksOn d database j p q) := by
  unfold runTask at h
  obtain ⟨j, u, hu, h⟩ := bind_ok.mp h
  obtain ⟨hj, rfl⟩ := ofExcept_ok.mp hu
  obtain ⟨there, u, hu, h⟩ := bind_ok.mp h
  cases (ask_eq m d database j.table .table p).symm.trans hu
  refine ⟨j, mapError_ok.mp hj, ?_⟩
  cases hp : p.session.has j.table .table with
  | false =>
    rw [hp] at h
    exact Or.inr (Or.inr ⟨hp, h⟩)
  | true =>
    rw [hp] at h
    cases migrateExisting with
    | true => exact Or.inr (Or.inl ⟨hp, h⟩)
    | false =>
      cases h
      exact Or.inl ⟨rfl, rfl, rfl⟩

/-- The step for a literal name finds the table there. -/
theorem updateStep_table {name : String}
    (h : m.updateStep (Catalog.session d database) (.table name) p = .ok () q) :
    p.session.has name .table = true ∧ q = p := by
  obtain ⟨there, u, hu, h⟩ := bind_ok.mp h
  cases (ask_eq m d database name .table p).symm.trans hu
  cases hp : p.session.has name .table with
  | true =>
    rw [hp] at h
    cases h
    exact ⟨rfl, rfl⟩
  | false =>
    rw [hp] at h
    cases h

/-- The step for a model works on it. -/
theorem updateStep_ok {model : Model}
    (h : m.updateStep (Catalog.session d database) (.model model) p = .ok () q) :
    m.WorksOn d database model p q := by
  unfold updateStep at h
  obtain ⟨there, u, hu, h⟩ := bind_ok.mp h
  cases (ask_eq m d database model.table .table p).symm.trans hu
  cases hp : p.session.has model.table .table with
  | true =>
    rw [hp] at h
    exact Or.inl ⟨hp, h⟩
  | false =>
    rw [hp] at h
    exact Or.inr ⟨hp, h⟩

/-! ## What every stretch keeps -/

/-- Stage `q` of a migration of a catalog can follow upon stage `p`. -/
structure Advances (p q : Progress Catalog) : Prop where
  grows : p.session.Grows q.session
  executed : p.report.executed <+: q.report.executed
  failures : p.report.failures <+: q.report.failures
  still : q.report.executed = p.report.executed → q.session = p.session

theorem Advances.refl (p : Progress Catalog) : Advances p p :=
  ⟨Catalog.Grows.refl _, List.prefix_refl _, List.prefix_refl _, fun _ => rfl⟩

theorem Advances.trans {p q r : Progress Catalog} (h : Advances p q) (h' : Advances q r) :
    Advances p r := by
  refine ⟨h.grows.trans h'.grows, h.executed.trans h'.executed, h.failures.trans h'.failures,
    fun he => ?_⟩
  -- What is as long as before after both stretches is so after the first.
  have hq : q.report.executed = p.report.executed :=
    (he ▸ h'.executed).eq_of_length_le h.executed.length_le
  rw [h'.still (he.trans hq.symm), h.still hq]

/-- Nothing failed by an earlier stage if nothing has failed by a later one. -/
theorem Advances.clean (h : Advances p q) (hq : q.report.failures = []) :
    p.report.failures = [] :=
  List.prefix_nil.mp (hq ▸ h.failures)

theorem advances_take (p : Progress Catalog) (queue : TaskQueue) :
    Advances p { p with queue } :=
  ⟨Catalog.Grows.refl _, List.prefix_refl _, List.prefix_refl _, fun _ => rfl⟩

theorem performed_grows {c c' : Catalog} {change : Change} {table : String} {parts : List Part}
    (ha : change.adds = some (table, parts)) (h : m.performed c change = .ok c') : c.Grows c' := by
  unfold performed at h
  split at h
  · cases h
    exact Catalog.Grows.refl c
  · exact Catalog.apply_grows ha h

/-- Every step of a migration of a catalog advances it. -/
theorem advances_respects (m : Migrator) (d : Dialect) (database : String) :
    m.Respects (Catalog.session d database) Advances where
  refl := Advances.refl
  trans _ _ _ := Advances.trans
  asking question p := Advances.refl p
  adding change ha p := by
    unfold after
    cases h : m.carryOut (Catalog.session d database) change p with
    | error e q =>
      rw [carryOut_eq] at h
      split at h <;> cases h
      exact Advances.refl p
    | ok u q =>
      obtain ⟨table, parts, ha⟩ := ha.adds
      obtain ⟨hc, he, hf, -⟩ := carryOut_ok h
      refine ⟨performed_grows ha hc, he ▸ List.prefix_append _ _, hf ▸ List.prefix_refl _,
        fun hs => ?_⟩
      exact absurd (he.symm.trans hs) (by simp)
  scheduling ts p := advances_take p _
  failing p failure :=
    ⟨Catalog.Grows.refl _, List.prefix_refl _, List.prefix_append _ _, fun _ => rfl⟩

theorem WorksOn.advances {a : Model} (h : m.WorksOn d database a p q) : Advances p q := by
  have hR := advances_respects m d database
  rcases h with ⟨-, h⟩ | ⟨-, h⟩
  · exact (hR.updateModel a).of_ok h
  · exact (hR.createModel a).of_ok h

/-- A step that concerns one table: no other table gets anything, and no task is scheduled. -/
structure Stays (table : String) (p q : Progress Catalog) : Prop where
  others : ∀ t part, q.session.has t part = true → p.session.has t part = true ∨ t = table
  queue : q.queue = p.queue

theorem Stays.refl (table : String) (p : Progress Catalog) : Stays table p p :=
  ⟨fun _ _ h => Or.inl h, rfl⟩

theorem Stays.trans {table : String} {p q r : Progress Catalog} (h : Stays table p q)
    (h' : Stays table q r) : Stays table p r :=
  ⟨fun t part hr => (h'.others t part hr).elim (h.others t part) Or.inr, h'.queue.trans h.queue⟩

theorem carryOut_stays {change : Change} {table : String} {parts : List Part}
    (ha : change.adds = some (table, parts)) :
    Moves (Stays table) (m.carryOut (Catalog.session d database) change) := by
  intro p
  unfold after
  cases h : m.carryOut (Catalog.session d database) change p with
  | error e q =>
    rw [carryOut_eq] at h
    split at h <;> cases h
    exact Stays.refl table p
  | ok u q =>
    obtain ⟨hc, -, -, hq⟩ := carryOut_ok h
    refine ⟨fun t part ht => ?_, hq⟩
    unfold performed at hc
    split at hc
    · rw [Except.ok.inj hc]
      exact Or.inl ht
    · exact ((Catalog.apply_adds ha hc t part).mp ht).imp_right And.left

theorem addMissing_stays {table : String} {part : Part} {change : Except MigrationError Change}
    (ha : ∀ c, change = .ok c → c.adds = some (table, [part])) :
    Moves (Stays table) (m.addMissing (Catalog.session d database)
      (fun named => part.question table named) change) := by
  intro p
  unfold after
  rw [addMissing_eq]
  by_cases hp : p.session.has table part = true
  · rw [if_pos hp]
    exact Stays.refl table p
  · rw [if_neg hp]
    cases change with
    | error e => exact Stays.refl table p
    | ok c => exact carryOut_stays (ha c rfl) p

/-- Updating a table concerns this table only, and its join tables wait behind all other tasks. -/
theorem updateModel_ok {model : Model}
    (h : m.updateModel (Catalog.session d database) model p = .ok () q) :
    (∀ t part, q.session.has t part = true → p.session.has t part = true ∨ t = model.table) ∧
      q.queue.tasks = p.queue.tasks ++ updates model.joinTables := by
  rw [updateModel_eq] at h
  obtain ⟨_, u, hu, hq⟩ := bind_ok.mp h
  cases hq
  have hstays := (Action.moves_forM (Stays.refl model.table) (fun _ _ _ => Stays.trans)
    fun x hx => addMissing_stays fun c hc => Model.adds_of_mem_additions hx hc).of_ok hu
  refine ⟨hstays.others, ?_⟩
  show u.queue.tasks ++ _ = _
  rw [hstays.queue]

/-- A table that is created is created as planned for its model, and the tasks that follow wait
behind all others. -/
theorem createModel_performed {model : Model}
    (h : m.createModel (Catalog.session d database) model p = .ok () q) :
    ∃ plan, model.plan m.dialect m.config = .ok plan ∧
      m.performed p.session plan.change = .ok q.session ∧
      q.queue.tasks = p.queue.tasks ++ model.laterTasks m.config := by
  unfold createModel at h
  obtain ⟨plan, u, hu, h⟩ := bind_ok.mp h
  obtain ⟨hplan, rfl⟩ := ofExcept_ok.mp hu
  obtain ⟨_, u, hu, h⟩ := bind_ok.mp h
  cases h
  refine ⟨plan, hplan, (carryOut_ok hu).1, ?_⟩
  show u.queue.tasks ++ _ = _
  rw [(carryOut_ok hu).2.2.2, (Model.plan_ok hplan).2]

/-- The join tables that wait once a table is created. -/
theorem createModel_joinTables {model : Model}
    (h : m.createModel (Catalog.session d database) model p = .ok () q) {s : Source} {flag : Bool}
    (hs : .joinTable s flag ∈ q.queue.tasks) :
    .joinTable s flag ∈ p.queue.tasks ∨ flag = false ∧ s ∈ model.joinTables := by
  obtain ⟨_, -, -, hqueue⟩ := createModel_performed h
  rw [hqueue, List.mem_append] at hs
  exact hs.imp_right Model.joinTable_mem_laterTasks.mp

/-- Work on a model schedules work on its join tables only. -/
theorem WorksOn.tasks {a : Model} (h : m.WorksOn d database a p q) {s : Source} {flag : Bool}
    (hs : .joinTable s flag ∈ q.queue.tasks) :
    .joinTable s flag ∈ p.queue.tasks ∨ s ∈ a.joinTables := by
  rcases h with ⟨-, h⟩ | ⟨-, h⟩
  · rw [(updateModel_ok h).2, List.mem_append, updates, List.mem_map] at hs
    rcases hs with hs | ⟨t, ht, heq⟩
    · exact Or.inl hs
    · cases heq
      exact Or.inr ht
  · exact (createModel_joinTables h hs).imp_right And.right

/-! ## What a real step brings about -/

section

variable (hreal : m.config.dryRun = false)

include hreal

/-- A change that is carried out in earnest is applied. -/
theorem applied {change : Change}
    (h : m.carryOut (Catalog.session d database) change p = .ok () q) :
    p.session.apply change = .ok q.session := by
  have hc := (carryOut_ok h).1
  unfold performed at hc
  rwa [if_neg (by simp [hreal])] at hc

theorem addMissing_has {table : String} {part : Part} {change : Except MigrationError Change}
    (hadds : ∀ c, change = .ok c → c.adds = some (table, [part]))
    (h : m.addMissing (Catalog.session d database) (fun named => part.question table named)
      change p = .ok () q) : q.session.has table part = true := by
  rw [addMissing_eq] at h
  split at h
  · next hp =>
    cases h
    exact hp
  · obtain ⟨c, u, hu, hq⟩ := bind_ok.mp h
    obtain ⟨hc, rfl⟩ := ofExcept_ok.mp hu
    exact Catalog.apply_has (hadds c hc) (applied hreal hq) (by simp)

/-- A table that is there conforms to its model when it is updated. -/
theorem updateModel_conforms {model : Model} (hp : p.session.has model.table .table = true)
    (h : m.updateModel (Catalog.session d database) model p = .ok () q) :
    q.session.Conforms m.config model := by
  have hR := advances_respects m d database
  have hmove := (hR.updateModel model).of_ok h
  rw [updateModel_eq] at h
  obtain ⟨_, u, hu, hq⟩ := bind_ok.mp h
  cases hq
  -- Each addition is there after its turn, and the later ones take nothing away.
  have hparts := Action.forM_establishes
    (Q := fun x (r : Progress Catalog) => r.session.has model.table x.1 = true)
    (fun x hx => hR.addMissing fun c hc => Model.additive_of_mem_additions hx hc)
    (fun x r r' hr hx => hr.grows model.table x.1 hx) hR.refl hR.trans
    (fun x hx r r' hr => addMissing_has hreal (fun c hc => Model.adds_of_mem_additions hx hc) hr) hu
  intro part hpart
  rcases Model.mem_parts_iff.mp hpart with rfl | ⟨x, hx, rfl⟩
  · exact hmove.grows _ _ hp
  · exact hparts x hx

/-- A table that is created has the parts that it is created with, and no other table changes; the
tasks that follow wait behind all others. -/
theorem createModel_ok {model : Model}
    (h : m.createModel (Catalog.session d database) model p = .ok () q) :
    (∀ table part, q.session.has table part = true ↔ p.session.has table part = true ∨
      table = model.table ∧ part ∈ model.createdParts m.config) ∧
      q.queue.tasks = p.queue.tasks ++ model.laterTasks m.config := by
  obtain ⟨plan, hplan, hc, hqueue⟩ := createModel_performed h
  rw [performed, if_neg (by simp [hreal])] at hc
  exact ⟨Catalog.apply_adds (Model.plan_ok hplan).1 hc, hqueue⟩

/-- The tables that are there once another one is created. -/
theorem createModel_hasTable {model : Model}
    (h : m.createModel (Catalog.session d database) model p = .ok () q) (t : String) :
    q.session.hasTable t = true ↔ p.session.hasTable t = true ∨ t = model.table := by
  rw [← Catalog.has_table, ← Catalog.has_table, (createModel_ok hreal h).1]
  simp [Model.createdParts]

/-- Work on a model leaves tasks for all of its join tables. -/
theorem WorksOn.joins {a : Model} (h : m.WorksOn d database a p q) {s : Source}
    (hs : s ∈ a.joinTables) : ∃ flag, .joinTable s flag ∈ q.queue.tasks := by
  rcases h with ⟨-, h⟩ | ⟨-, h⟩
  · refine ⟨true, ?_⟩
    rw [(updateModel_ok h).2]
    exact List.mem_append_right _ (List.mem_map.mpr ⟨s, hs, rfl⟩)
  · refine ⟨false, ?_⟩
    rw [(createModel_ok hreal h).2]
    exact List.mem_append_right _ (List.mem_append_right _ (List.mem_map.mpr ⟨s, hs, rfl⟩))

theorem WorksOn.there {a : Model} (h : m.WorksOn d database a p q) :
    q.session.has a.table .table = true := by
  rcases h with ⟨hp, h⟩ | ⟨-, h⟩
  · exact updateModel_conforms hreal hp h _ (by simp [Model.parts])
  · exact ((createModel_ok hreal h).1 _ _).mpr (Or.inr ⟨rfl, by simp [Model.createdParts]⟩)

/-- When a task is done, what it is for is there: the index, or the table of the join model. -/
theorem runTask_done {t : Task} (h : m.runTask reg (Catalog.session d database) t p = .ok () q) :
    t.Done reg q.session := by
  cases t with
  | createIndex table i => exact Catalog.apply_has rfl (applied hreal h) (by simp)
  | joinTable source migrateExisting =>
    obtain ⟨j, hj, h⟩ := joinTable_ok h
    refine ⟨j, hj, ?_⟩
    rcases h with ⟨-, hp, rfl⟩ | h
    · exact hp
    · exact h.there hreal

/-- When the deferred work is done without failure, all that waited is there. -/
theorem drain_done {n : Nat} (h : m.drain reg (Catalog.session d database) n p = some q)
    (hclean : q.report.failures = []) : ∀ t ∈ p.queue.tasks, t.Done reg q.session :=
  drain_all (advances_respects m d database) advances_take hclean
    (fun _ _ _ hrun hmove _ => (runTask_done hreal hrun).grows hmove.grows) n h

end

/-- A created table conforms to its model once all that was left for later is there. -/
theorem conforms_of_created (reg : Registry) {c : Catalog} {model : Model}
    (hparts : ∀ part ∈ model.createdParts m.config, c.has model.table part = true)
    (hlater : ∀ t ∈ model.laterTasks m.config, t.Done reg c) : c.Conforms m.config model := by
  intro part hpart
  simp only [Model.parts, Model.createdParts, List.mem_append, List.mem_cons] at hpart hparts
  rcases hpart with ((h | h) | h) | h
  · exact hparts part (Or.inl (Or.inl (Or.inl h)))
  · exact hparts part (Or.inl (Or.inr h))
  · exact hparts part (Or.inr h)
  · split at h
    · obtain ⟨i, hi, rfl⟩ := List.mem_map.mp h
      by_cases hsep : m.config.separateIndexes = true
      · refine hlater (.createIndex model.table i) (List.mem_append_left _ ?_)
        rw [if_pos hsep]
        exact List.mem_map.mpr ⟨i, hi, rfl⟩
      · refine hparts _ (Or.inl (Or.inl (Or.inr ?_)))
        rw [if_neg hsep]
        exact List.mem_map.mpr ⟨i, hi, rfl⟩
    · exact absurd h (by simp)

end Migrator

end SchemaMigration
