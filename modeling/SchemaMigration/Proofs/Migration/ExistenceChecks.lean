import SchemaMigration.Proofs.Migration.JoinDiscovery
import SchemaMigration.Proofs.Migration.Replay

/-!
# What is sent is missing

An `autoMigrate` asks before it sends, so that what it sends is not there yet, with one exception:
an index that is created by a task of its own is sent without a question.  The table was created
when the task was scheduled, and had no indexes then.  But the task waits behind others, and one of
these may find the table and add the index first.

`autoMigrate_existenceChecked` says that this is all.  A change is sent for something that is there
exactly if it creates such an index (`ComesLate`): the index is declared for a join table that this
run has created, both choices about indexes are set, and an update of the join table has created an
index of this name meanwhile.

> `Waits`: indexes that wait are missing as long as no table is updated, and belong to join tables
> as soon as one can be.

A table of the order is followed by its own indexes before anything else, and by join tables that
are left alone if they are there.  So its indexes do not come late (`Creating`), and only join
tables that wait together with join tables to be updated are left (`Updating`).
-/

namespace SchemaMigration

/-- Something that the change adds is there already. -/
def Catalog.AlreadyHas (c : Catalog) (change : Change) : Prop :=
  ∃ t p, change.Adds t p ∧ c.has t p = true

/-- An index that waited comes late: it is one of a join table that was created in this run, and an
index of its name has been created on the table meanwhile, as one that was missing. -/
inductive ComesLate (config : Config) (reg : Registry) (out : List ResolvedModel) (c : Catalog)
    (before : List Exchange) : Change → Prop
  | intro {j k : Model} {i i' : Index} : config.separateIndexes = true →
      config.migrateIndexes = true → Joined reg out j → c.hasTable j.table = false →
      i ∈ j.indexes → Joined reg out k → k.table = j.table → i' ∈ k.indexes → i'.name = i.name →
      .createIndex j.table i' ∈ acceptedOf before →
      ComesLate config reg out c before (.createIndex j.table i)

/-- A change that adds parts to a table, none of which is there. -/
theorem Catalog.not_alreadyHas {c : Catalog} {change : Change} {table : String} {parts : List Part}
    (ha : change.adds = some (table, parts)) (h : ∀ p ∈ parts, c.has table p = false) :
    ¬ c.AlreadyHas change := by
  rintro ⟨t, p, ⟨parts', ha', hp⟩, hthere⟩
  cases ha.symm.trans ha'
  rw [h p hp] at hthere
  cases hthere

namespace Migrator

open SchemaMigration.Action (Moves after bind_ok)

variable {config : Config} {m : Migrator} {reg : Registry} {d : Dialect} {database : String}
variable {out : List ResolvedModel} {c : Catalog} {x y : Catalog × List Exchange}
variable {P Q : Progress (Catalog × List Exchange)}

/-! ## What was sent -/

/-- The history so far is genuine, and whatever was sent was missing, or was an index that came
late. -/
structure Checked (config : Config) (reg : Registry) (out : List ResolvedModel) (c : Catalog)
    (x : Catalog × List Exchange) : Prop where
  genuine : Genuine c x
  grows : c.Grows x.1
  sent : ∀ before change succeeded after,
    x.2 = before ++ ⟨.execute change, succeeded⟩ :: after →
      (c.replay before).AlreadyHas change → ComesLate config reg out c before change

theorem Checked.asked (h : Checked config reg out c x) (database table : String) (p : Part) :
    Checked config reg out c (x.1, x.2 ++ p.asked database table) := by
  refine ⟨h.genuine.asked database table p, h.grows, fun before change succeeded after hcut => ?_⟩
  obtain ⟨rest, hrest⟩ := cut_asked hcut
  exact h.sent before change succeeded rest hrest

theorem Checked.sends (h : Checked config reg out c x) {change : Change} {table : String}
    {parts : List Part} (ha : change.adds = some (table, parts)) (hsends : Sends change x y)
    (hlate : x.1.AlreadyHas change → ComesLate config reg out c x.2 change) :
    Checked config reg out c y := by
  refine ⟨h.genuine.sends hsends, h.grows.trans (hsends.grows ha),
    fun before change' succeeded after hcut => ?_⟩
  obtain ⟨succeeded', hhistory⟩ := hsends.history
  rw [hhistory] at hcut
  rcases cut_concat hcut with ⟨rfl, heq, -⟩ | ⟨rest, -, hcut'⟩
  · cases heq
    rw [← h.genuine.state]
    exact hlate
  · exact h.sent before change' succeeded rest hcut'

/-! ## What waits -/

/-- While tables may be updated: the indexes that wait are those of join tables, and where one of
them is there by now, an update has created it. -/
def Updating (config : Config) (reg : Registry) (out : List ResolvedModel)
    (x : Catalog × List Exchange) (tasks : List Task) : Prop :=
  ∀ t i, .createIndex t i ∈ tasks →
    (∃ j, Joined reg out j ∧ j.table = t ∧ i ∈ j.indexes) ∧
    (x.1.has t (.index i.name) = true → config.migrateIndexes = true ∧
      ∃ k i', Joined reg out k ∧ k.table = t ∧ i' ∈ k.indexes ∧ i'.name = i.name ∧
        .createIndex t i' ∈ acceptedOf x.2)

/-- While tables are created only: no table is to be updated, and the indexes that wait are
missing. -/
structure Creating (x : Catalog × List Exchange) (tasks : List Task) : Prop where
  leaves : ∀ s flag, .joinTable s flag ∈ tasks → flag = false
  missing : ∀ t i, .createIndex t i ∈ tasks → x.1.has t (.index i.name) = false

/-- The tasks that wait: join tables of involved models, and distinct indexes on tables that the run
has created. -/
structure Waits (config : Config) (reg : Registry) (out : List ResolvedModel) (c : Catalog)
    (x : Catalog × List Exchange) (tasks : List Task) : Prop where
  joins : ∀ s flag, .joinTable s flag ∈ tasks → ∀ j, reg.describe s = .ok j → Joined reg out j
  distinct : (tasks.filterMap (·.index?)).Nodup
  pending : ∀ t i, .createIndex t i ∈ tasks →
    config.separateIndexes = true ∧ c.hasTable t = false ∧ x.1.hasTable t = true
  mode : Updating config reg out x tasks ∨ Creating x tasks

theorem waits_nil : Waits config reg out c x [] where
  joins _ _ h := absurd h List.not_mem_nil
  distinct := List.nodup_nil
  pending _ _ h := absurd h List.not_mem_nil
  mode := Or.inl fun _ _ h => absurd h List.not_mem_nil

/-- The others wait on when the first task is taken. -/
theorem Waits.take {first : Task} {tasks : List Task}
    (h : Waits config reg out c x (first :: tasks)) : Waits config reg out c x tasks := by
  refine ⟨fun s flag hs => h.joins s flag (List.mem_cons_of_mem _ hs),
    h.distinct.sublist ((List.sublist_cons_self _ _).filterMap _),
    fun t i hi => h.pending t i (List.mem_cons_of_mem _ hi), h.mode.imp (fun hmode t i hi => ?_)
    fun hmode => ⟨fun s flag hs => ?_, fun t i hi => ?_⟩⟩
  · exact hmode t i (List.mem_cons_of_mem _ hi)
  · exact hmode.leaves s flag (List.mem_cons_of_mem _ hs)
  · exact hmode.missing t i (List.mem_cons_of_mem _ hi)

/-- The tasks wait on as they are if what they are about stays as it is. -/
theorem Waits.next {tasks : List Task} (h : Waits config reg out c x tasks)
    (hgrows : x.1.Grows y.1)
    (haccepted : ∀ change ∈ acceptedOf x.2, change ∈ acceptedOf y.2)
    (hsame : ∀ t i, .createIndex t i ∈ tasks → y.1.has t (.index i.name) = true →
      x.1.has t (.index i.name) = true) : Waits config reg out c y tasks := by
  refine ⟨h.joins, h.distinct, fun t i hi => ?_, h.mode.imp (fun hmode t i hi => ?_)
    fun hmode => ⟨hmode.leaves, fun t i hi => ?_⟩⟩
  · obtain ⟨hsep, hc, ht⟩ := h.pending t i hi
    exact ⟨hsep, hc, hgrows.hasTable ht⟩
  · refine ⟨(hmode t i hi).1, fun hthere => ?_⟩
    obtain ⟨hmigrate, k, i', hk, hkt, hi', hname, hadded⟩ := (hmode t i hi).2 (hsame t i hi hthere)
    exact ⟨hmigrate, k, i', hk, hkt, hi', hname, haccepted _ hadded⟩
  · rw [Bool.eq_false_iff]
    intro hthere
    have hold := hsame t i hi hthere
    rw [hmode.missing t i hi] at hold
    cases hold

theorem Waits.asked {tasks : List Task} (h : Waits config reg out c x tasks)
    (database table : String) (p : Part) :
    Waits config reg out c (x.1, x.2 ++ p.asked database table) tasks := by
  refine h.next (Catalog.Grows.refl _) (fun change hc => ?_) fun _ _ _ => id
  show change ∈ acceptedOf (x.2 ++ _)
  rw [acceptedOf_append]
  exact List.mem_append_left _ hc

/-- An index that waits comes late if it is there. -/
theorem Waits.late {t : String} {i : Index} {tasks : List Task}
    (h : Waits config reg out c x (.createIndex t i :: tasks))
    (hthere : x.1.has t (.index i.name) = true) :
    ComesLate config reg out c x.2 (.createIndex t i) := by
  obtain ⟨hsep, hc, -⟩ := h.pending t i List.mem_cons_self
  rcases h.mode with hmode | hmode
  · obtain ⟨⟨j, hj, rfl, hi⟩, hadded⟩ := hmode t i List.mem_cons_self
    obtain ⟨hmigrate, k, i', hk, hkj, hi', hname, hmem⟩ := hadded hthere
    exact .intro hsep hmigrate hj hc hi hk hkj hi' hname hmem
  · have hmissing := hmode.missing t i List.mem_cons_self
    rw [hthere] at hmissing
    cases hmissing

/-- The others wait on when the first task has sent its index. -/
theorem Waits.sendsIndex {t : String} {i : Index} {tasks : List Task}
    (h : Waits config reg out c x (.createIndex t i :: tasks))
    (hsends : Sends (.createIndex t i) x y) : Waits config reg out c y tasks := by
  refine h.take.next (hsends.grows rfl) (fun _ => hsends.mem_acceptedOf) fun u k hk hthere => ?_
  rcases (hsends.has_iff rfl u _).mp hthere with hold | ⟨-, rfl, hname⟩
  · exact hold
  · -- Another index of this name would have waited for the same table.
    have hname' : k.name = i.name := by simpa using hname
    refine absurd ?_ (List.nodup_cons.mp h.distinct).1
    exact List.mem_filterMap.mpr ⟨_, hk, by rw [Task.index?, hname']⟩

/-- An index that waited for a table is not one of a table that was missing. -/
theorem Waits.table_ne {tasks : List Task} (h : Waits config reg out c x tasks) {t table : String}
    {i : Index} (hi : .createIndex t i ∈ tasks) (hmiss : x.1.hasTable table = false) :
    t ≠ table := by
  rintro rfl
  have hthere := (h.pending t i hi).2.2
  rw [hmiss] at hthere
  cases hthere

/-- What follows the creation of a missing table waits in order behind what waited before. -/
theorem Waits.creates {tasks : List Task} (h : Waits config reg out c x tasks) {a : Model}
    (ha : Involved reg out a) (hbuilt : a.IsBuilt) (hmiss : x.1.hasTable a.table = false)
    (hgrows : c.Grows x.1) (hmode : tasks = [] ∨ Joined reg out a) {change : Change}
    (hsends : Sends change x y)
    (hparts : ∀ t p, y.1.has t p = true ↔
      x.1.has t p = true ∨ t = a.table ∧ p ∈ a.createdParts config) :
    Waits config reg out c y (tasks ++ a.laterTasks config) := by
  have hold : ∀ t i, .createIndex t i ∈ tasks → y.1.has t (.index i.name) = true →
      x.1.has t (.index i.name) = true := fun t i hi hthere =>
    ((hparts t _).mp hthere).resolve_right fun hnew => h.table_ne hi hmiss hnew.1
  -- The table is created without the indexes that are left for later.
  have hnew : ∀ t i, .createIndex t i ∈ a.laterTasks config →
      y.1.has t (.index i.name) = false := by
    intro t i hi
    obtain ⟨hsep, rfl, -⟩ := Model.createIndex_mem_laterTasks.mp hi
    rw [Bool.eq_false_iff, Ne, hparts, Catalog.not_has_of_fresh hmiss]
    simp [Model.createdParts, hsep]
  have hthen := h.next (y := y) (fun t p ht => (hparts t p).mpr (Or.inl ht))
    (fun _ => hsends.mem_acceptedOf) hold
  refine ⟨fun s flag hs j hj => ?_, ?_, fun t i hi => ?_, ?_⟩
  · rcases List.mem_append.mp hs with hs | hs
    · exact h.joins s flag hs j hj
    · exact Joined.step ha ⟨s, (Model.joinTable_mem_laterTasks.mp hs).2, hj⟩
  · rw [List.filterMap_append, a.indexes_laterTasks config, List.nodup_append]
    refine ⟨h.distinct, ?_, fun u hu v hv huv => ?_⟩
    · split
      · have hnames := hbuilt.nodup_indexes
        have hpair := hnames.map (f := fun n => (a.table, n)) fun n k hnk => (Prod.ext_iff.mp hnk).2
        rwa [List.map_map] at hpair
      · simp
    · obtain ⟨first, hfirst, hindex⟩ := List.mem_filterMap.mp hu
      obtain ⟨k, -, rfl⟩ := List.mem_map.mp hv
      cases first with
      | joinTable s flag => cases hindex
      | createIndex t i =>
        cases hindex
        exact h.table_ne hfirst hmiss (congrArg Prod.fst huv)
  · rcases List.mem_append.mp hi with hi | hi
    · exact hthen.pending t i hi
    · obtain ⟨hsep, rfl, -⟩ := Model.createIndex_mem_laterTasks.mp hi
      refine ⟨hsep, ?_, ?_⟩
      · rw [Bool.eq_false_iff]
        intro hc
        rw [hgrows.hasTable hc] at hmiss
        cases hmiss
      · rw [← Catalog.has_table, hparts]
        exact Or.inr ⟨rfl, by simp [Model.createdParts]⟩
  · -- Tables are created only, or the table is a join table.
    have hcreating : Creating y tasks → Creating y (tasks ++ a.laterTasks config) := by
      refine fun hcreating => ⟨fun s flag hs => ?_, fun t i hi => ?_⟩
      · exact (List.mem_append.mp hs).elim (hcreating.leaves s flag) fun hs =>
          (Model.joinTable_mem_laterTasks.mp hs).1
      · exact (List.mem_append.mp hi).elim (hcreating.missing t i) (hnew t i)
    rcases hmode with rfl | hjoined
    · exact Or.inr (hcreating ⟨fun _ _ hs => absurd hs List.not_mem_nil,
        fun _ _ hi => absurd hi List.not_mem_nil⟩)
    · refine hthen.mode.imp (fun hupdating t i hi => ?_) hcreating
      rcases List.mem_append.mp hi with hi | hi
      · exact hupdating t i hi
      · obtain ⟨-, htable, hindex⟩ := Model.createIndex_mem_laterTasks.mp hi
        refine ⟨⟨a, hjoined, htable.symm, hindex⟩, fun hthere => ?_⟩
        rw [hnew t i hi] at hthere
        cases hthere

/-! ## Tables are updated -/

/-- A stage at which the table of model `a` is being updated. -/
structure Amid (config : Config) (reg : Registry) (out : List ResolvedModel) (c : Catalog)
    (a : Model) (P : Progress (Catalog × List Exchange)) : Prop where
  checked : Checked config reg out c P.session
  waits : Waits config reg out c P.session P.queue.tasks
  updating : Updating config reg out P.session P.queue.tasks
  apart : P.queue.tasks = [] ∨ Joined reg out a

theorem Amid.asked {a : Model} (h : Amid config reg out c a P) (database table : String)
    (p : Part) : Amid config reg out c a (asking database table p P) := by
  refine ⟨h.checked.asked database table p, h.waits.asked database table p, fun t i hi => ?_,
    h.apart⟩
  refine ⟨(h.updating t i hi).1, fun hthere => ?_⟩
  obtain ⟨hmigrate, k, i', hk, hkt, hi', hname, hadded⟩ := (h.updating t i hi).2 hthere
  refine ⟨hmigrate, k, i', hk, hkt, hi', hname, ?_⟩
  show _ ∈ acceptedOf (P.session.2 ++ _)
  rw [acceptedOf_append]
  exact List.mem_append_left _ hadded

/-- An index that is there after an update has sent it was there before, or the update has created
it. -/
theorem Amid.sends {a : Model} (h : Amid m.config reg out c a P)
    {addition : Part × Except MigrationError Change}
    (hmem : addition ∈ a.additions m.dialect m.config) {change : Change}
    (hchange : addition.2 = .ok change) (hmissing : P.session.1.has a.table addition.1 = false)
    (hsends : Sends change P.session Q.session) (hqueue : Q.queue = P.queue) :
    Amid m.config reg out c a Q := by
  have hadds := Model.adds_of_mem_additions hmem hchange
  have hgrows := hsends.grows hadds
  have hnew : ¬ P.session.1.AlreadyHas change := Catalog.not_alreadyHas hadds fun p hp => by
    rw [List.mem_singleton.mp hp]
    exact hmissing
  have hchecked := h.checked.sends hadds hsends fun h => absurd h hnew
  have hupdating : Updating m.config reg out Q.session P.queue.tasks := by
    intro t i hi
    refine ⟨(h.updating t i hi).1, fun hthere => ?_⟩
    rcases (hsends.has_iff hadds t _).mp hthere with hold | ⟨haccepts, rfl, hpart⟩
    · obtain ⟨hmigrate, k, i', hk, hkt, hi', hname, hadded⟩ := (h.updating t i hi).2 hold
      exact ⟨hmigrate, k, i', hk, hkt, hi', hname, hsends.mem_acceptedOf hadded⟩
    · -- The addition is an index, so that indexes are migrated, and the model is that of a join
      -- table, since something waits.
      have ha : Joined reg out a := h.apart.resolve_left fun hnil => by
        rw [hnil] at hi
        exact absurd hi List.not_mem_nil
      obtain ⟨hmigrate, i', hi', hname, rfl⟩ :=
        Model.index_of_mem_additions hmem hchange (List.mem_singleton.mp hpart).symm
      refine ⟨hmigrate, a, i', ha, rfl, hi', hname, ?_⟩
      cases hsends with
      | accepted _ hh =>
        rw [hh, acceptedOf_append]
        exact List.mem_append_right _ List.mem_cons_self
      | refused hno _ _ => exact absurd haccepts hno
  refine ⟨hchecked, ?_, hqueue ▸ hupdating, hqueue ▸ h.apart⟩
  rw [hqueue]
  refine ⟨h.waits.joins, h.waits.distinct, fun t i hi => ?_, Or.inl hupdating⟩
  obtain ⟨hsep, hc, ht⟩ := h.waits.pending t i hi
  exact ⟨hsep, hc, hgrows.hasTable ht⟩

/-- The history is checked, and the tasks wait in order. -/
structure Sound (config : Config) (reg : Registry) (out : List ResolvedModel) (c : Catalog)
    (P : Progress (Catalog × List Exchange)) : Prop where
  checked : Checked config reg out c P.session
  waits : Waits config reg out c P.session P.queue.tasks

theorem Sound.asked (h : Sound config reg out c P) (database table : String) (p : Part) :
    Sound config reg out c (asking database table p P) :=
  ⟨h.checked.asked database table p, h.waits.asked database table p⟩

/-- The join tables of an updated model wait to be updated. -/
theorem Amid.schedule {a : Model} (h : Amid config reg out c a P) (ha : Involved reg out a) :
    Sound config reg out c { P with queue := P.queue.pushAll (updates a.joinTables) } := by
  have hindex : ∀ {t i}, .createIndex t i ∈ P.queue.tasks ++ updates a.joinTables →
      .createIndex t i ∈ P.queue.tasks := by
    intro t i hi
    refine (List.mem_append.mp hi).resolve_right fun hi => ?_
    obtain ⟨_, -, heq⟩ := List.mem_map.mp hi
    cases heq
  refine ⟨h.checked, fun s flag hs j hj => ?_, ?_, fun t i hi => h.waits.pending t i (hindex hi),
    Or.inl fun t i hi => h.updating t i (hindex hi)⟩
  · rcases List.mem_append.mp hs with hs | hs
    · exact h.waits.joins s flag hs j hj
    · obtain ⟨u, hu, heq⟩ := List.mem_map.mp hs
      cases heq
      exact Joined.step ha ⟨s, hu, hj⟩
  · have hnone : (updates a.joinTables).filterMap (·.index?) = [] := by
      rw [updates, List.filterMap_map, List.filterMap_eq_nil_iff]
      exact fun _ _ => rfl
    show ((P.queue.tasks ++ updates a.joinTables).filterMap _).Nodup
    rw [List.filterMap_append, hnone, List.append_nil]
    exact h.waits.distinct

section

variable (hreal : m.config.dryRun = false)

include hreal

/-- A part is added only if it is missing. -/
theorem amid_addMissing (d : Dialect) (database : String) {a : Model}
    {addition : Part × Except MigrationError Change}
    (hmem : addition ∈ a.additions m.dialect m.config) :
    Moves (fun P Q => Amid m.config reg out c a P → Amid m.config reg out c a Q)
      (m.addMissing (Catalog.session d database).recorded
        (fun named => addition.1.question a.table named) addition.2) := by
  intro P h
  rw [after, addMissing_recorded]
  have hasked := h.asked database a.table addition.1
  by_cases hthere : P.session.1.has a.table addition.1 = true
  · rw [if_pos hthere]
    exact hasked
  · have hmissing : (asking database a.table addition.1 P).session.1.has a.table addition.1 =
        false := Bool.eq_false_iff.mpr hthere
    rw [if_neg hthere]
    cases hchange : addition.2 with
    | error e => exact hasked
    | ok change =>
      obtain ⟨hsends, hqueue⟩ := carryOut_sends d database
        (P := asking database a.table addition.1 P) hreal change
      exact hasked.sends hmem hchange hmissing hsends hqueue

/-- Updating a table leaves all sound, whether it succeeds or not. -/
theorem Amid.update {a : Model} (h : Amid m.config reg out c a P) (ha : Involved reg out a) :
    Sound m.config reg out c
      (after (m.updateModel (Catalog.session d database).recorded a) P) := by
  have hall := Action.moves_forM
    (R := fun P Q => Amid m.config reg out c a P → Amid m.config reg out c a Q) (fun _ => id)
    (fun _ _ _ h h' => h' ∘ h)
    (fun addition hmem => amid_addMissing hreal d database hmem) P h
  rw [updateModel_eq]
  rcases after_schedule _ (updates a.joinTables) P with hend | hend
  · rw [hend]
    exact ⟨hall.checked, hall.waits⟩
  · rw [hend]
    exact hall.schedule ha

/-- Creating a missing table leaves all sound, whether it succeeds or not. -/
theorem Sound.create {a : Model} (h : Sound m.config reg out c P) (ha : Involved reg out a)
    (hbuilt : a.IsBuilt) (hmiss : P.session.1.hasTable a.table = false)
    (hmode : P.queue.tasks = [] ∨ Joined reg out a) :
    Sound m.config reg out c
      (after (m.createModel (Catalog.session d database).recorded a) P) := by
  cases hplan : a.plan m.dialect m.config with
  | error e =>
    rw [after, createModel_unplanned hplan]
    exact h
  | ok plan =>
    have hadds := (Model.plan_ok hplan).1
    obtain ⟨hsends, hqueue⟩ := createModel_sends d database (P := P) hreal hplan
    have hnew : ¬ P.session.1.AlreadyHas plan.change :=
      Catalog.not_alreadyHas hadds fun p _ => Catalog.not_has_of_fresh hmiss p
    refine ⟨h.checked.sends hadds hsends fun h => absurd h hnew, ?_⟩
    rcases hqueue with hqueue | ⟨haccepts, hqueue⟩
    · -- Indexes that wait are those of other tables.
      rw [hqueue]
      refine h.waits.next (hsends.grows hadds) (fun _ => hsends.mem_acceptedOf)
        fun t i hi hthere => ?_
      exact ((hsends.has_iff hadds t _).mp hthere).resolve_right fun hnew =>
        h.waits.table_ne hi hmiss hnew.2.1
    · rw [hqueue]
      refine h.waits.creates ha hbuilt hmiss h.checked.grows hmode hsends fun t p => ?_
      rw [hsends.has_iff hadds]
      exact or_congr_right (and_iff_right haccepts)

/-! ## The run -/

/-- The first task that waits leaves all sound, whether it fails or not. -/
theorem Sound.attempt (hbuilt : ∀ a, Involved reg out a → a.IsBuilt) {t : Task} {rest : TaskQueue}
    (h : Sound m.config reg out c P) (hp : P.queue.tasks = t :: rest.tasks) :
    Sound m.config reg out c
      (m.attempt reg (Catalog.session d database).recorded t { P with queue := rest }) := by
  have hwaits := h.waits
  rw [hp] at hwaits
  have htaken : Sound m.config reg out c { P with queue := rest } := ⟨h.checked, hwaits.take⟩
  obtain ⟨hsession, hqueue⟩ := attempt_leaves m reg (Catalog.session d database).recorded t
    { P with queue := rest }
  suffices hwork : Sound m.config reg out c
      (after (m.runTask reg (Catalog.session d database).recorded t) { P with queue := rest }) by
    refine ⟨?_, ?_⟩
    · rw [hsession]
      exact hwork.checked
    · rw [hsession, hqueue]
      exact hwork.waits
  cases t with
  | createIndex table i =>
    obtain ⟨hsends, hsame⟩ := carryOut_sends d database (P := { P with queue := rest }) hreal
      (.createIndex table i)
    refine ⟨htaken.checked.sends rfl hsends ?_, ?_⟩
    · rintro ⟨u, p, ⟨parts, hadds, hpart⟩, hthere⟩
      cases hadds
      cases List.mem_singleton.mp hpart
      exact hwaits.late hthere
    · show Waits _ _ _ _ _ (after (m.carryOut _ _) _).queue.tasks
      rw [hsame]
      exact hwaits.sendsIndex hsends
  | joinTable source flag =>
    cases hj : reg.describe source with
    | error e =>
      rw [after, runTask, hj]
      exact htaken
    | ok j =>
      have hjoined := h.waits.joins source flag (by simp [hp]) j hj
      have hasked := htaken.asked database j.table .table
      rw [after, runTask_join_recorded hj]
      by_cases hthere : P.session.1.hasTable j.table = true
      · rw [if_pos hthere]
        cases flag with
        | false => exact hasked
        | true =>
          -- A table is to be updated, so that all indexes that wait are those of join tables.
          have hupdating : Updating m.config reg out P.session
              (.joinTable source true :: rest.tasks) :=
            hwaits.mode.resolve_right fun hmode =>
              absurd (hmode.leaves source true List.mem_cons_self) (by simp)
          have hamid : Amid m.config reg out c j { P with queue := rest } :=
            ⟨h.checked, htaken.waits, fun t i hi => hupdating t i (List.mem_cons_of_mem _ hi),
              Or.inr hjoined⟩
          exact (hamid.asked database j.table .table).update hreal (Or.inr hjoined)
      · rw [if_neg hthere]
        exact hasked.create hreal (Or.inr hjoined) (hbuilt j (Or.inr hjoined))
          (Bool.eq_false_iff.mpr hthere) (Or.inr hjoined)

/-- The step for an ordered model leaves all sound when no task waits. -/
theorem Sound.step (d : Dialect) (database : String)
    (hbuilt : ∀ a, Involved reg out a → a.IsBuilt) {model : ResolvedModel} (hmodel : model ∈ out)
    (h : Sound m.config reg out c P) (hnil : P.queue.tasks = []) :
    Sound m.config reg out c
      (after (m.updateStep (Catalog.session d database).recorded model) P) := by
  cases model with
  | table name =>
    have hasked := h.asked database name .table
    rw [after, updateStep_table_recorded]
    by_cases hthere : P.session.1.hasTable name = true
    · rw [if_pos hthere]
      exact hasked
    · rw [if_neg hthere]
      exact hasked
  | model a =>
    have hasked := h.asked database a.table .table
    rw [after, updateStep_recorded]
    by_cases hthere : P.session.1.hasTable a.table = true
    · rw [if_pos hthere]
      have hamid : Amid m.config reg out c a P :=
        ⟨h.checked, h.waits, fun t i hi => absurd (hnil ▸ hi) List.not_mem_nil, Or.inl hnil⟩
      exact (hamid.asked database a.table .table).update hreal (Or.inl hmodel)
    · rw [if_neg hthere]
      exact hasked.create hreal (Or.inl hmodel) (hbuilt a (Or.inl hmodel))
        (Bool.eq_false_iff.mpr hthere) (Or.inl hnil)

/-- All is sound at every stage that a run comes to. -/
theorem reaches_sound (hbuilt : ∀ a, Involved reg out a → a.IsBuilt) {b : Stage _}
    (h : m.Reaches reg (Catalog.session d database).recorded
      (m.updateStep (Catalog.session d database).recorded) ⟨out, m.start (c, [])⟩ b) :
    (∀ model ∈ b.models, model ∈ out) ∧ Sound m.config reg out c b.progress := by
  induction h with
  | refl =>
    refine ⟨fun _ => id, ⟨Genuine.start c, Catalog.Grows.refl c, fun before _ _ _ hcut => ?_⟩,
      waits_nil⟩
    exact absurd hcut.symm (by simp [start])
  | tail _ hnext ih =>
    obtain ⟨hmodels, hsound⟩ := ih
    cases hnext with
    | task hp => exact ⟨hmodels, hsound.attempt hreal hbuilt hp⟩
    | @step model models p q hp hstep =>
      have hafter := hsound.step hreal d database hbuilt
        (hmodels model List.mem_cons_self) hp
      rw [after, hstep] at hafter
      exact ⟨fun a ha => hmodels a (List.mem_cons_of_mem _ ha), hafter⟩
    | @stop model models p q e hp hstep =>
      have hafter := hsound.step hreal d database hbuilt
        (hmodels model List.mem_cons_self) hp
      rw [after, hstep] at hafter
      exact ⟨fun a ha => absurd ha List.not_mem_nil, hafter.checked, waits_nil⟩

end

/-! ## The theorem -/

/-- **What is sent is missing.**  Take any cut of the history of an `autoMigrate` at a change, at
the end of the run or at any of its stages.  The change was accepted exactly if the catalog of that
moment accepts it.  Something that it adds was there already exactly if it creates an index that
waited and comes late: both choices about indexes are set, and it is an index of a join table which
the run has created and on which an update by the same run has created an index of this name. -/
theorem autoMigrate_existenceChecked (m : Migrator) (reg : Registry) (d : Dialect)
    (database : String) (refs : List ModelRef) (out : List ResolvedModel) (c : Catalog)
    (hreal : m.config.dryRun = false) (ho : order reg true refs = .ok out)
    (hbuilt : ∀ a, Involved reg out a → a.IsBuilt) (y : Catalog × List Exchange)
    (hmeets : m.Meets reg (Catalog.session d database).recorded refs (c, []) y) :
    ∀ before change succeeded after, y.2 = before ++ ⟨.execute change, succeeded⟩ :: after →
      (succeeded = true ↔ (c.replay before).Accepts change) ∧
      ((c.replay before).AlreadyHas change ↔ ComesLate m.config reg out c before change) := by
  have hchecked : Checked m.config reg out c y := by
    refine hmeets.of_stages ⟨Genuine.start c, Catalog.Grows.refl c, fun before _ _ _ hcut => ?_⟩
      fun out' b ho' hb => ?_
    · exact absurd hcut.symm (by simp)
    · cases ho.symm.trans ho'
      exact (reaches_sound hreal hbuilt hb).2.checked
  obtain ⟨more, hmore, hadditive⟩ :=
    hmeets.keeps ((Catalog.session d database).recorded_keeps m.dialect m.config)
  rw [List.nil_append] at hmore
  intro before change succeeded after hcut
  refine ⟨hchecked.genuine.outcomes before change succeeded after hcut,
    hchecked.sent before change succeeded after hcut, ?_⟩
  intro hlate
  cases hlate with
  | @intro j k i i' _ _ _ _ _ _ _ _ hname hmem =>
    -- What was accepted before is there.
    have hthere : (c.replay before).has j.table (.index i.name) = true := by
      refine (Genuine.has_iff (fun change hc => ?_) (fun before' change' succeeded' after' hcut' =>
        ?_) _ _).mpr (Or.inr ⟨_, hmem, _, rfl, ?_⟩)
      · refine (hadditive change ?_).adds
        rw [← hmore, hcut, changesOf_append]
        exact List.mem_append_left _ hc
      · refine hchecked.genuine.outcomes before' change' succeeded'
          (after' ++ ⟨.execute (.createIndex j.table i), succeeded⟩ :: after) ?_
        rw [hcut, hcut', List.append_assoc]
        rfl
      · rw [hname]
        exact List.mem_cons_self
    exact ⟨j.table, .index i.name, ⟨_, rfl, List.mem_cons_self⟩, hthere⟩

/-! ## Links between people -/

/-- People, who name the table of their links twice. -/
def people : Model where
  table := "people"
  columns := [idColumn "id" true]
  relationships := [
    { name := "Friends", kind := .manyToMany, targetTable := "people",
      joinTable := some ⟨"links", 0⟩ },
    { name := "Followers", kind := .manyToMany, targetTable := "people",
      joinTable := some ⟨"links", 0⟩ }]

/-- The links, with an index. -/
def links : Model where
  table := "links"
  columns := [idColumn "from_id" true, idColumn "to_id" true]
  indexes := [{ name := "idx_links_to", entries := [{ column := "to_id" }] }]

/-- The registry that describes the links. -/
def linkRegistry : Registry := ⟨#[.ok links]⟩

/-- The people are there, and the links are missing. -/
def unlinked : Catalog := ⟨[("people", { columns := ["id"] })]⟩

/-- Creates indexes by statements of their own, and missing ones if that is wanted. -/
def indexingMigrator (migrateIndexes : Bool) : Migrator :=
  ⟨Mysql.dialect, { separateIndexes := true, migrateIndexes }⟩

theorem order_people : order linkRegistry true [.model people] = .ok [.model people] := by
  with_unfolding_all rfl

theorem eq_links_of_joins {a j : Model} (ha : a ∈ [people, links])
    (h : Joins linkRegistry a j) : j = links := by
  obtain ⟨s, hs, hj⟩ := h
  have hslot : ∀ a ∈ [people, links], ∀ s ∈ a.joinTables, s.slot = 0 := by decide
  unfold Registry.describe at hj
  rw [hslot a ha s hs] at hj
  exact (Except.ok.inj hj).symm

theorem isBuilt_people {a : Model} (ha : Involved linkRegistry [.model people] a) :
    a.IsBuilt := by
  have hmem : a ∈ [people, links] := by
    rcases ha with ha | ⟨b, hb, hjoins⟩
    · cases List.mem_singleton.mp ha
      exact List.mem_cons_self
    · cases List.mem_singleton.mp hb
      induction hjoins with
      | single h => simp [eq_links_of_joins List.mem_cons_self h]
      | tail _ h ih => simp [eq_links_of_joins ih h]
  simp only [List.mem_cons, List.not_mem_nil, or_false] at hmem
  rcases hmem with rfl | rfl
  · exact ⟨people, rfl⟩
  · exact ⟨links, rfl⟩

/-- Where missing indexes of existing tables are not created, the index is created once by its own
task, and nothing is sent for what is there. -/
theorem autoMigrate_existenceChecked_people :
    ∃ report y, (indexingMigrator false).autoMigrate linkRegistry
        (Catalog.session Mysql.dialect "app").recorded 3 [.model people] (unlinked, []) =
          some (.ok report y) ∧
      report.failures = [] ∧ (changesOf y.2).length = 2 ∧
      ∀ before change succeeded after, y.2 = before ++ ⟨.execute change, succeeded⟩ :: after →
        ¬ (unlinked.replay before).AlreadyHas change := by
  have hrun : (arrival ((indexingMigrator false).autoMigrate linkRegistry
      (Catalog.session Mysql.dialect "app").recorded 3 [.model people] (unlinked, []))).map
        (fun r => (r.1.failures, (changesOf r.2.2).length)) = some ([], 2) := by decide +kernel
  obtain ⟨⟨report, y⟩, hy, hvalues⟩ := Option.map_eq_some_iff.mp hrun
  obtain ⟨hfailures, hlength⟩ := Prod.mk.inj hvalues
  refine ⟨report, y, arrival_eq_some.mp hy, hfailures, hlength,
    fun before change succeeded after hcut hthere => ?_⟩
  have hlate := ((autoMigrate_existenceChecked (indexingMigrator false) linkRegistry Mysql.dialect
    "app" [.model people] [.model people] unlinked rfl order_people (fun _ => isBuilt_people) y
    (Meets.atEnd (arrival_eq_some.mp hy)) before change succeeded after hcut).2).mp hthere
  cases hlate with
  | intro _ hmigrate => exact absurd hmigrate (by decide)

/-- The index that an exchange is about, and whether it was accepted. -/
def sentIndex? : Exchange → Option (String × String × Bool)
  | ⟨.execute (.createIndex table i), succeeded⟩ => some (table, i.name, succeeded)
  | _ => none

theorem sentIndex?_eq_some {x : Exchange} {table name : String} {succeeded : Bool}
    (h : sentIndex? x = some (table, name, succeeded)) :
    ∃ i : Index, i.name = name ∧ x = ⟨.execute (.createIndex table i), succeeded⟩ := by
  obtain ⟨call, ok⟩ := x
  unfold sentIndex? at h
  split at h
  · next heq =>
    cases heq
    cases h
    exact ⟨_, rfl, rfl⟩
  · cases h

/-- With both choices set, the second of two relationships with one join table finds the table that
the first has created and creates its index, before the task for this index has its turn: the index
is sent once more, and refused. -/
theorem autoMigrate_lateIndex :
    people.IsBuilt ∧ links.IsBuilt ∧
      ∃ report c' before change, (indexingMigrator true).autoMigrate linkRegistry
          (Catalog.session Mysql.dialect "app").recorded 3 [.model people] (unlinked, []) =
            some (.ok report (c', before ++ [⟨.execute change, false⟩])) ∧
        (unlinked.replay before).AlreadyHas change ∧
        report.failures = [⟨"create index idx_links_to on links",
          "Failed to execute `CREATE INDEX `idx_links_to` ON `links`(`to_id`)`: "
            ++ "Duplicate key name 'idx_links_to'"⟩] := by
  have hrun : (arrival ((indexingMigrator true).autoMigrate linkRegistry
      (Catalog.session Mysql.dialect "app").recorded 3 [.model people] (unlinked, []))).map
        (fun r => (r.2.2.getLast?.bind sentIndex?,
          (unlinked.replay r.2.2.dropLast).has "links" (.index "idx_links_to"), r.1.failures)) =
      some (some ("links", "idx_links_to", false), true,
        [⟨"create index idx_links_to on links",
          "Failed to execute `CREATE INDEX `idx_links_to` ON `links`(`to_id`)`: "
            ++ "Duplicate key name 'idx_links_to'"⟩]) := by decide +kernel
  obtain ⟨⟨report, c', history⟩, hy, hvalues⟩ := Option.map_eq_some_iff.mp hrun
  obtain ⟨hlast, hthere, hfailures⟩ := (Prod.mk.inj hvalues).imp_right Prod.mk.inj
  obtain ⟨x, hx, hsent⟩ := Option.bind_eq_some_iff.mp hlast
  obtain ⟨i, hname, rfl⟩ := sentIndex?_eq_some hsent
  have hhistory := List.dropLast_append_getLast? _ hx
  refine ⟨⟨people, rfl⟩, ⟨links, rfl⟩, report, c', history.dropLast, .createIndex "links" i, ?_,
    ⟨"links", .index i.name, ⟨_, rfl, List.mem_cons_self⟩, hname ▸ hthere⟩, hfailures⟩
  rw [hhistory]
  exact arrival_eq_some.mp hy

end Migrator

end SchemaMigration
