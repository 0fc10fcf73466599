import SchemaMigration.Proofs.Migration.Lockstep
import SchemaMigration.Proofs.Schema.Validation

/-!
# What one visit to a table asks and makes

`autoMigrate` comes to a table when the step for its model is taken, or when a task for a join table
is done.  Such a visit asks for the table, and then either creates it, or asks for each of its other
parts and adds those that are missing.  Nothing else is asked or changed (`Visit`), and since an
accepted model has distinct names, the visit asks for nothing that it has added itself
(`Concerns.anew`).
-/

namespace SchemaMigration

/-- The parts of an accepted model are distinct. -/
theorem Model.IsBuilt.nodup_parts {a : Model} (h : a.IsBuilt) (config : Config) :
    (a.parts config).Nodup := by
  have hcolumns : (a.columns.map (Part.column ·.name)).Nodup := by
    have hmap := h.nodup_columns.map (f := Part.column) fun _ _ heq => Part.column.inj heq
    rwa [List.map_map] at hmap
  have hconstraints : (a.foreignKeys.map (Part.constraint ·.name) ++
      a.checks.map (Part.constraint ·.name)).Nodup := by
    have hmap := h.nodup_constraints.map (f := Part.constraint)
      fun _ _ heq => Part.constraint.inj heq
    rwa [List.map_append, List.map_map, List.map_map] at hmap
  have hindexes :
      (if config.migrateIndexes then a.indexes.map (Part.index ·.name) else []).Nodup := by
    split
    · have hmap := h.nodup_indexes.map (f := Part.index) fun _ _ heq => Part.index.inj heq
      rwa [List.map_map] at hmap
    · exact List.nodup_nil
  -- Parts of different kinds differ.
  unfold parts
  rw [List.append_assoc (_ :: _)]
  refine List.nodup_append'.mpr ⟨List.nodup_append'.mpr ⟨List.nodup_cons.mpr ⟨by simp, hcolumns⟩,
    hconstraints, fun p hp hconstraint => ?_⟩, hindexes, fun p hp hindex => ?_⟩
  · rcases List.mem_cons.mp hp with rfl | hcolumn
    · simp at hconstraint
    · obtain ⟨c, -, rfl⟩ := List.mem_map.mp hcolumn
      simp at hconstraint
  · split at hindex
    · obtain ⟨i, -, rfl⟩ := List.mem_map.mp hindex
      simp at hp
    · exact absurd hindex List.not_mem_nil

/-- A stretch of history about one table: it asks for these parts of it only, each change adds one
of them at least and nothing to another table, and nothing is asked for that was added before. -/
structure Concerns (table : String) (parts : List Part) (history : List Exchange) : Prop where
  asks : ∀ x ∈ history, ∀ t named p, x.call = .query (p.question t named) → t = table ∧ p ∈ parts
  adds : ∀ change ∈ changesOf history, ∃ p ∈ parts, change.Adds table p
  only : ∀ change ∈ changesOf history, ∀ t p, change.Adds t p → t = table
  anew : AsksAnew history

section

variable {table : String} {parts parts' : List Part} {h h' : List Exchange}

theorem Concerns.nil : Concerns table [] [] :=
  ⟨by simp, by simp [changesOf], by simp [changesOf], List.Pairwise.nil⟩

theorem Concerns.mono (hc : Concerns table parts h) (hsub : parts ⊆ parts') :
    Concerns table parts' h where
  asks x hx t named p hquery := (hc.asks x hx t named p hquery).imp_right (@hsub p)
  adds change hchange := (hc.adds change hchange).imp fun _ hp => hp.imp_left (@hsub _)
  only := hc.only
  anew := hc.anew

/-- Two stretches make one if the second does not ask for what the first adds. -/
theorem Concerns.append (hc : Concerns table parts h) (hc' : Concerns table parts' h')
    (hapart : ∀ change ∈ changesOf h, ∀ p ∈ parts', ¬ change.Adds table p) :
    Concerns table (parts ++ parts') (h ++ h') := by
  refine ⟨fun x hx t named p hquery => ?_, fun change hchange => ?_, fun change hchange => ?_,
    asksAnew_append.mpr ⟨hc.anew, hc'.anew, fun change hchange y hy t named p hquery => ?_⟩⟩
  · rcases List.mem_append.mp hx with hx | hx
    · exact (hc.asks x hx t named p hquery).imp_right (List.mem_append_left parts')
    · exact (hc'.asks x hx t named p hquery).imp_right (List.mem_append_right parts)
  · rw [changesOf_append, List.mem_append] at hchange
    rcases hchange with hchange | hchange
    · exact (hc.adds change hchange).imp fun p hp => hp.imp_left (List.mem_append_left parts')
    · exact (hc'.adds change hchange).imp fun p hp => hp.imp_left (List.mem_append_right parts)
  · rw [changesOf_append, List.mem_append] at hchange
    exact hchange.elim (hc.only change) (hc'.only change)
  · obtain ⟨rfl, hp⟩ := hc'.asks y hy t named p hquery
    exact hapart change hchange p hp

theorem concerns_asked (database table : String) (p : Part) :
    Concerns table [p] (p.asked database table) where
  asks x hx t named q hquery := by
    obtain ⟨rfl, rfl⟩ := Part.eq_of_mem_asked hx hquery
    exact ⟨rfl, List.mem_singleton_self q⟩
  adds change hchange := absurd hchange (by simp [changesOf_asked])
  only change hchange := absurd hchange (by simp [changesOf_asked])
  anew := asksAnew_asked

theorem concerns_execute {change : Change} {added : List Part} {p : Part}
    (hadds : change.adds = some (table, added)) (hp : p ∈ added) :
    Concerns table [p] [⟨.execute change, true⟩] where
  asks x hx t named q hquery := by
    rw [List.mem_singleton.mp hx] at hquery
    cases hquery
  adds made hmade := by
    cases List.mem_singleton.mp hmade
    exact ⟨p, List.mem_singleton_self p, added, hadds, hp⟩
  only made hmade t q ht := by
    cases List.mem_singleton.mp hmade
    obtain ⟨others, hothers, -⟩ := ht
    cases hadds.symm.trans hothers
    rfl
  anew := by simp [AsksAnew]

end

namespace Migrator

open SchemaMigration.Action (bind_ok ofExcept_ok)

variable {m : Migrator} {reg : Registry} {d : Dialect} {database : String}
variable {P P' : Progress (Catalog × List Exchange)}

/-- From one stage to another the session goes through this stretch of history, about parts of one
table, and these tasks are scheduled. -/
structure Stretch (table : String) (parts : List Part) (more : List Exchange) (tasks : List Task)
    (P P' : Progress (Catalog × List Exchange)) : Prop where
  history : P'.session.2 = P.session.2 ++ more
  concerns : Concerns table parts more
  queue : P'.queue.tasks = P.queue.tasks ++ tasks

section

variable (hreal : m.config.dryRun = false)

include hreal

/-- Adding one part, unless it is there. -/
theorem addMissing_stretch {table : String} {p : Part} {change : Except MigrationError Change}
    (hadds : ∀ k, change = .ok k → k.adds = some (table, [p]))
    (h : m.addMissing (Catalog.session d database).recorded
      (fun named => p.question table named) change P = .ok () P') :
    ∃ more, Stretch table [p] more [] P P' ∧
      ∀ made ∈ changesOf more, made.adds = some (table, [p]) := by
  obtain ⟨there, P₁, hask, h⟩ := bind_ok.mp h
  cases (ask_recorded m d database table p P).symm.trans hask
  cases hthere : P.session.1.has table p with
  | true =>
    rw [hthere] at h
    cases h
    exact ⟨_, ⟨rfl, concerns_asked database table p, by simp⟩, by simp [changesOf_asked]⟩
  | false =>
    rw [hthere] at h
    obtain ⟨k, P₂, hfirst, hmake⟩ := bind_ok.mp h
    obtain ⟨hchange, rfl⟩ := ofExcept_ok.mp hfirst
    obtain ⟨c', -, rfl⟩ := carryOut_recorded hreal hmake
    have hk : k.adds = some (table, [p]) := hadds k hchange
    refine ⟨p.asked database table ++ [⟨.execute k, true⟩], ⟨List.append_assoc _ _ _, ?_, by simp⟩,
      fun made hmade => ?_⟩
    · have hmade := concerns_execute hk (List.mem_singleton_self p)
      refine ((concerns_asked database table p).append hmade ?_).mono (by simp)
      simp [changesOf_asked]
    · rw [changesOf_append, changesOf_asked, List.nil_append] at hmade
      cases List.mem_singleton.mp hmade
      exact hk

/-- Adding several distinct parts. -/
theorem forM_addMissing_stretch {table : String} {xs : List (Part × Except MigrationError Change)}
    (hnodup : (xs.map (·.1)).Nodup)
    (hadds : ∀ x ∈ xs, ∀ k, x.2 = .ok k → k.adds = some (table, [x.1])) :
    ∀ {P P' : Progress (Catalog × List Exchange)},
      xs.forM (fun x => m.addMissing (Catalog.session d database).recorded
        (fun named => x.1.question table named) x.2) P = .ok () P' →
      ∃ more, Stretch table (xs.map (·.1)) more [] P P' := by
  induction xs with
  | nil =>
    intro P P' h
    cases h
    exact ⟨[], by simp, Concerns.nil, by simp⟩
  | cons x xs ih =>
    intro P P' h
    obtain ⟨_, P₁, hx, h⟩ := bind_ok.mp h
    obtain ⟨hx_new, hnodup⟩ := List.nodup_cons.mp hnodup
    obtain ⟨first, hfirst, honly⟩ := addMissing_stretch hreal (hadds x (by simp)) hx
    obtain ⟨rest, hrest⟩ := ih hnodup (fun y hy => hadds y (List.mem_cons_of_mem x hy)) h
    refine ⟨first ++ rest, ?_,
      hfirst.concerns.append hrest.concerns fun made hmade p hp hadded => ?_, ?_⟩
    · rw [hrest.history, hfirst.history, List.append_assoc]
    · -- What was added is the first part, which is not among the others.
      obtain ⟨parts, hparts, hmem⟩ := hadded
      cases (honly made hmade).symm.trans hparts
      cases List.mem_singleton.mp hmem
      exact hx_new hp
    · rw [hrest.queue, hfirst.queue]
      simp

omit hreal in
/-- A question before a stretch that asks for other parts belongs to it. -/
theorem Stretch.after_question {table : String} {p : Part} {parts : List Part}
    {more : List Exchange} {tasks : List Task} (h : Stretch table parts more tasks
      { P with session := (P.session.1, P.session.2 ++ p.asked database table) } P') :
    Stretch table (p :: parts) (p.asked database table ++ more) tasks P P' where
  history := h.history.trans (List.append_assoc _ _ _)
  concerns := (concerns_asked database table p).append h.concerns (by simp [changesOf_asked])
  queue := h.queue

/-- Updating a table asks for all parts but the table itself. -/
theorem updateModel_stretch {a : Model} (ha : a.IsBuilt)
    (h : m.updateModel (Catalog.session d database).recorded a P = .ok () P') :
    ∃ more, Stretch a.table ((a.additions m.dialect m.config).map (·.1)) more
      (updates a.joinTables) P P' := by
  rw [updateModel_eq] at h
  obtain ⟨_, P₁, hadd, hschedule⟩ := bind_ok.mp h
  cases hschedule
  have hnodup := ha.nodup_parts m.config
  rw [Model.parts_eq m.dialect] at hnodup
  obtain ⟨more, hmore⟩ := forM_addMissing_stretch hreal (List.nodup_cons.mp hnodup).2
    (fun x hx k hk => Model.adds_of_mem_additions hx hk) hadd
  refine ⟨more, hmore.history, hmore.concerns, ?_⟩
  show P₁.queue.tasks ++ _ = _
  rw [hmore.queue, List.append_nil]

/-- Creating a table asks for nothing and adds it. -/
theorem createModel_stretch {a : Model}
    (h : m.createModel (Catalog.session d database).recorded a P = .ok () P') :
    ∃ change, Stretch a.table [.table] [⟨.execute change, true⟩] (a.laterTasks m.config) P P' := by
  unfold createModel at h
  obtain ⟨plan, P₁, hfirst, h⟩ := bind_ok.mp h
  obtain ⟨hplan, rfl⟩ := ofExcept_ok.mp hfirst
  obtain ⟨_, P₂, hmake, hschedule⟩ := bind_ok.mp h
  cases hschedule
  obtain ⟨c', -, rfl⟩ := carryOut_recorded hreal hmake
  obtain ⟨hadds, hlater⟩ := Model.plan_ok hplan
  refine ⟨plan.change, rfl, concerns_execute hadds (by simp [Model.createdParts]), ?_⟩
  rw [← hlater]
  rfl

end

/-! ## Visits -/

/-- The handles on join tables among some tasks. -/
def sourcesOf (tasks : List Task) : List Source :=
  tasks.filterMap fun
    | .createIndex _ _ => none
    | .joinTable s _ => some s

theorem sourcesOf_append (ts us : List Task) :
    sourcesOf (ts ++ us) = sourcesOf ts ++ sourcesOf us :=
  List.filterMap_append

theorem sourcesOf_updates (sources : List Source) : sourcesOf (updates sources) = sources := by
  simp [sourcesOf, updates, List.filterMap_map]

theorem sourcesOf_laterTasks (config : Config) (a : Model) :
    sourcesOf (a.laterTasks config) = a.joinTables := by
  simp [sourcesOf, Model.laterTasks, List.filterMap_map]

/-- A visit to the table of a model: it asks for parts of the model and adds some of them, and the
tasks that it schedules are for the join tables of the model or, if something was added, for indexes
of the table. -/
structure Visit (config : Config) (a : Model) (more : List Exchange) (tasks : List Task)
    (P P' : Progress (Catalog × List Exchange)) : Prop
    extends Stretch a.table (a.parts config) more tasks P P' where
  joins : (sourcesOf tasks).Sublist a.joinTables
  indexes : ∀ table i, .createIndex table i ∈ tasks → table = a.table ∧ changesOf more ≠ []

/-- Just asking for the table is a visit. -/
theorem visit_asked (config : Config) (database : String) (a : Model)
    (P : Progress (Catalog × List Exchange)) :
    Visit config a (Part.table.asked database a.table) [] P
      { P with session := (P.session.1, P.session.2 ++ Part.table.asked database a.table) } where
  history := rfl
  concerns := (concerns_asked database a.table .table).mono (by simp [Model.parts])
  queue := by simp
  joins := List.nil_sublist _
  indexes _ _ h := absurd h List.not_mem_nil

section

variable (hreal : m.config.dryRun = false)

include hreal

theorem visit_update {a : Model} (ha : a.IsBuilt)
    (h : m.updateModel (Catalog.session d database).recorded a
      { P with session := (P.session.1, P.session.2 ++ Part.table.asked database a.table) } =
        .ok () P') : ∃ more tasks, Visit m.config a more tasks P P' := by
  obtain ⟨more, hmore⟩ := updateModel_stretch hreal ha h
  have hvisit := hmore.after_question
  rw [← Model.parts_eq] at hvisit
  refine ⟨_, _, hvisit, ?_, fun table i hi => ?_⟩
  · rw [sourcesOf_updates]
  · obtain ⟨s, -, hs⟩ := List.mem_map.mp hi
    cases hs

theorem visit_create {a : Model}
    (h : m.createModel (Catalog.session d database).recorded a
      { P with session := (P.session.1, P.session.2 ++ Part.table.asked database a.table) } =
        .ok () P') : ∃ more tasks, Visit m.config a more tasks P P' := by
  obtain ⟨change, hmore⟩ := createModel_stretch hreal h
  have hvisit := hmore.after_question
  refine ⟨_, _, ⟨hvisit.history, hvisit.concerns.mono (by simp [Model.parts]), hvisit.queue⟩, ?_,
    fun table i hi => ?_⟩
  · rw [sourcesOf_laterTasks]
  · rcases List.mem_append.mp hi with hi | hi
    · obtain ⟨_, -, heq⟩ := List.mem_map.mp hi
      cases heq
      exact ⟨rfl, by simp [changesOf]⟩
    · obtain ⟨_, -, heq⟩ := List.mem_map.mp hi
      cases heq

/-- The step for a model visits its table. -/
theorem updateStep_visit {a : Model} (ha : a.IsBuilt)
    (h : m.updateStep (Catalog.session d database).recorded (.model a) P = .ok () P') :
    ∃ more tasks, Visit m.config a more tasks P P' := by
  obtain ⟨there, P₁, hask, h⟩ := bind_ok.mp h
  cases (ask_recorded m d database a.table .table P).symm.trans hask
  split at h
  · exact visit_update hreal ha h
  · exact visit_create hreal h

/-- The task for a join table visits the table of the model behind the handle. -/
theorem joinTable_visit {source : Source} {flag : Bool}
    (hbuilt : ∀ j, reg.describe source = .ok j → j.IsBuilt)
    (h : m.runTask reg (Catalog.session d database).recorded (.joinTable source flag) P =
      .ok () P') :
    ∃ j more tasks, reg.describe source = .ok j ∧ Visit m.config j more tasks P P' := by
  unfold runTask at h
  obtain ⟨j, P₁, hdescribe, h⟩ := bind_ok.mp h
  obtain ⟨hj, rfl⟩ := ofExcept_ok.mp hdescribe
  have hj := mapError_ok.mp hj
  obtain ⟨there, P₂, hask, h⟩ := bind_ok.mp h
  cases (ask_recorded m d database j.table .table P).symm.trans hask
  refine ⟨j, ?_⟩
  split at h
  · split at h
    · obtain ⟨more, tasks, hvisit⟩ := visit_update hreal (hbuilt j hj) h
      exact ⟨more, tasks, hj, hvisit⟩
    · cases h
      exact ⟨_, _, hj, visit_asked m.config database j P⟩
  · obtain ⟨more, tasks, hvisit⟩ := visit_create hreal h
    exact ⟨more, tasks, hj, hvisit⟩

end

end Migrator

end SchemaMigration
