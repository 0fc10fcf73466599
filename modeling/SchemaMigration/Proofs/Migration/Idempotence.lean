import SchemaMigration.Proofs.Migration.Convergence
import SchemaMigration.Proofs.Migration.Quiet

/-!
# Migrating twice

Is there nothing to do for a second `autoMigrate` right after a first one that succeeded without
failures?  The first run leaves every ordered model with all that it declares, and so all depends on
the join tables (`autoMigrate_idempotent`).

The first run creates a missing table together with its join tables, but a join table that such a
table finds in place it leaves as it is.  The second run finds the table there, and updates the join
table.  So a join table that was there in part stays so for one run; it is completed by the next
(`autoMigrate_twice_speakers`).  The same holds of the join tables of such a join table, and a join
table that leads back to itself is followed by the second run without end.

None of this happens when the join tables are fresh (`FreshJoins`): each of them is missing at the
start, or is settled already, or is listed on its own account; no other model describes its table;
and they come to an end.  Then whatever joined table is there has been made by its own model
(`JInv`), and the tables that it needs were made after it.
-/

namespace SchemaMigration

open Relation (ReflTransGen TransGen)

/-- Model `j` is the model of a join table of an ordered model, or of a join table of such a model,
and so on. -/
def Joined (reg : Registry) (out : List ResolvedModel) (j : Model) : Prop :=
  ∃ model, .model model ∈ out ∧ TransGen (Joins reg) model j

/-- The join tables that the ordered models lead to come to an end, none of them is described by
another model as well, and each that has no step of its own is missing or settled at the start. -/
structure FreshJoins (reg : Registry) (config : Config) (c : Catalog) (out : List ResolvedModel) :
    Prop where
  ends : ∀ model, .model model ∈ out → Acc (fun j m => Joins reg m j) model
  once : ∀ j, Joined reg out j → ∀ a, .model a ∈ out ∨ Joined reg out a → a.table = j.table → a = j
  fresh : ∀ j, Joined reg out j →
    .model j ∈ out ∨ c.hasTable j.table = false ∨ Settled reg config c j

theorem Joined.step {reg : Registry} {out : List ResolvedModel} {a j : Model}
    (ha : .model a ∈ out ∨ Joined reg out a) (hj : Joins reg a j) : Joined reg out j := by
  rcases ha with ha | ⟨model, hm, h⟩
  · exact ⟨a, ha, TransGen.single hj⟩
  · exact ⟨model, hm, h.tail hj⟩

namespace Migrator

open SchemaMigration.Action (Moves after bind_ok ofExcept_ok)

variable {m : Migrator} {reg : Registry} {d : Dialect} {database : String}
variable {p q r : Progress Catalog}

/-! ## Joined tables are made by their own models -/

/-- The table of a model was created for this model, and what was left for later is there or
waits. -/
structure Underway (reg : Registry) (config : Config) (p : Progress Catalog) (j : Model) :
    Prop where
  created : ∀ part ∈ j.createdParts config, p.session.has j.table part = true
  later : ∀ t ∈ j.laterTasks config, t.Done reg p.session ∨ t ∈ p.queue.tasks

/-- What holds of the joined models without a step of their own along a run from catalog `c`: the
tasks that wait are for joined models, and a table that is there has been settled from the start or
is under way. -/
structure JInv (reg : Registry) (config : Config) (c : Catalog) (out : List ResolvedModel)
    (p : Progress Catalog) : Prop where
  waiting : ∀ s flag, .joinTable s flag ∈ p.queue.tasks → ∀ j, reg.describe s = .ok j →
    Joined reg out j
  there : ∀ j, Joined reg out j → .model j ∉ out → p.session.has j.table .table = true →
    Settled reg config c j ∨ Underway reg config p j

section

variable (hreal : m.config.dryRun = false)

include hreal

/-- The only table that work on a model brings is that of the model, which is then under way. -/
theorem WorksOn.table (reg : Registry) {a : Model} (h : m.WorksOn d database a p q) {t : String}
    (ht : q.session.has t .table = true) :
    p.session.has t .table = true ∨ t = a.table ∧ Underway reg m.config q a := by
  rcases h with ⟨hp, h⟩ | ⟨-, h⟩
  · rcases (updateModel_ok h).1 t _ ht with ht | rfl
    · exact Or.inl ht
    · exact Or.inl hp
  · obtain ⟨hparts, hqueue⟩ := createModel_ok hreal h
    rcases (hparts t _).mp ht with ht | ⟨ht, -⟩
    · exact Or.inl ht
    · refine Or.inr ⟨ht, fun part hpart => (hparts _ _).mpr (Or.inr ⟨rfl, hpart⟩),
        fun u hu => Or.inr ?_⟩
      rw [hqueue]
      exact List.mem_append_right _ hu

end

section

variable {c : Catalog} {out : List ResolvedModel}

/-- The invariant goes on when the catalog grows, each task goes on waiting or is done, tasks are
scheduled for joined models only, and a joined table that is new is under way. -/
theorem JInv.next (h : JInv reg m.config c out p) (hmove : Advances p q)
    (hkept : ∀ t ∈ p.queue.tasks, t ∈ q.queue.tasks ∨ t.Done reg q.session)
    (htasks : ∀ s flag, .joinTable s flag ∈ q.queue.tasks →
      .joinTable s flag ∈ p.queue.tasks ∨
        ∃ a, (.model a ∈ out ∨ Joined reg out a) ∧ s ∈ a.joinTables)
    (htable : ∀ j, Joined reg out j → q.session.has j.table .table = true →
      p.session.has j.table .table = true ∨ Underway reg m.config q j) :
    JInv reg m.config c out q := by
  refine ⟨fun s flag hs j hj => ?_, fun j hj hout hq => ?_⟩
  · rcases htasks s flag hs with hp | ⟨a, ha, hsa⟩
    · exact h.waiting s flag hp j hj
    · exact Joined.step ha ⟨s, hsa, hj⟩
  · rcases htable j hj hq with hp | hq
    · refine (h.there j hj hout hp).imp_right fun hu => ⟨fun part hpart => ?_, fun t ht => ?_⟩
      · exact hmove.grows _ _ (hu.created part hpart)
      · rcases hu.later t ht with hdone | hwait
        · exact Or.inl (hdone.grows hmove.grows)
        · exact (hkept t hwait).symm
    · exact Or.inr hq

section

variable (hreal : m.config.dryRun = false)
variable (honce : ∀ j, Joined reg out j → ∀ a, .model a ∈ out ∨ Joined reg out a →
  a.table = j.table → a = j)

include hreal honce

/-- Work on a model that is ordered or joined keeps the invariant.  The task that asked for it may
have been taken before, since it is done afterwards. -/
theorem worksOn_jinv {a : Model} {rest : TaskQueue} (h : JInv reg m.config c out p)
    (ha : .model a ∈ out ∨ Joined reg out a)
    (hwork : m.WorksOn d database a { p with queue := rest } q)
    (hrest : ∀ t ∈ rest.tasks, t ∈ p.queue.tasks)
    (hkept : ∀ t ∈ p.queue.tasks, t ∈ q.queue.tasks ∨ t.Done reg q.session) :
    JInv reg m.config c out q := by
  refine h.next ((advances_take p rest).trans hwork.advances) hkept
    (fun s flag hs => ?_) fun j hj hq => ?_
  · exact (hwork.tasks hs).imp (hrest _) fun hsa => ⟨a, ha, hsa⟩
  · rcases hwork.table hreal reg hq with hp | ⟨htable, hu⟩
    · exact Or.inl hp
    · cases honce j hj a ha htable.symm
      exact Or.inr hu

/-- A task that is taken and done keeps the invariant. -/
theorem runTask_jinv {t : Task} {rest : TaskQueue} (h : JInv reg m.config c out p)
    (hqueue : p.queue.tasks = t :: rest.tasks)
    (hrun : m.runTask reg (Catalog.session d database) t { p with queue := rest } = .ok () q) :
    JInv reg m.config c out q := by
  have hrest : ∀ u ∈ rest.tasks, u ∈ p.queue.tasks := by
    intro u hu
    rw [hqueue]
    exact List.mem_cons_of_mem t hu
  have hwait := ((queue_respects m (Catalog.session d database)).runTask reg t).of_ok hrun
  -- The task that was taken is done, and all others go on waiting.
  have hkept : ∀ u ∈ p.queue.tasks, u ∈ q.queue.tasks ∨ u.Done reg q.session := by
    intro u hu
    rw [hqueue] at hu
    rcases List.mem_cons.mp hu with rfl | hu'
    · exact Or.inr (runTask_done hreal hrun)
    · exact Or.inl (hwait.subset hu')
  have hmove := (advances_take p rest).trans
    (((advances_respects m d database).runTask reg t).of_ok hrun)
  cases t with
  | createIndex table i =>
    refine h.next hmove hkept (fun s flag hs => ?_) fun j _ hq => ?_
    · rw [(carryOut_ok hrun).2.2.2] at hs
      exact Or.inl (hrest _ hs)
    · have hadds := Catalog.apply_adds rfl (applied hreal hrun) j.table .table
      exact Or.inl ((hadds.mp hq).resolve_right (by simp))
  | joinTable source flag =>
    obtain ⟨j, hj, ⟨-, -, rfl⟩ | hwork⟩ := joinTable_ok hrun
    · exact h.next hmove hkept (fun s flag hs => Or.inl (hrest _ hs)) fun j _ hq => Or.inl hq
    · have hjoined : Joined reg out j := h.waiting source flag (by rw [hqueue]; simp) j hj
      exact worksOn_jinv hreal honce h (Or.inr hjoined) hwork hrest hkept

end

/-- The invariant holds at the end of a run without failures. -/
theorem forEachModel_jinv {n : Nat} (hreal : m.config.dryRun = false)
    (hfresh : FreshJoins reg m.config c out)
    (hrun : m.forEachModel reg (Catalog.session d database) n
      (m.updateStep (Catalog.session d database)) out (m.start c) = some (.ok () q))
    (hclean : q.report.failures = []) : JInv reg m.config c out q := by
  have hR := advances_respects m d database
  refine hR.run_inv advances_take hR.updateStep
    (fun model hm u v w hu hstep hdrain hmove => ?_) hrun ?_
  · have hv : JInv reg m.config c out v := by
      cases model with
      | table name =>
        obtain ⟨-, rfl⟩ := updateStep_table hstep
        exact hu
      | model a =>
        have hwait := ((queue_respects m (Catalog.session d database)).updateStep (.model a)).of_ok
          hstep
        exact worksOn_jinv hreal hfresh.once hu (Or.inl hm) (updateStep_ok hstep) (fun _ ht => ht)
          fun t ht => Or.inl (hwait.subset ht)
    -- No failure at the end of the run means none in this part of the deferred work.
    exact drain_inv (hmove.clean hclean)
      (fun t p rest q hqueue hp hrun => runTask_jinv hreal hfresh.once hp hqueue hrun) n hdrain hv
  · refine ⟨fun s flag hs => absurd hs (by simp [start]), fun j hj hout hthere => Or.inl ?_⟩
    have hc : c.hasTable j.table = true := (Catalog.has_table c j.table) ▸ hthere
    rcases hfresh.fresh j hj with h | h | h
    · exact absurd h hout
    · rw [hc] at h
      cases h
    · exact h

end

section

variable {c : Catalog} {out : List ResolvedModel}
variable (hreal : m.config.dryRun = false)

include hreal

/-- At the end of a run without failures the tables of all join tables of the ordered models are
there. -/
theorem forEachModel_joins {n : Nat}
    (hrun : m.forEachModel reg (Catalog.session d database) n
      (m.updateStep (Catalog.session d database)) out p = some (.ok () q))
    (hclean : q.report.failures = []) {model : Model} (hm : .model model ∈ out) {s : Source}
    (hs : s ∈ model.joinTables) :
    ∃ j, reg.describe s = .ok j ∧ q.session.has j.table .table = true := by
  have hall := (advances_respects m d database).run_establishes advances_take
    (advances_respects m d database).updateStep
    (Q := fun model r => r.report.failures = [] → ∀ a, model = .model a → ∀ s ∈ a.joinTables,
      (Task.joinTable s true).Done reg r.session)
    (fun _ _ _ hmove hu hv a ha s hs => (hu (hmove.clean hv) a ha s hs).grows hmove.grows)
    (fun _ _ u v w hstep hdrain hw a ha s hs => by
      subst ha
      obtain ⟨flag, hwait⟩ := (updateStep_ok hstep).joins hreal hs
      have hdone := drain_done hreal hdrain hw _ hwait
      exact hdone) hrun
  exact hall _ hm hclean model rfl s hs

/-- With fresh join tables everything is settled after a run without failures. -/
theorem settled_of_fresh {n : Nat} (hfresh : FreshJoins reg m.config c out)
    (hrun : m.forEachModel reg (Catalog.session d database) n
      (m.updateStep (Catalog.session d database)) out (m.start c) = some (.ok () q))
    (hclean : q.report.failures = []) {model : Model} (hm : .model model ∈ out) :
    Settled reg m.config q.session model := by
  have hinv := forEachModel_jinv hreal hfresh hrun hclean
  have hgrows := (forEachModel_moves (advances_respects m d database) advances_take hrun).grows
  have hempty := forEachModel_empty hrun rfl
  have hall : ∀ a, Acc (fun j m => Joins reg m j) a →
      .model a ∈ out ∨ Joined reg out a ∧ q.session.has a.table .table = true →
      Settled reg m.config q.session a := by
    intro a hacc
    induction hacc with
    | intro a _ ih =>
      intro ha
      -- What is left to see is that the join tables are there: they are settled by induction.
      have hnext (hc : q.session.Conforms m.config a)
          (hj : ∀ s ∈ a.joinTables, (Task.joinTable s true).Done reg q.session) :
          Settled reg m.config q.session a := by
        refine settled_iff.mpr ⟨hc, fun s hs => ?_⟩
        obtain ⟨j, hsj, hthere⟩ := hj s hs
        exact ⟨j, hsj, ih j ⟨s, hs, hsj⟩
          (Or.inr ⟨Joined.step (ha.imp_right And.left) ⟨s, hs, hsj⟩, hthere⟩)⟩
      -- A model with a step of its own conforms by that step; any other is there from the start or
      -- was made for this model.
      by_cases hout : .model a ∈ out
      · exact hnext (forEachModel_conforms hreal hrun hclean hout)
          fun s hs => forEachModel_joins hreal hrun hclean hout hs
      · obtain ⟨hjoined, hthere⟩ := ha.resolve_left hout
        rcases hinv.there a hjoined hout hthere with h | h
        · exact h.grows hgrows
        · have hlater : ∀ t ∈ a.laterTasks m.config, t.Done reg q.session :=
            fun t ht => (h.later t ht).resolve_right (by simp [hempty])
          exact hnext (conforms_of_created reg h.created hlater)
            fun s hs => hlater (.joinTable s false)
              (List.mem_append_right _ (List.mem_map.mpr ⟨s, hs, rfl⟩))
  exact hall model (hfresh.ends model hm) (Or.inl hm)

end

/-! ## The theorem -/

/-- Some allowance is enough for `autoMigrate` to succeed with an empty report. -/
def FindsNothing (m : Migrator) (reg : Registry) (d : Dialect) (database : String)
    (refs : List ModelRef) (c : Catalog) : Prop :=
  ∃ n report c', m.autoMigrate reg (Catalog.session d database) n refs c =
    some (.ok report c') ∧ report.isEmpty = true

/-- The literal tables among what is ordered are there at the end of a run. -/
theorem forEachModel_tables {n : Nat} {out : List ResolvedModel}
    (hrun : m.forEachModel reg (Catalog.session d database) n
      (m.updateStep (Catalog.session d database)) out p = some (.ok () q))
    {name : String} (hname : .table name ∈ out) :
    q.session.has name .table = true := by
  have hR := advances_respects m d database
  refine hR.run_establishes advances_take hR.updateStep
    (Q := fun model r => ∀ name, model = .table name → r.session.has name .table = true)
    (fun _ _ _ hmove hu name hname => hmove.grows _ _ (hu name hname))
    (fun _ _ u v w hstep hdrain name hname => ?_) hrun _ hname name rfl
  subst hname
  refine (hR.drain advances_take reg n hdrain).grows _ _ ?_
  obtain ⟨hu, rfl⟩ := updateStep_table hstep
  exact hu

/-- **Migrating twice.**  Right after an `autoMigrate` that succeeded without failures a second one
has nothing to do, exactly when the join tables of the ordered models are settled by then.  They are
if they were fresh at the start. -/
theorem autoMigrate_idempotent (m : Migrator) (reg : Registry) (d : Dialect) (database : String)
    (allowance : Nat) (refs : List ModelRef) (c c' : Catalog) (report : Report)
    (hreal : m.config.dryRun = false)
    (hrun : m.autoMigrate reg (Catalog.session d database) allowance refs c =
      some (.ok report c'))
    (hclean : report.failures = []) :
    ∃ out, order reg true refs = .ok out ∧
      (m.FindsNothing reg d database refs c' ↔
        ∀ model, .model model ∈ out → JoinsSettled reg m.config c' model) ∧
      (FreshJoins reg m.config c out → m.FindsNothing reg d database refs c') := by
  obtain ⟨out, q, ho, hall, rfl, rfl⟩ := autoMigrate_ok.mp hrun
  -- The ordered models conform after the first run, so that only their join tables are open.
  have hiff : m.FindsNothing reg d database refs q.session ↔
      ∀ model, .model model ∈ out → JoinsSettled reg m.config q.session model := by
    refine (autoMigrate_quiet_iff hreal ho).trans ⟨fun h model hm => ?_, fun h model hm => ?_⟩
    · exact (settled_iff.mp (h (.model model) hm)).2
    · cases model with
      | table name => exact forEachModel_tables hall hm
      | model model =>
        exact settled_iff.mpr ⟨forEachModel_conforms hreal hall hclean hm, h model hm⟩
  refine ⟨out, ho, hiff, fun hfresh => hiff.mpr fun model hm => ?_⟩
  exact (settled_iff.mp (settled_of_fresh hreal hfresh hall hclean hm)).2

/-! ## A join table that is missing, and one that is there in part -/

/-- Languages, known by their number. -/
def languages : Model where
  table := "languages"
  columns := [idColumn "id" true]

/-- Speakers of languages, which a join table tells. -/
def speakers : Model where
  table := "speakers"
  columns := [idColumn "id" true]
  relationships := [
    { name := "Languages", kind := .manyToMany, targetTable := "languages",
      joinTable := some ⟨"speaker_languages", 0⟩ }]

/-- The join table. -/
def spoken : Model where
  table := "speaker_languages"
  columns := [idColumn "speaker_id" true, idColumn "language_id" true]
  relationships := [
    .belongsTo "speakers"
      { name := "fk_speaker", table := "speaker_languages", columns := ["speaker_id"],
        referencedTable := "speakers", referencedColumns := ["id"] },
    .belongsTo "languages"
      { name := "fk_language", table := "speaker_languages", columns := ["language_id"],
        referencedTable := "languages", referencedColumns := ["id"] }]

/-- The registry that describes the join table. -/
def spokenRegistry : Registry := ⟨#[.ok spoken]⟩

/-- Migrates with no choice made. -/
def plainMigrator : Migrator := ⟨Mysql.dialect, {}⟩

/-- A run for languages and speakers. -/
def migrateSpeakers (c : Catalog) : Option (Outcome Catalog Report) :=
  plainMigrator.autoMigrate spokenRegistry (Catalog.session Mysql.dialect "app") 1
    [.model languages, .model speakers] c

theorem order_speakers : order spokenRegistry true [.model languages, .model speakers] =
    .ok [.model languages, .model speakers] := by with_unfolding_all rfl

theorem order_created : order spokenRegistry false [.model languages, .model speakers] =
    .ok [.model languages, .model speakers] := by with_unfolding_all rfl

theorem eq_spoken_of_joins {model j : Model} (hm : model ∈ [languages, speakers, spoken])
    (h : Joins spokenRegistry model j) : model = speakers ∧ j = spoken := by
  obtain ⟨s, hs, hj⟩ := h
  simp only [List.mem_cons, List.not_mem_nil, or_false] at hm
  rcases hm with rfl | rfl | rfl
  · exact absurd hs List.not_mem_nil
  · cases List.mem_singleton.mp hs
    exact ⟨rfl, (Except.ok.inj hj).symm⟩
  · exact absurd hs List.not_mem_nil

theorem mem_of_ordered {model : Model}
    (hm : .model model ∈ [ResolvedModel.model languages, .model speakers]) :
    model ∈ [languages, speakers, spoken] := by
  simp only [List.mem_cons, ResolvedModel.model.injEq, List.not_mem_nil, or_false] at hm ⊢
  exact hm.imp_right Or.inl

theorem eq_spoken_of_joined {j : Model}
    (h : Joined spokenRegistry [.model languages, .model speakers] j) : j = spoken := by
  obtain ⟨model, hm, h⟩ := h
  induction h with
  | single h => exact (eq_spoken_of_joins (mem_of_ordered hm) h).2
  | tail _ h ih => exact (eq_spoken_of_joins (by simp [ih]) h).2

/-- When nothing is there, the join table is fresh. -/
theorem freshJoins_speakers :
    FreshJoins spokenRegistry {} {} [.model languages, .model speakers] where
  ends model hm := by
    have hlast : Acc (fun j m => Joins spokenRegistry m j) spoken :=
      Acc.intro spoken fun j hj => absurd
        (congrArg Model.table (eq_spoken_of_joins (by simp) hj).1) (by decide)
    refine Acc.intro model fun j hj => ?_
    rw [(eq_spoken_of_joins (mem_of_ordered hm) hj).2]
    exact hlast
  once j hj a ha htable := by
    cases eq_spoken_of_joined hj
    rcases ha with ha | ha
    · rcases List.mem_cons.mp ha with ha | ha
      · cases ha
        exact absurd htable (by decide)
      · cases List.mem_singleton.mp ha
        exact absurd htable (by decide)
    · exact eq_spoken_of_joined ha
  fresh j hj := Or.inr (Or.inl rfl)

/-- All three tables, with what they are declared with. -/
def speakersAfter : Catalog :=
  ⟨[("languages", { columns := ["id"] }), ("speakers", { columns := ["id"] }),
    ("speaker_languages",
      { columns := ["speaker_id", "language_id"],
        constraints := ⟨["fk_language", "fk_speaker"]⟩ })]⟩

/-- What it takes to create them. -/
def speakersReport : Report where
  executed := [
    "CREATE TABLE `languages` (`id` bigint,PRIMARY KEY (`id`))",
    "CREATE TABLE `speakers` (`id` bigint,PRIMARY KEY (`id`))",
    "CREATE TABLE `speaker_languages` (`speaker_id` bigint,`language_id` bigint,"
      ++ "PRIMARY KEY (`speaker_id`,`language_id`),"
      ++ "CONSTRAINT `fk_speaker` FOREIGN KEY (`speaker_id`) REFERENCES `speakers`(`id`),"
      ++ "CONSTRAINT `fk_language` FOREIGN KEY (`language_id`) REFERENCES `languages`(`id`))"]

/-- A join table that the first run creates is left alone by the second. -/
theorem autoMigrate_idempotent_speakers :
    migrateSpeakers {} = some (.ok speakersReport speakersAfter) ∧
      plainMigrator.FindsNothing spokenRegistry Mysql.dialect "app"
        [.model languages, .model speakers] speakersAfter := by
  have hrun : migrateSpeakers {} = some (.ok speakersReport speakersAfter) :=
    arrival_eq_some.mp (by decide +kernel)
  obtain ⟨out, ho, -, hfresh⟩ := autoMigrate_idempotent _ _ _ _ _ _ _ _ _ rfl hrun rfl
  cases order_speakers.symm.trans ho
  exact ⟨hrun, hfresh freshJoins_speakers⟩

/-- The join table is there with one of its columns; the others are missing. -/
def partlySpoken : Catalog := ⟨[("speaker_languages", { columns := ["speaker_id"] })]⟩

/-- The first run creates the others and leaves the join table as it is. -/
def partlyMigrated : Catalog :=
  ⟨[("speaker_languages", { columns := ["speaker_id"] }), ("languages", { columns := ["id"] }),
    ("speakers", { columns := ["id"] })]⟩

/-- A join table that is there in part when the table of its model is created stays so, and the
second run has to complete it. -/
theorem autoMigrate_twice_speakers :
    arrival (migrateSpeakers partlySpoken) =
        some ({ executed := speakersReport.executed.take 2 }, partlyMigrated) ∧
      ((arrival (migrateSpeakers partlyMigrated)).map fun r => r.1.executed) =
        some ["ALTER TABLE `speaker_languages` ADD `language_id` bigint",
          "ALTER TABLE `speaker_languages` ADD CONSTRAINT `fk_speaker` "
            ++ "FOREIGN KEY (`speaker_id`) REFERENCES `speakers`(`id`)",
          "ALTER TABLE `speaker_languages` ADD CONSTRAINT `fk_language` "
            ++ "FOREIGN KEY (`language_id`) REFERENCES `languages`(`id`)"] ∧
      ¬ plainMigrator.FindsNothing spokenRegistry Mysql.dialect "app"
        [.model languages, .model speakers] partlyMigrated := by
  refine ⟨by decide +kernel, by decide +kernel, fun h => ?_⟩
  have hset := (autoMigrate_quiet_iff rfl order_speakers).mp h (.model speakers) (by simp)
  have hjoins : Joins spokenRegistry speakers spoken := ⟨_, List.mem_singleton_self _, rfl⟩
  have hconf := Settled.conforms hset spoken (ReflTransGen.single hjoins)
  exact absurd (hconf (.column "language_id") (by decide)) (by decide)

end Migrator

end SchemaMigration
