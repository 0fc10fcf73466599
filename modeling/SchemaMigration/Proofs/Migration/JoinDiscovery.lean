import SchemaMigration.Proofs.Migration.Idempotence
import SchemaMigration.Proofs.Migration.Tasks

/-!
# What join tables refer to

The handle on a foreign key brings the model behind it into the order, but only if the key belongs
to a model that is ordered.  Join models are not: their handles are followed by the deferred work,
once their turn has come, and nobody follows those on their keys.  So `autoMigrate` can succeed
without a table that a join table refers to, although a handle describes it
(`autoMigrate_undiscovered_languages`).

The tables at the end of a run are those from the start, those of the order, and join tables
(`Founded`).  Hence what a join table refers to is there if it was there or is ordered, and, unless
it is a join table itself, only then.  The join table is not created without it, though, and this is
a failure in the report: if there is none, then a join table that was missing has all that it refers
to (`autoMigrate_joinReferences`).
-/

namespace SchemaMigration

open Relation (ReflTransGen TransGen)

/-- A model with a step of its own, or one that join tables lead to. -/
def Involved (reg : Registry) (out : List ResolvedModel) (a : Model) : Prop :=
  .model a ∈ out ∨ Joined reg out a

/-- The table of a model or of a literal name in the order. -/
def Ordered (out : List ResolvedModel) (t : String) : Prop := ∃ model ∈ out, model.tableName = t

/-- What a model refers to is its own table or there. -/
def Model.Grounded (c : Catalog) (a : Model) : Prop :=
  ∀ k ∈ a.foreignKeys, a.table = k.referencedTable ∨ c.hasTable k.referencedTable = true

theorem Model.Grounded.grows {a : Model} {c c' : Catalog} (h : a.Grounded c) (hg : c.Grows c') :
    a.Grounded c' :=
  fun k hk => (h k hk).imp_right hg.hasTable

namespace Migrator

open SchemaMigration.Action (Moves after)

variable {m : Migrator} {reg : Registry} {d : Dialect} {database : String}
variable {c : Catalog} {out : List ResolvedModel} {p q : Progress Catalog}

/-! ## Work on a model, whether it fails or not -/

/-- A step that brings the table of model `a` at most, and schedules its join tables at most. -/
structure Within (a : Model) (p q : Progress Catalog) : Prop where
  tables : ∀ t, q.session.hasTable t = true → p.session.hasTable t = true ∨ t = a.table
  tasks : ∀ s flag, .joinTable s flag ∈ q.queue.tasks →
    .joinTable s flag ∈ p.queue.tasks ∨ s ∈ a.joinTables

theorem Within.refl (a : Model) (p : Progress Catalog) : Within a p p :=
  ⟨fun _ => Or.inl, fun _ _ => Or.inl⟩

theorem Within.trans {a : Model} {p q r : Progress Catalog} (h : Within a p q)
    (h' : Within a q r) : Within a p r :=
  ⟨fun t ht => (h'.tables t ht).elim (h.tables t) Or.inr,
    fun s flag hs => (h'.tasks s flag hs).elim (h.tasks s flag) Or.inr⟩

theorem Stays.within {a : Model} (h : Stays a.table p q) : Within a p q := by
  refine ⟨fun t ht => ?_, fun s flag hs => Or.inl (h.queue ▸ hs)⟩
  rw [← Catalog.has_table] at ht ⊢
  exact h.others t .table ht

theorem updateModel_within (m : Migrator) (d : Dialect) (database : String) (a : Model) :
    Moves (Within a) (m.updateModel (Catalog.session d database) a) := by
  rw [updateModel_eq]
  refine Moves.bind (R := Within a) (fun _ _ _ => Within.trans) (Action.moves_forM (Within.refl a)
    (fun _ _ _ => Within.trans) fun x hx p => ?_) fun _ p => ⟨fun _ => Or.inl, fun s flag hs => ?_⟩
  · exact (addMissing_stays (fun c hc => Model.adds_of_mem_additions hx hc) p).within
  · rcases List.mem_append.mp hs with hs | hs
    · exact Or.inl hs
    · obtain ⟨t, ht, heq⟩ := List.mem_map.mp hs
      cases heq
      exact Or.inr ht

/-! ## Where the tables come from -/

/-- The tables that are there were there at the start, or were created for a model that is involved
and has all that it refers to; and the tasks that wait are for such models. -/
structure Founded (reg : Registry) (c : Catalog) (out : List ResolvedModel)
    (p : Progress Catalog) : Prop where
  tables : ∀ t, p.session.hasTable t = true → c.hasTable t = true ∨
    ∃ a, Involved reg out a ∧ a.table = t ∧ a.Grounded p.session
  waiting : ∀ s flag, .joinTable s flag ∈ p.queue.tasks → ∀ j, reg.describe s = .ok j →
    Joined reg out j

/-- The tables stay founded when the catalog grows by tables of involved models that have what they
refer to, and join tables of such models are scheduled. -/
theorem Founded.next (h : Founded reg c out p) (hmove : Advances p q)
    (htables : ∀ t, q.session.hasTable t = true → p.session.hasTable t = true ∨
      ∃ a, Involved reg out a ∧ a.table = t ∧ a.Grounded q.session)
    (htasks : ∀ s flag, .joinTable s flag ∈ q.queue.tasks →
      .joinTable s flag ∈ p.queue.tasks ∨ ∃ a, Involved reg out a ∧ s ∈ a.joinTables) :
    Founded reg c out q := by
  refine ⟨fun t ht => ?_, fun s flag hs j hj => ?_⟩
  · rcases htables t ht with hp | hnew
    · exact (h.tables t hp).imp_right fun ⟨a, ha, hat, hg⟩ => ⟨a, ha, hat, hg.grows hmove.grows⟩
    · exact Or.inr hnew
  · rcases htasks s flag hs with hp | ⟨a, ha, hsa⟩
    · exact h.waiting s flag hp j hj
    · exact Joined.step ha ⟨s, hsa, hj⟩

theorem Founded.update {a : Model} (h : Founded reg c out p) (ha : Involved reg out a)
    (hthere : p.session.hasTable a.table = true) :
    Founded reg c out (after (m.updateModel (Catalog.session d database) a) p) := by
  have hwithin := updateModel_within m d database a p
  refine h.next ((advances_respects m d database).updateModel a p) (fun t ht => Or.inl ?_)
    fun s flag hs => (hwithin.tasks s flag hs).imp_right fun hsa => ⟨a, ha, hsa⟩
  rcases hwithin.tables t ht with hp | rfl
  · exact hp
  · exact hthere

section

variable (hreal : m.config.dryRun = false)

include hreal

theorem Founded.create {a : Model} (h : Founded reg c out p) (ha : Involved reg out a) :
    Founded reg c out (after (m.createModel (Catalog.session d database) a) p) := by
  unfold after
  cases hcreate : m.createModel (Catalog.session d database) a p with
  | error e q =>
    cases createModel_error hcreate
    exact h
  | ok _ q =>
    have hmove := ((advances_respects m d database).createModel a).of_ok hcreate
    refine h.next hmove (fun t ht => ?_) fun s flag hs => ?_
    · refine ((createModel_hasTable hreal hcreate t).mp ht).imp_right
        fun heq => ⟨a, ha, heq.symm, ?_⟩
      exact Model.Grounded.grows (createModel_refers hreal hcreate) hmove.grows
    · exact (createModel_joinTables hcreate hs).imp_right fun hsa => ⟨a, ha, hsa.2⟩

/-- The first task that waits keeps the tables founded, whether it fails or not. -/
theorem Founded.attempt {t : Task} {rest : TaskQueue} (h : Founded reg c out p)
    (hp : p.queue.tasks = t :: rest.tasks) :
    Founded reg c out (m.attempt reg (Catalog.session d database) t { p with queue := rest }) := by
  have htaken : Founded reg c out { p with queue := rest } :=
    ⟨h.tables, fun s flag hs => h.waiting s flag (hp ▸ List.mem_cons_of_mem t hs)⟩
  cases t with
  | createIndex table i =>
    obtain ⟨hqueue, hsame⟩ := attempt_createIndex_tasks m reg d database
      { p with queue := rest } table i
    have hmove := (advances_respects m d database).attempt reg (.createIndex table i)
      { p with queue := rest }
    exact htaken.next hmove (fun u hu => Or.inl (hsame u ▸ hu)) fun s flag hs =>
      Or.inl (hqueue ▸ hs)
  | joinTable source flag =>
    have hwork : Founded reg c out (after (m.runTask reg (Catalog.session d database)
        (.joinTable source flag)) { p with queue := rest }) := by
      cases hj : reg.describe source with
      | error e =>
        rw [after, runTask, hj]
        exact htaken
      | ok j =>
        have hjoined : Involved reg out j := Or.inr (h.waiting source flag (by simp [hp]) j hj)
        rw [after, runTask_join hj]
        by_cases hthere : p.session.hasTable j.table = true
        · rw [if_pos hthere]
          cases flag with
          | true => exact htaken.update hjoined hthere
          | false => exact htaken
        · rw [if_neg hthere]
          exact htaken.create hreal hjoined
    obtain ⟨hsession, hqueue⟩ := attempt_leaves m reg (Catalog.session d database)
      (.joinTable source flag) { p with queue := rest }
    exact ⟨hsession ▸ hwork.tables, hqueue ▸ hwork.waiting⟩

/-- At the end of a run the tables are founded. -/
theorem forEachModel_founded {n : Nat}
    (hrun : m.forEachModel reg (Catalog.session d database) n
      (m.updateStep (Catalog.session d database)) out (m.start c) = some (.ok () q)) :
    Founded reg c out q := by
  have hR := advances_respects m d database
  refine hR.run_inv advances_take hR.updateStep (fun model hm u v w hu hstep hdrain _ => ?_) hrun
    ⟨fun _ => Or.inl, fun _ _ hs => absurd hs List.not_mem_nil⟩
  have hv : Founded reg c out v := by
    cases model with
    | table name =>
      obtain ⟨-, rfl⟩ := updateStep_table hstep
      exact hu
    | model a =>
      rcases updateStep_ok hstep with ⟨hthere, hwork⟩ | ⟨-, hwork⟩
      · have hnext : Founded reg c out
            (after (m.updateModel (Catalog.session d database) a) u) :=
          hu.update (Or.inl hm) (Catalog.has_table _ _ ▸ hthere)
        rwa [after, hwork] at hnext
      · have hnext : Founded reg c out
            (after (m.createModel (Catalog.session d database) a) u) :=
          hu.create hreal (Or.inl hm)
        rwa [after, hwork] at hnext
  exact drain_keeps (fun t p rest hp h => h.attempt hreal hp) n hdrain hv

/-- At the end of a run the tables of the order are there. -/
theorem forEachModel_ordered {n : Nat}
    (hrun : m.forEachModel reg (Catalog.session d database) n
      (m.updateStep (Catalog.session d database)) out p = some (.ok () q)) {t : String}
    (ht : Ordered out t) : q.session.hasTable t = true := by
  have hR := advances_respects m d database
  obtain ⟨model, hm, rfl⟩ := ht
  rw [← Catalog.has_table]
  cases model with
  | table name => exact forEachModel_tables hrun hm
  | model a =>
    refine hR.run_establishes advances_take hR.updateStep
      (Q := fun model r => ∀ a, model = .model a → r.session.has a.table .table = true)
      (fun _ _ _ hmove hu a ha => hmove.grows _ _ (hu a ha))
      (fun _ _ u v w hstep hdrain a ha => ?_) hrun _ hm a rfl
    subst ha
    exact (hR.drain advances_take reg n hdrain).grows _ _ ((updateStep_ok hstep).there hreal)

end

/-! ## The theorem -/

/-- **What join tables refer to.**  When `autoMigrate` has succeeded on a catalog, a table that the
join table of an ordered model refers to is there if it was there at the start or stands in the
order; and only then, unless it is a join table itself, whatever handle the foreign key carries.  If
no deferred work has failed, it is there also if the join table was missing at the start and is
described by one model only. -/
theorem autoMigrate_joinReferences (m : Migrator) (reg : Registry) (d : Dialect)
    (database : String) (allowance : Nat) (refs : List ModelRef) (c c' : Catalog) (report : Report)
    (hreal : m.config.dryRun = false)
    (hrun : m.autoMigrate reg (Catalog.session d database) allowance refs c =
      some (.ok report c')) :
    ∃ out, order reg true refs = .ok out ∧
      ∀ a j k, .model a ∈ out → Joins reg a j → k ∈ j.foreignKeys →
        (c.hasTable k.referencedTable = true ∨ Ordered out k.referencedTable →
          c'.hasTable k.referencedTable = true) ∧
        ((∀ i, Joined reg out i → i.table ≠ k.referencedTable) →
          c'.hasTable k.referencedTable = true →
          c.hasTable k.referencedTable = true ∨ Ordered out k.referencedTable) ∧
        (report.failures = [] → c.hasTable j.table = false →
          (∀ b, Involved reg out b → b.table = j.table → b = j) →
          c'.hasTable k.referencedTable = true) := by
  obtain ⟨out, q, ho, hall, rfl, rfl⟩ := autoMigrate_ok.mp hrun
  have hfounded := forEachModel_founded hreal hall
  have hgrows := (forEachModel_moves (advances_respects m d database) advances_take hall).grows
  refine ⟨out, ho, fun a j k ha haj hk =>
    ⟨?_, fun hjoins hthere => ?_, fun hclean hmiss honce => ?_⟩⟩
  · rintro (hc | hout)
    · exact hgrows.hasTable hc
    · exact forEachModel_ordered hreal hall hout
  · rcases hfounded.tables _ hthere with hc | ⟨b, hb | hb, hbk, -⟩
    · exact Or.inl hc
    · exact Or.inr ⟨.model b, hb, hbk⟩
    · exact absurd hbk (hjoins b hb)
  · obtain ⟨s, hs, hj⟩ := haj
    obtain ⟨j', hj', hthere⟩ := forEachModel_joins hreal hall hclean ha hs
    cases hj.symm.trans hj'
    rw [Catalog.has_table] at hthere
    rcases hfounded.tables _ hthere with hc | ⟨b, hb, hbj, hgrounded⟩
    · rw [hmiss] at hc
      cases hc
    · cases honce b hb hbj
      rcases hgrounded k hk with hself | href
      · exact hself ▸ hthere
      · exact href

/-! ## Languages behind a handle -/

/-- The key of the join table that refers to the languages, with a handle for them. -/
def languageKey : ForeignKey where
  name := "fk_language"
  table := "speaker_languages"
  columns := ["language_id"]
  referencedTable := "languages"
  referencedColumns := ["id"]
  referencedModel := some ⟨"Language", 1⟩

/-- The join table of speakers and languages, with the handle. -/
def spokenByHandle : Model where
  table := "speaker_languages"
  columns := [idColumn "speaker_id" true, idColumn "language_id" true]
  relationships := [
    .belongsTo "speakers"
      { name := "fk_speaker", table := "speaker_languages", columns := ["speaker_id"],
        referencedTable := "speakers", referencedColumns := ["id"] },
    .belongsTo "languages" languageKey]

theorem languageKey_mem : languageKey ∈ spokenByHandle.foreignKeys :=
  List.mem_cons_of_mem _ (List.mem_singleton_self _)

/-- The registry that describes the join table and the languages. -/
def handleRegistry : Registry := ⟨#[.ok spokenByHandle, .ok languages]⟩

theorem joins_spokenByHandle : Joins handleRegistry speakers spokenByHandle :=
  ⟨_, List.mem_singleton_self _, rfl⟩

theorem eq_spokenByHandle_of_joins {a j : Model} (ha : a ∈ [languages, speakers, spokenByHandle])
    (h : Joins handleRegistry a j) : j = spokenByHandle := by
  obtain ⟨s, hs, hj⟩ := h
  simp only [List.mem_cons, List.not_mem_nil, or_false] at ha
  rcases ha with rfl | rfl | rfl
  · exact absurd hs List.not_mem_nil
  · cases List.mem_singleton.mp hs
    exact (Except.ok.inj hj).symm
  · exact absurd hs List.not_mem_nil

theorem eq_spokenByHandle_of_joined {j : Model}
    (h : Joined handleRegistry [.model languages, .model speakers] j) : j = spokenByHandle := by
  obtain ⟨a, ha, h⟩ := h
  have ha' : a ∈ [languages, speakers, spokenByHandle] := by
    simp only [List.mem_cons, ResolvedModel.model.injEq, List.not_mem_nil, or_false] at ha ⊢
    exact ha.imp_right Or.inl
  induction h with
  | single h => exact eq_spokenByHandle_of_joins ha' h
  | tail _ h ih => exact eq_spokenByHandle_of_joins (by simp [ih]) h

/-- Listed as well, the languages are there at the end, as the order says and as the lack of
failures says. -/
theorem autoMigrate_joinReferences_speakers :
    ∃ report c', plainMigrator.autoMigrate handleRegistry (Catalog.session Mysql.dialect "app") 1
        [.model languages, .model speakers] {} = some (.ok report c') ∧
      report.failures = [] ∧ c'.hasTable languageKey.referencedTable = true := by
  have hrun : plainMigrator.autoMigrate handleRegistry (Catalog.session Mysql.dialect "app") 1
      [.model languages, .model speakers] {} = some (.ok speakersReport speakersAfter) :=
    arrival_eq_some.mp (by decide +kernel)
  have horder : order handleRegistry true [.model languages, .model speakers] =
      .ok [.model languages, .model speakers] := by with_unfolding_all rfl
  obtain ⟨out, ho, hall⟩ := autoMigrate_joinReferences _ _ _ _ _ _ _ _ _ rfl hrun
  cases horder.symm.trans ho
  obtain ⟨-, -, hclean⟩ := hall speakers spokenByHandle languageKey (by simp) joins_spokenByHandle
    languageKey_mem
  refine ⟨_, _, hrun, rfl, hclean rfl rfl fun b hb htable => ?_⟩
  rcases hb with hb | hb
  · simp only [List.mem_cons, ResolvedModel.model.injEq, List.not_mem_nil, or_false] at hb
    rcases hb with rfl | rfl
    · exact absurd htable (by decide)
    · exact absurd htable (by decide)
  · exact eq_spokenByHandle_of_joined hb

/-- Where only the speakers are listed, nobody follows the handle on the key of their join table:
the run succeeds, the join table is given up, and the languages are not there. -/
theorem autoMigrate_undiscovered_languages :
    speakers.IsBuilt ∧ spokenByHandle.IsBuilt ∧ languages.IsBuilt ∧
      Joins handleRegistry speakers spokenByHandle ∧ languageKey ∈ spokenByHandle.foreignKeys ∧
      (∃ s, languageKey.referencedModel = some s ∧ handleRegistry.describe s = .ok languages) ∧
      languages.table = languageKey.referencedTable ∧
      (arrival (plainMigrator.autoMigrate handleRegistry (Catalog.session Mysql.dialect "app") 1
          [.model speakers] {})).map (fun r => (r.1.failures.length, r.2.hasTable "speakers",
            r.2.hasTable languageKey.referencedTable)) = some (1, true, false) := by
  refine ⟨⟨speakers, ?_⟩, ⟨spokenByHandle, ?_⟩, ⟨languages, ?_⟩, joins_spokenByHandle,
    languageKey_mem, ⟨_, rfl, rfl⟩, rfl, by decide +kernel⟩
  all_goals with_unfolding_all rfl

end Migrator

end SchemaMigration
