import SchemaMigration.Proofs.Migration.DryRun
import SchemaMigration.Proofs.Migration.JoinTables
import SchemaMigration.Proofs.Migration.Replay

/-!
# Tables that are created twice

`createTables` creates the listed tables without a question, and join tables after one.  So a table
is asked to be created a second time only by a listed model, and only if its table is the join table
of a model before it, which was created in the deferred work behind that model
(`createTables_once`).  The second `CREATE TABLE` is refused, and with it the run ends.

> `Origins`: each table that was created is that of a model whose turn has come, or of a join model
> that such a model leads to.

Conversely, a list in which this happens cannot be created: where a model before leads to the table
by one relationship, and the join table finds what it refers to, no run succeeds.
-/

namespace SchemaMigration

open Relation (ReflTransGen TransGen)

/-- The history has created the table. -/
def CreatedIn (history : List Exchange) (t : String) : Prop :=
  ∃ clauses options, .createTable t clauses options ∈ acceptedOf history

/-- The table is that of the model, or of a join model that the model leads to. -/
def Model.LeadsTo (reg : Registry) (b : Model) (t : String) : Prop :=
  b.table = t ∨ ∃ j, TransGen (Joins reg) b j ∧ j.table = t

theorem Model.LeadsTo.of_joins {reg : Registry} {b j k : Model} (h : ReflTransGen (Joins reg) b j)
    (hk : Joins reg j k) : b.LeadsTo reg k.table :=
  Or.inr ⟨k, TransGen.tail' h hk, rfl⟩

/-- What stands before a model wherever the order is cut once stands before it. -/
theorem OrderedApart.precedes {xs ys : List ResolvedModel} {a b : Model}
    (h : OrderedApart (xs ++ .model a :: ys)) (hb : .model b ∈ xs) :
    Precedes (xs ++ .model a :: ys) b a := by
  obtain ⟨-, hrest, hbefore⟩ := List.pairwise_append.mp h
  have hxs : .model a ∉ xs := by
    intro ha
    obtain ⟨b', heq, hne⟩ := hbefore _ ha _ List.mem_cons_self a rfl
    cases heq
    exact hne rfl
  have hys : .model a ∉ ys := by
    intro ha
    obtain ⟨b', heq, hne⟩ := (List.pairwise_cons.mp hrest).1 _ ha a rfl
    cases heq
    exact hne rfl
  intro us vs hcut
  rwa [((List.append_cons_inj_of_notMem hxs hys).mp hcut).1] at hb

/-- A table that is there is not created again. -/
theorem Catalog.apply_existing {c : Catalog} {t : String} (h : c.hasTable t = true)
    (clauses : List Clause) (options : Option String) :
    c.apply (.createTable t clauses options) = .error (.tableExists t) := by
  rw [apply, if_pos h]

namespace Migrator

open SchemaMigration.Action (after bind_ok)

variable {m : Migrator} {reg : Registry} {d : Dialect} {database : String}
variable {done done' : List Model} {c : Catalog} {x y : Catalog × List Exchange}
variable {P Q : Progress (Catalog × List Exchange)}

/-! ## What was created -/

/-- The history is genuine and only adds, each table that was created has an origin, and no
`CREATE TABLE` was sent for a table that was created before. -/
structure Origins (reg : Registry) (c : Catalog) (done : List Model)
    (x : Catalog × List Exchange) : Prop where
  genuine : Genuine c x
  adds : ∀ change ∈ changesOf x.2, ∃ table parts, change.adds = some (table, parts)
  origin : ∀ t, CreatedIn x.2 t → ∃ b ∈ done, b.LeadsTo reg t
  once : ∀ before t clauses options succeeded after,
    x.2 = before ++ ⟨.execute (.createTable t clauses options), succeeded⟩ :: after →
      ¬ CreatedIn before t

theorem Origins.mono (h : Origins reg c done x) (hsub : done ⊆ done') : Origins reg c done' x := by
  refine ⟨h.genuine, h.adds, fun t ht => ?_, h.once⟩
  obtain ⟨b, hb, hbt⟩ := h.origin t ht
  exact ⟨b, hsub hb, hbt⟩

/-- A table that was created is there. -/
theorem Origins.hasTable (h : Origins reg c done x) {t : String} (ht : CreatedIn x.2 t) :
    x.1.hasTable t = true := by
  obtain ⟨clauses, options, hmem⟩ := ht
  rw [← Catalog.has_table, h.genuine.state, Genuine.has_iff h.adds h.genuine.outcomes]
  exact Or.inr ⟨_, hmem, _, rfl, List.mem_cons_self⟩

theorem Origins.asked (h : Origins reg c done x) (database table : String) (p : Part) :
    Origins reg c done (x.1, x.2 ++ p.asked database table) := by
  have hchanges : changesOf (x.2 ++ p.asked database table) = changesOf x.2 := by
    rw [changesOf_append, changesOf_asked, List.append_nil]
  have haccepted : acceptedOf (x.2 ++ p.asked database table) = acceptedOf x.2 := by
    rw [acceptedOf_append]
    exact List.append_nil _
  refine ⟨h.genuine.asked database table p, fun change hc => ?_, fun t ht => ?_,
    fun before t clauses options succeeded after hcut => ?_⟩
  · exact h.adds change (hchanges ▸ hc)
  · refine h.origin t ?_
    unfold CreatedIn at ht ⊢
    rwa [haccepted] at ht
  · obtain ⟨rest, hrest⟩ := cut_asked hcut
    exact h.once before t clauses options succeeded rest hrest

/-- A change is sent that creates no table, or one that was not created and has an origin. -/
theorem Origins.sends (h : Origins reg c done x) {change : Change} {table : String}
    {parts : List Part} (ha : change.adds = some (table, parts)) (hsends : Sends change x y)
    (hnew : ∀ clauses options, change = .createTable table clauses options →
      ¬ CreatedIn x.2 table ∧ ∃ b ∈ done, b.LeadsTo reg table) : Origins reg c done y := by
  obtain ⟨succeeded, hhistory⟩ := hsends.history
  refine ⟨h.genuine.sends hsends, fun change' hc => ?_, fun t ht => ?_,
    fun before t clauses options succeeded' after hcut => ?_⟩
  · rw [hhistory, changesOf_append, List.mem_append] at hc
    rcases hc with hc | hc
    · exact h.adds change' hc
    · obtain rfl : change' = change := by simpa [changesOf] using hc
      exact ⟨table, parts, ha⟩
  · obtain ⟨clauses, options, hmem⟩ := ht
    rw [hhistory, acceptedOf_append, List.mem_append] at hmem
    rcases hmem with hmem | hmem
    · exact h.origin t ⟨clauses, options, hmem⟩
    · cases succeeded with
      | false => exact absurd hmem List.not_mem_nil
      | true =>
        obtain rfl := List.mem_singleton.mp hmem
        cases ha
        exact (hnew clauses options rfl).2
  · rw [hhistory] at hcut
    rcases cut_concat hcut with ⟨rfl, heq, -⟩ | ⟨rest, -, hcut'⟩
    · cases heq
      cases ha
      exact (hnew clauses options rfl).1
    · exact h.once before t clauses options succeeded' rest hcut'

/-! ## The deferred work -/

/-- Behind the models whose turn has come: the tables have origins, and the join tables that wait
are those of join models that these models lead to, and are left alone if they are there. -/
structure Follows (reg : Registry) (c : Catalog) (done : List Model)
    (P : Progress (Catalog × List Exchange)) : Prop where
  origins : Origins reg c done P.session
  waiting : ∀ s flag, .joinTable s flag ∈ P.queue.tasks →
    flag = false ∧ ∀ j, reg.describe s = .ok j → ∃ b ∈ done, TransGen (Joins reg) b j

section

variable (hreal : m.config.dryRun = false)

include hreal

/-- A table that was not created before is created, or refused. -/
theorem Follows.create (d : Dialect) (database : String) {a b : Model} (h : Follows reg c done P)
    (hb : b ∈ done) (hba : ReflTransGen (Joins reg) b a) (hnew : ¬ CreatedIn P.session.2 a.table) :
    Follows reg c done (after (m.createModel (Catalog.session d database).recorded a) P) := by
  cases hplan : a.plan m.dialect m.config with
  | error e =>
    rw [after, createModel_unplanned hplan]
    exact h
  | ok plan =>
    obtain ⟨hsends, hqueue⟩ := createModel_sends d database (P := P) hreal hplan
    have hleads : b.LeadsTo reg a.table := by
      rcases ReflTransGen.cases_tail hba with rfl | ⟨j, hbj, hja⟩
      · exact Or.inl rfl
      · exact Model.LeadsTo.of_joins hbj hja
    refine ⟨h.origins.sends (Model.plan_ok hplan).1 hsends fun _ _ _ => ⟨hnew, b, hb, hleads⟩,
      fun s flag hs => ?_⟩
    rcases hqueue with hqueue | ⟨-, hqueue⟩
    · exact h.waiting s flag (hqueue ▸ hs)
    · rw [hqueue, TaskQueue.tasks_pushAll, List.mem_append] at hs
      rcases hs with hs | hs
      · exact h.waiting s flag hs
      · obtain ⟨rfl, hsa⟩ := Model.joinTable_mem_laterTasks.mp hs
        exact ⟨rfl, fun j hj => ⟨b, hb, TransGen.tail' hba ⟨s, hsa, hj⟩⟩⟩

/-- The first task that waits leaves the tables with their origins, whether it fails or not. -/
theorem Follows.attempt {t : Task} {rest : TaskQueue} (h : Follows reg c done P)
    (hp : P.queue.tasks = t :: rest.tasks) :
    Follows reg c done
      (m.attempt reg (Catalog.session d database).recorded t { P with queue := rest }) := by
  have htaken : Follows reg c done { P with queue := rest } :=
    ⟨h.origins, fun s flag hs => h.waiting s flag (hp ▸ List.mem_cons_of_mem t hs)⟩
  obtain ⟨hsession, hqueue⟩ := attempt_leaves m reg (Catalog.session d database).recorded t
    { P with queue := rest }
  suffices hwork : Follows reg c done
      (after (m.runTask reg (Catalog.session d database).recorded t) { P with queue := rest }) by
    exact ⟨hsession ▸ hwork.origins, hqueue ▸ hwork.waiting⟩
  cases t with
  | createIndex table i =>
    obtain ⟨hsends, hsame⟩ := carryOut_sends d database (P := { P with queue := rest }) hreal
      (.createIndex table i)
    refine ⟨htaken.origins.sends rfl hsends fun _ _ heq => ?_, fun s flag hs => ?_⟩
    · cases heq
    · exact htaken.waiting s flag (hsame ▸ hs)
  | joinTable source flag =>
    obtain ⟨rfl, hdescribed⟩ := h.waiting source flag (hp ▸ List.mem_cons_self)
    cases hj : reg.describe source with
    | error e =>
      rw [after, runTask, hj]
      exact htaken
    | ok j =>
      obtain ⟨b, hb, hbj⟩ := hdescribed j hj
      have hasked : Follows reg c done (asking database j.table .table { P with queue := rest }) :=
        ⟨htaken.origins.asked database j.table .table, htaken.waiting⟩
      rw [after, runTask_join_recorded hj]
      by_cases hthere : P.session.1.hasTable j.table = true
      · rw [if_pos hthere]
        exact hasked
      · rw [if_neg hthere]
        exact hasked.create hreal d database hb hbj.to_reflTransGen fun hcreated =>
          hthere (hasked.origins.hasTable hcreated)

/-! ## The run -/

/-- A model that had its turn, with the deferred work behind it, is one of those that tables have
their origin in. -/
theorem Follows.turn {a : Model} {n : Nat} {R : Progress (Catalog × List Exchange)}
    (h : Follows reg c done P) (hnil : P.queue.tasks = [])
    (hstep : m.createModel (Catalog.session d database).recorded a P = .ok () Q)
    (hdrain : m.drain reg (Catalog.session d database).recorded n Q = some R) :
    Follows reg c (a :: done) R := by
  have hfollows : Follows reg c (a :: done) P := by
    refine ⟨h.origins.mono (List.subset_cons_self a done), fun s flag hs => ?_⟩
    exact absurd (hnil ▸ hs) List.not_mem_nil
  have hnew : ¬ CreatedIn P.session.2 a.table := by
    intro hthere
    obtain ⟨plan, _, hu, -⟩ := bind_ok.mp hstep
    have hplan := (Action.ofExcept_ok.mp hu).1
    have hsent := createModel_recorded d database (P := P) hreal hplan
    rw [hstep] at hsent
    cases happly : P.session.1.apply plan.change with
    | error refusal =>
      rw [happly] at hsent
      cases hsent
    | ok c' =>
      have hmiss := Catalog.apply_new happly (p := .table)
        ⟨_, (Model.plan_ok hplan).1, by simp [Model.createdParts]⟩
      rw [Catalog.has_table, h.origins.hasTable hthere] at hmiss
      cases hmiss
  have hnext := hfollows.create hreal d database List.mem_cons_self ReflTransGen.refl hnew
  rw [after, hstep] at hnext
  exact drain_keeps (fun _ _ _ hp hI => hI.attempt hreal hp) n hdrain hnext

/-- A model that fails after a second `CREATE TABLE` was sent has sent it, for its table. -/
theorem Follows.refused {a : Model} {e : MigrationError} (h : Follows reg c done P)
    (hstep : m.createModel (Catalog.session d database).recorded a P = .error e Q) {t : String}
    {clauses : List Clause} {options : Option String} {before after : List Exchange}
    {succeeded : Bool}
    (hcut : Q.session.2 =
      before ++ ⟨.execute (.createTable t clauses options), succeeded⟩ :: after)
    (hcreated : CreatedIn before t) :
    (succeeded = false ∧ after = [] ∧ e = .exec ((Change.createTable t clauses options).sql d)
      ("Table '" ++ t ++ "' already exists")) ∧ a.table = t ∧ ∃ b ∈ done, b.LeadsTo reg t := by
  cases hplan : a.plan m.dialect m.config with
  | error e' =>
    rw [createModel_unplanned hplan] at hstep
    cases hstep
    exact absurd hcreated (h.origins.once _ _ _ _ _ _ hcut)
  | ok plan =>
    rw [createModel_recorded d database hreal hplan] at hstep
    cases happly : P.session.1.apply plan.change with
    | ok c' =>
      rw [happly] at hstep
      cases hstep
    | error refusal =>
      rw [happly] at hstep
      cases hstep
      rcases cut_concat hcut with ⟨rfl, heq, rfl⟩ | ⟨rest, -, hcut'⟩
      · obtain ⟨hsent, rfl⟩ := Exchange.mk.inj heq
        have hchange := Call.execute.inj hsent
        have htable : a.table = t := by
          have hadds := (Model.plan_ok hplan).1
          rw [← hchange] at hadds
          exact (congrArg Prod.fst (Option.some.inj hadds)).symm
        rw [← hchange, Catalog.apply_existing (h.origins.hasTable hcreated)] at happly
        cases happly
        rw [← hchange]
        exact ⟨⟨rfl, rfl, rfl⟩, htable, h.origins.origin t hcreated⟩
      · exact absurd hcreated (h.origins.once _ _ _ _ _ _ hcut')

/-- A second `CREATE TABLE` for a table is the last call of the run, and is that of a model which an
earlier one leads to. -/
theorem forEachModel_once {n : Nat} {t : String} {clauses : List Clause} {options : Option String}
    {before after : List Exchange} {succeeded : Bool} :
    ∀ {models : List ResolvedModel} {done : List Model} {P : Progress (Catalog × List Exchange)}
      {r : Outcome (Progress (Catalog × List Exchange)) Unit},
      Follows reg c done P → P.queue.tasks = [] →
      m.forEachModel reg (Catalog.session d database).recorded n
        (m.createStep (Catalog.session d database).recorded) models P = some r →
      (Outcome.state r).session.2 =
        before ++ ⟨.execute (.createTable t clauses options), succeeded⟩ :: after →
      CreatedIn before t →
      (succeeded = false ∧ after = [] ∧
        r = .error (.exec ((Change.createTable t clauses options).sql d)
          ("Table '" ++ t ++ "' already exists")) (Outcome.state r)) ∧
      ∃ xs a ys b, models = xs ++ .model a :: ys ∧ a.table = t ∧ (b ∈ done ∨ .model b ∈ xs) ∧
        b.LeadsTo reg t := by
  intro models
  induction models with
  | nil =>
    intro done P r h _ hr hcut hcreated
    cases hr
    exact absurd hcreated (h.origins.once _ _ _ _ _ _ hcut)
  | cons model models ih =>
    intro done P r h hnil hr hcut hcreated
    rw [forEachModel] at hr
    cases hstep : m.createStep (Catalog.session d database).recorded model P with
    | error e Q =>
      rw [hstep] at hr
      cases hr
      cases model with
      | table name =>
        cases hstep
        exact absurd hcreated (h.origins.once _ _ _ _ _ _ hcut)
      | model a =>
        obtain ⟨⟨hsucceeded, hafter, rfl⟩, htable, b, hb, hbt⟩ :=
          h.refused hreal hstep hcut hcreated
        exact ⟨⟨hsucceeded, hafter, rfl⟩, [], a, models, b, rfl, htable, Or.inl hb, hbt⟩
    | ok _ Q =>
      obtain ⟨a, rfl, hcreate⟩ := createStep_ok hstep
      rw [hstep] at hr
      dsimp only at hr
      split at hr
      · cases hr
      · next R hR =>
        -- The second statement comes later, for a model behind this one.
        obtain ⟨hend, xs, a', ys, b, rfl, ha', hb, hbt⟩ :=
          ih (h.turn hreal hnil hcreate hR) (drain_empty n hR) hr hcut hcreated
        refine ⟨hend, .model a :: xs, a', ys, b, rfl, ha', ?_, hbt⟩
        rcases hb with hb | hb
        · rcases List.mem_cons.mp hb with rfl | hb
          · exact Or.inr List.mem_cons_self
          · exact Or.inl hb
        · exact Or.inr (List.mem_cons_of_mem _ hb)

/-! ## Lists that cannot be created -/

/-- A run that creates tables has created those of the models. -/
theorem forEachModel_created {n : Nat} {models : List ResolvedModel} {p q : Progress Catalog}
    (h : m.forEachModel reg (Catalog.session d database) n
      (m.createStep (Catalog.session d database)) models p = some (.ok () q)) :
    ∀ model ∈ models, q.session.hasTable model.tableName = true := by
  have hR := advances_respects m d database
  refine hR.run_establishes advances_take hR.createStep
    (Q := fun model (r : Progress Catalog) => r.session.hasTable model.tableName = true)
    (fun _ _ _ hmove => hmove.grows.hasTable) (fun model _ u v w hstep hdrain => ?_) h
  obtain ⟨a, rfl, hcreate⟩ := createStep_ok hstep
  refine (hR.drain advances_take reg n hdrain).grows.hasTable ?_
  exact (createModel_hasTable hreal hcreate a.table).mpr (Or.inr rfl)

/-- A join table that waits, with all that it refers to, is there when the deferred work is done. -/
theorem drain_creates {n : Nat} {source : Source} {flag : Bool} {j : Model} {plan : TablePlan}
    {p q : Progress Catalog} (hj : reg.describe source = .ok j)
    (hplan : j.plan m.dialect m.config = .ok plan)
    (hwaits : .joinTable source flag ∈ p.queue.tasks) (hgrounded : j.Grounded p.session)
    (h : m.drain reg (Catalog.session d database) n p = some q) :
    q.session.hasTable j.table = true := by
  have hR := advances_respects m d database
  have hend := drain_keeps (m := m)
    (I := fun p : Progress Catalog => p.session.hasTable j.table = true ∨
      .joinTable source flag ∈ p.queue.tasks ∧ j.Grounded p.session)
    (fun t p rest hp hI => ?_) n h (Or.inr ⟨hwaits, hgrounded⟩)
  · refine hend.resolve_right fun hw => ?_
    rw [drain_empty n h] at hw
    exact absurd hw.1 List.not_mem_nil
  · have hmove := hR.attempt reg t { p with queue := rest }
    rcases hI with hthere | ⟨hmem, hground⟩
    · exact Or.inl (hmove.grows.hasTable hthere)
    · rw [hp] at hmem
      rcases List.mem_cons.mp hmem with rfl | hmem
      · -- Its turn: it is there, or it is created.
        refine Or.inl ?_
        by_cases hthere : p.session.hasTable j.table = true
        · exact hmove.grows.hasTable hthere
        · have hmiss : p.session.hasTable j.table = false := Bool.eq_false_iff.mpr hthere
          obtain ⟨u, hu⟩ := (createModel_accepts (p := { p with queue := rest }) d database hreal
            hplan).mpr ((Catalog.accepts_plan hplan).mpr ⟨hmiss, hground⟩)
          rw [attempt, runTask_join hj, if_neg hthere, hu]
          exact (createModel_hasTable hreal hu j.table).mpr (Or.inr rfl)
      · refine Or.inr ⟨?_, hground.grows hmove.grows⟩
        exact ((queue_respects m (Catalog.session d database)).attempt reg t
          { p with queue := rest }).subset hmem

/-- No run succeeds over a list with a model whose table is the join table of a model before it, if
what the join table refers to is there by then. -/
theorem forEachModel_listedJoin {xs vs ys : List ResolvedModel} {a b j : Model} {plan : TablePlan}
    (hbj : Joins reg b j) (hja : j.table = a.table) (hplan : j.plan m.dialect m.config = .ok plan)
    (hrefers : ∀ k ∈ j.foreignKeys, k.referencedTable = j.table ∨
      c.hasTable k.referencedTable = true ∨ k.referencedTable = b.table ∨
        ∃ x ∈ xs, x.tableName = k.referencedTable) (n : Nat) (q : Progress Catalog) :
    m.forEachModel reg (Catalog.session d database) n (m.createStep (Catalog.session d database))
      (xs ++ .model b :: vs ++ .model a :: ys) (m.start c) ≠ some (.ok () q) := by
  intro hall
  have hR := advances_respects m d database
  obtain ⟨p₃, hfirst, hsecond⟩ := forEachModel_append hall
  obtain ⟨p₁, hbefore, hbehind⟩ := forEachModel_append hfirst
  obtain ⟨p₂, p₂', hstep, hdrain, hrest⟩ := forEachModel_cons hbehind
  have hcreate : m.createModel (Catalog.session d database) b p₁ = .ok () p₂ := hstep
  have hmove₁ : Advances (m.start c) p₁ := hR.run_moves advances_take hR.createStep hbefore
  have hmove₂ : Advances p₁ p₂ := (hR.createModel b).of_ok hcreate
  have hmove₃ : Advances p₂' p₃ := hR.run_moves advances_take hR.createStep hrest
  have hgrounded : j.Grounded p₂.session := by
    intro k hk
    rcases hrefers k hk with hself | hc | hb | ⟨x, hx, hxk⟩
    · exact Or.inl hself.symm
    · exact Or.inr (hmove₂.grows.hasTable (hmove₁.grows.hasTable hc))
    · exact Or.inr ((createModel_hasTable hreal hcreate _).mpr (Or.inr hb))
    · exact Or.inr (hmove₂.grows.hasTable (hxk ▸ forEachModel_created hreal hbefore x hx))
  obtain ⟨source, hsource, hj⟩ := hbj
  have hwaits : .joinTable source false ∈ p₂.queue.tasks := by
    rw [(createModel_ok hreal hcreate).2]
    exact List.mem_append_right _ (Model.joinTable_mem_laterTasks.mpr ⟨rfl, hsource⟩)
  have hthere : p₂'.session.hasTable j.table = true :=
    drain_creates hreal hj hplan hwaits hgrounded hdrain
  -- So the table is there when the turn of the listed model comes.
  obtain ⟨p₄, _, hlast, -, -⟩ := forEachModel_cons hsecond
  have hcreate' : m.createModel (Catalog.session d database) a p₃ = .ok () p₄ := hlast
  obtain ⟨plan', _, hu, -⟩ := bind_ok.mp hcreate'
  have hplan' := (Action.ofExcept_ok.mp hu).1
  have hmiss := ((Catalog.accepts_plan hplan').mp
    ((createModel_accepts d database hreal hplan').mp ⟨p₄, hcreate'⟩)).1
  rw [← hja, hmove₃.grows.hasTable hthere] at hmiss
  cases hmiss

end

/-! ## The theorem -/

/-- **Tables that are created twice.**  When `createTables` sends a `CREATE TABLE` for a table that
it has created already, this is refused because the table exists, and the run ends with this
failure.  The table is that of a listed model, and a model before it leads to a join table of this
name.  So it never happens where no listed table is the join table of a model before it.

Conversely, if a listed table is the join table of a model before it, and all that the join table
refers to is there at the start, is its own or that of this model, or stands before this model, then
no run succeeds. -/
theorem createTables_once (m : Migrator) (reg : Registry) (d : Dialect) (database : String)
    (refs : List ModelRef) (out : List ResolvedModel) (c : Catalog) (hreal : m.config.dryRun = false)
    (ho : order reg false refs = .ok out) :
    (∀ n r, m.createTables reg (Catalog.session d database).recorded n refs (c, []) = some r →
      ∀ before t clauses options succeeded after, (Outcome.state r).2 =
          before ++ ⟨.execute (.createTable t clauses options), succeeded⟩ :: after →
        CreatedIn before t →
        (succeeded = false ∧ after = [] ∧
          r = .error (.exec ((Change.createTable t clauses options).sql d)
            ("Table '" ++ t ++ "' already exists")) (Outcome.state r)) ∧
        ∃ a b j, .model a ∈ out ∧ a.table = t ∧ Precedes out b a ∧ TransGen (Joins reg) b j ∧
          j.table = t) ∧
    ∀ a b j plan, .model a ∈ out → Precedes out b a → Joins reg b j → j.table = a.table →
      j.plan m.dialect m.config = .ok plan →
      (∀ k ∈ j.foreignKeys, k.referencedTable = j.table ∨ c.hasTable k.referencedTable = true ∨
        k.referencedTable = b.table ∨ ∃ x, Precedes out x b ∧ x.table = k.referencedTable) →
      ∀ n report c', m.createTables reg (Catalog.session d database) n refs c ≠
        some (.ok report c') := by
  have hapart := orderedApart_of_order ho
  constructor
  · intro n r hr before t clauses options succeeded after hcut hcreated
    unfold createTables migrate at hr
    rw [ho] at hr
    obtain ⟨q, hq, rfl⟩ := Option.map_eq_some_iff.mp hr
    have hstate : Outcome.state (conclude q) = (Outcome.state q).session := by cases q <;> rfl
    have hstart : Follows reg c [] (m.start (c, [])) := by
      refine ⟨⟨Genuine.start c, fun _ hc => absurd hc List.not_mem_nil, fun t ht => ?_,
        fun before _ _ _ _ _ hcut => absurd hcut.symm (by simp [start])⟩,
        fun _ _ hs => absurd hs List.not_mem_nil⟩
      obtain ⟨_, _, hmem⟩ := ht
      exact absurd hmem List.not_mem_nil
    rw [hstate] at hcut ⊢
    obtain ⟨⟨hsucceeded, hafter, hend⟩, xs, a, ys, b, rfl, ha, hb, hleads⟩ :=
      forEachModel_once hreal hstart rfl hq hcut hcreated
    refine ⟨⟨hsucceeded, hafter, by rw [hend]; rfl⟩, a, b, ?_⟩
    have hb : .model b ∈ xs := hb.resolve_left List.not_mem_nil
    -- The model before has another table, so that it leads to this one.
    rcases hleads with hbt | ⟨j, hbj, hjt⟩
    · obtain ⟨a', heq, hne⟩ :=
        (List.pairwise_append.mp hapart).2.2 _ hb _ List.mem_cons_self b rfl
      cases heq
      exact absurd (ha.trans hbt.symm) hne
    · exact ⟨j, by simp, ha, hapart.precedes hb, hbj, hjt⟩
  · intro a b j plan ha hba hbj hja hplan hrefers n report c' hrun
    obtain ⟨out', q, ho', hall, -, -⟩ := createTables_ok.mp hrun
    cases ho.symm.trans ho'
    obtain ⟨us, ys, rfl⟩ := List.append_of_mem ha
    obtain ⟨xs, vs, rfl⟩ := List.append_of_mem (hba us ys rfl)
    refine forEachModel_listedJoin hreal hbj hja hplan (fun k hk => ?_) n q hall
    refine (hrefers k hk).imp_right (Or.imp_right (Or.imp_right ?_))
    rintro ⟨x, hx, hxk⟩
    exact ⟨.model x, hx xs (vs ++ .model a :: ys) (by simp), hxk⟩

/-! ## Speakers with their join table listed -/

theorem order_spoken : order spokenRegistry false
    [.model languages, .model speakers, .model spoken] =
      .ok [.model languages, .model speakers, .model spoken] := by with_unfolding_all rfl

/-- Where the join table is not listed, each of the three tables is created once.  Where it is, no
run succeeds. -/
theorem createTables_once_speakers :
    (∃ report y, plainMigrator.createTables spokenRegistry
        (Catalog.session Mysql.dialect "app").recorded 1 [.model languages, .model speakers]
        ({}, []) = some (.ok report y) ∧ (changesOf y.2).length = 3 ∧
      ∀ before t clauses options succeeded after,
        y.2 = before ++ ⟨.execute (.createTable t clauses options), succeeded⟩ :: after →
          ¬ CreatedIn before t) ∧
    ∀ n report c', plainMigrator.createTables spokenRegistry (Catalog.session Mysql.dialect "app") n
      [.model languages, .model speakers, .model spoken] {} ≠ some (.ok report c') := by
  constructor
  · have hrun : (arrival (plainMigrator.createTables spokenRegistry
        (Catalog.session Mysql.dialect "app").recorded 1 [.model languages, .model speakers]
        ({}, []))).map (fun r => (changesOf r.2.2).length) = some 3 := by decide +kernel
    obtain ⟨⟨report, y⟩, hy, hlength⟩ := Option.map_eq_some_iff.mp hrun
    refine ⟨report, y, arrival_eq_some.mp hy, hlength,
      fun before t clauses options succeeded after hcut hcreated => ?_⟩
    obtain ⟨⟨-, -, hend⟩, -⟩ := (createTables_once plainMigrator spokenRegistry Mysql.dialect "app"
      [.model languages, .model speakers] _ {} rfl order_created).1 1 _ (arrival_eq_some.mp hy)
      before t clauses options succeeded after hcut hcreated
    cases hend
  · have hspoken : Joins spokenRegistry speakers spoken := ⟨_, List.mem_singleton_self _, rfl⟩
    obtain ⟨plan, hplan⟩ : ∃ plan, spoken.plan Mysql.dialect {} = .ok plan :=
      ⟨_, by with_unfolding_all rfl⟩
    have hapart := orderedApart_of_order order_spoken
    refine (createTables_once plainMigrator spokenRegistry Mysql.dialect "app"
      [.model languages, .model speakers, .model spoken] _ {} rfl order_spoken).2 spoken speakers
      spoken plan (by simp) ?_ hspoken rfl hplan fun k hk => ?_
    · have hlast : OrderedApart ([.model languages, .model speakers] ++ .model spoken :: []) :=
        hapart
      exact hlast.precedes (by simp)
    · -- The join table refers to the speakers and to the languages before them.
      have hkeys : ∀ k ∈ spoken.foreignKeys, k.referencedTable = speakers.table ∨
          k.referencedTable = languages.table := by decide
      rcases hkeys k hk with hkey | hkey
      · exact Or.inr (Or.inr (Or.inl hkey))
      · refine Or.inr (Or.inr (Or.inr ⟨languages, ?_, hkey.symm⟩))
        have hsecond : OrderedApart ([.model languages] ++ .model speakers :: [.model spoken]) :=
          hapart
        exact hsecond.precedes (by simp)

/-- How a run failed, and where it left the session. -/
def setback {σ : Type} : Option (Outcome σ Report) → Option (MigrationError × σ)
  | some (.error e state) => some (e, state)
  | _ => none

/-- On an empty database the join table is created behind the speakers, and then once more as a
listed model: the same statement is sent again, and refused. -/
theorem createTables_again_spoken :
    languages.IsBuilt ∧ speakers.IsBuilt ∧ spoken.IsBuilt ∧
      (setback (plainMigrator.createTables spokenRegistry
          (Catalog.session Mysql.dialect "app").recorded 1
          [.model languages, .model speakers, .model spoken] ({}, []))).map
        (fun r => (r.1, (acceptedOf r.2.2).map (·.sql Mysql.dialect),
          (changesOf r.2.2).map (·.sql Mysql.dialect))) =
      some (.exec (speakersReport.executed.getLast (by decide))
          "Table 'speaker_languages' already exists",
        speakersReport.executed, speakersReport.executed ++ speakersReport.executed.drop 2) := by
  refine ⟨⟨languages, ?_⟩, ⟨speakers, ?_⟩, ⟨spoken, ?_⟩, by decide +kernel⟩
  all_goals with_unfolding_all rfl

end Migrator

end SchemaMigration
