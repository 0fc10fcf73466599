import SchemaMigration.Proofs.Migration.Idempotence
import SchemaMigration.Proofs.Migration.Tasks

/-!
# Join tables and the order of the list

`createTables` does the deferred work of a model right after its table is created.  So a join table
is looked at when the models before and the model itself are there, and the models behind are not:
it is created if it is supported by then, `Supported`, and else it is given up with a failure in the
report, even if its tables come later in the same run.

`createTables_joinTables` says this of every order of a list.  The run succeeds always, and creates
all listed tables.  A join table is created if the model that it belongs to supports it.  If all
join tables are supported there are no failures; where each join table has one description, this is
also necessary.  A join table that refers only to the model that it belongs to, and to what that
model depends on, is supported in every order.

The invariant of a run is `Standing`: which tables are there, given the models whose turn has come.
-/

namespace SchemaMigration

open Relation (ReflTransGen TransGen)

/-- What join model `j` refers to is the table of model `a` or stands before it. -/
def Supported (out : List ResolvedModel) (a j : Model) : Prop :=
  ∀ k ∈ j.foreignKeys, k.referencedTable = a.table ∨
    ∃ b, Precedes out b a ∧ b.table = k.referencedTable

/-- The models can be created on the catalog with all the join tables that they lead to: columns
have types, foreign keys refer to listed tables, and none of the tables is there.  Join models are
described and accepted, and not listed themselves. -/
structure JoinsFit (reg : Registry) (d : Dialect) (c : Catalog) (models : List Model) : Prop where
  typed : ∀ a ∈ models, ∀ x ∈ a.columns, Text.isBlank (d.typeText x) = false
  refers : ∀ a ∈ models, ∀ k ∈ a.foreignKeys, k.referencedTable ∈ models.map (·.table)
  fresh : ∀ a ∈ models, c.hasTable a.table = false
  described : ∀ a, a ∈ models ∨ Joined reg (models.map .model) a →
    ∀ s ∈ a.joinTables, ∃ j, reg.describe s = .ok j
  joinBuilt : ∀ j, Joined reg (models.map .model) j → j.IsBuilt
  joinTyped : ∀ j, Joined reg (models.map .model) j →
    ∀ x ∈ j.columns, Text.isBlank (d.typeText x) = false
  joinUnlisted : ∀ j, Joined reg (models.map .model) j → j.table ∉ models.map (·.table)
  joinRefers : ∀ j, Joined reg (models.map .model) j →
    ∀ k ∈ j.foreignKeys, k.referencedTable ∈ models.map (·.table)
  joinFresh : ∀ j, Joined reg (models.map .model) j → c.hasTable j.table = false

/-- Each join table is described by one model. -/
def JoinedOnce (reg : Registry) (models : List Model) : Prop :=
  ∀ j k, Joined reg (models.map .model) j → Joined reg (models.map .model) k →
    j.table = k.table → j = k

section

variable {reg : Registry} {d : Dialect} {c : Catalog} {models : List Model}

theorem joined_iff {j : Model} :
    Joined reg (models.map .model) j ↔ ∃ a ∈ models, TransGen (Joins reg) a j := by
  simp [Joined]

/-- Where each join table has one description, no listed or joined model has the table of another
joined one. -/
theorem JoinedOnce.eq (h : JoinedOnce reg models) (hfit : JoinsFit reg d c models) {j : Model}
    (hj : Joined reg (models.map .model) j) {a : Model}
    (ha : .model a ∈ models.map ResolvedModel.model ∨ Joined reg (models.map .model) a)
    (htable : a.table = j.table) : a = j := by
  rcases ha with ha | ha
  · have hin : a ∈ models := by simpa using ha
    exact absurd (List.mem_map.mpr ⟨a, hin, htable⟩) (hfit.joinUnlisted j hj)
  · exact h a j ha hj htable

/-! ## The order of the list -/

theorem joined_perm {placed : List Model} (h : placed.Perm models) {j : Model} :
    Joined reg (placed.map .model) j ↔ Joined reg (models.map .model) j := by
  simp only [joined_iff, h.mem_iff]

/-- What fits in one order fits in every other. -/
theorem JoinsFit.perm {placed : List Model} (h : JoinsFit reg d c models)
    (hperm : placed.Perm models) : JoinsFit reg d c placed := by
  have hjoined : ∀ j, Joined reg (placed.map .model) j → Joined reg (models.map .model) j :=
    fun _ => (joined_perm hperm).mp
  have htable : ∀ t, t ∈ placed.map (·.table) ↔ t ∈ models.map (·.table) := fun t =>
    (hperm.map _).mem_iff
  refine ⟨fun a ha => h.typed a (hperm.subset ha), fun a ha k hk => ?_,
    fun a ha => h.fresh a (hperm.subset ha), fun a ha => ?_,
    fun j hj => h.joinBuilt j (hjoined j hj), fun j hj => h.joinTyped j (hjoined j hj),
    fun j hj => ?_, fun j hj k hk => ?_, fun j hj => h.joinFresh j (hjoined j hj)⟩
  · exact (htable _).mpr (h.refers a (hperm.subset ha) k hk)
  · exact h.described a (ha.imp (fun hm => hperm.subset hm) (hjoined a))
  · exact fun hin => h.joinUnlisted j (hjoined j hj) ((htable _).mp hin)
  · exact (htable _).mpr (h.joinRefers j (hjoined j hj) k hk)

/-- The models before another one, where the list is cut at it. -/
theorem precedes_map_iff {before after : List Model} {a b : Model}
    (honce : (before ++ a :: after).Nodup) :
    Precedes ((before ++ a :: after).map .model) b a ↔ b ∈ before := by
  constructor
  · intro h
    have hin := h (before.map .model) (after.map .model) (by simp)
    simpa using hin
  · intro hb xs ys hs
    rw [List.nodup_append, List.nodup_cons] at honce
    obtain ⟨-, ⟨hafter, -⟩, hbefore⟩ := honce
    have hab : ResolvedModel.model a ∉ before.map .model := by
      simpa using fun ha => hbefore a ha a (by simp) rfl
    have haa : ResolvedModel.model a ∉ after.map .model := by simpa using hafter
    rw [List.map_append, List.map_cons] at hs
    rw [← ((List.append_cons_inj_of_notMem hab haa).mp hs).1]
    exact List.mem_map_of_mem hb

/-- What a join model refers to is among these models. -/
def SupportedBy (seen : List Model) (j : Model) : Prop :=
  ∀ k ∈ j.foreignKeys, k.referencedTable ∈ seen.map (·.table)

/-- More models support what fewer do. -/
theorem SupportedBy.mono {seen seen' : List Model} {j : Model} (h : SupportedBy seen j)
    (hsub : seen ⊆ seen') : SupportedBy seen' j :=
  fun k hk => List.map_subset _ hsub (h k hk)

theorem supported_iff {before after : List Model} {a j : Model}
    (honce : (before ++ a :: after).Nodup) :
    Supported ((before ++ a :: after).map .model) a j ↔ SupportedBy (before ++ [a]) j := by
  refine forall₂_congr fun k _ => ?_
  simp only [precedes_map_iff honce]
  rw [List.map_append, List.mem_append, List.mem_map, List.map_singleton, List.mem_singleton,
    or_comm]

/-- What a model refers to is itself or stands before it. -/
theorem mem_before_of_back {before after : List Model} {a : Model}
    (hback : ReferencesBack (before ++ a :: after)) {k : ForeignKey} (hk : k ∈ a.foreignKeys)
    (hin : k.referencedTable ∈ (before ++ a :: after).map (·.table)) :
    a.table = k.referencedTable ∨ k.referencedTable ∈ before.map (·.table) := by
  obtain ⟨-, hlater, -⟩ := List.pairwise_append.mp hback
  obtain ⟨b, hb, hbk⟩ := List.mem_map.mp hin
  rcases List.mem_append.mp hb with hb | hb
  · exact Or.inr (hbk ▸ List.mem_map_of_mem hb)
  · rcases List.mem_cons.mp hb with rfl | hb
    · exact Or.inl hbk
    · exact absurd hbk.symm ((List.pairwise_cons.mp hlater).1 b hb k hk)

/-- What a model depends on stands before it. -/
theorem mem_before_of_dependsOn (hacyclic : ∀ t, ¬ TransGen (DependsOn (models.map .model)) t t)
    (hback : ReferencesBack models) (honce : (models.map (·.table)).Nodup) {t u : String}
    (h : TransGen (DependsOn (models.map .model)) t u) :
    ∀ before a after, models = before ++ a :: after → a.table = t →
      u ∈ before.map (·.table) := by
  have hstep : ∀ {t u : String}, DependsOn (models.map .model) t u → ∀ before a after,
      models = before ++ a :: after → a.table = t → u ∈ before.map (·.table) := by
    intro t u hd before a after hcut hat
    obtain ⟨⟨a', ha', hat', k, hk, hku⟩, b, hb, hbu⟩ := hd
    have ha : a' = a := eq_of_table_eq honce (by simpa using ha') (by simp [hcut])
      (hat'.trans hat.symm)
    subst ha
    have hin : k.referencedTable ∈ (before ++ a' :: after).map (·.table) := by
      rw [← hcut, hku, ← hbu]
      exact List.mem_map_of_mem (by simpa using hb)
    rcases mem_before_of_back (hcut ▸ hback) (List.mem_filter.mp hk).1 hin with hself | hbefore
    · refine absurd (TransGen.single ?_) (hacyclic t)
      exact ⟨⟨a', ha', hat', k, hk, hself.symm.trans hat'⟩, a', ha', hat'⟩
    · exact hku ▸ hbefore
  induction h using TransGen.head_induction_on with
  | single hd => exact hstep hd
  | head hd _ ih =>
    intro before a after hcut hat
    obtain ⟨b, hb, hbv⟩ := List.mem_map.mp (hstep hd before a after hcut hat)
    obtain ⟨xs, ys, rfl⟩ := List.append_of_mem hb
    have hu := ih xs b (ys ++ a :: after) (by simp [hcut]) hbv
    rw [List.map_append, List.mem_append]
    exact Or.inl hu

end

namespace Migrator

open SchemaMigration.Action (bind_ok)

variable {m : Migrator} {reg : Registry} {d : Dialect} {database : String}
variable {c now : Catalog} {placed seen : List Model} {p q : Progress Catalog}

/-! ## The tables in the course of a run -/

/-- The tables once the models `seen` have had their turn: theirs, those from the start, and join
tables that these models support. -/
structure Standing (reg : Registry) (c : Catalog) (placed seen : List Model) (now : Catalog) :
    Prop where
  listed : ∀ b ∈ seen, now.hasTable b.table = true
  only : ∀ t, now.hasTable t = true → c.hasTable t = true ∨ t ∈ seen.map (·.table) ∨
    ∃ j, Joined reg (placed.map .model) j ∧ j.table = t ∧ SupportedBy seen j

/-- The same in the course of the deferred work of model `a`: the tasks that wait are for indexes
that are ready, and for join tables that the model leads to. -/
structure Going (reg : Registry) (c : Catalog) (placed seen : List Model) (a : Model)
    (p : Progress Catalog) : Prop where
  standing : Standing reg c placed seen p.session
  ready : IndexesReady p.session p.queue.tasks
  waiting : ∀ s flag, .joinTable s flag ∈ p.queue.tasks →
    flag = false ∧ ∃ j, reg.describe s = .ok j ∧ TransGen (Joins reg) a j

/-- Of the listed tables those are there whose models had their turn. -/
theorem Standing.hasTable_listed (h : Standing reg c placed seen now)
    (hfit : JoinsFit reg m.dialect c placed) {t : String} (ht : t ∈ placed.map (·.table)) :
    now.hasTable t = true ↔ t ∈ seen.map (·.table) := by
  constructor
  · intro hnow
    rcases h.only t hnow with hc | hseen | ⟨j, hj, rfl, -⟩
    · obtain ⟨a, ha, rfl⟩ := List.mem_map.mp ht
      rw [hfit.fresh a ha] at hc
      cases hc
    · exact hseen
    · exact absurd ht (hfit.joinUnlisted j hj)
  · intro hseen
    obtain ⟨b, hb, rfl⟩ := List.mem_map.mp hseen
    exact h.listed b hb

/-- A table is created without a failure. -/
theorem createModel_failures {a : Model}
    (h : m.createModel (Catalog.session d database) a p = .ok () q) :
    q.report.failures = p.report.failures := by
  obtain ⟨plan, u, hu, h⟩ := bind_ok.mp h
  obtain ⟨-, rfl⟩ := Action.ofExcept_ok.mp hu
  obtain ⟨_, v, hv, h⟩ := bind_ok.mp h
  cases h
  exact (carryOut_ok hv).2.2.1

section

variable (hreal : m.config.dryRun = false)

include hreal

/-- The tables once a join table is created that the models support. -/
theorem Standing.createJoin {j : Model} (h : Standing reg c placed seen p.session)
    (hj : Joined reg (placed.map .model) j) (hsupported : SupportedBy seen j)
    (hcreate : m.createModel (Catalog.session d database) j p = .ok () q) :
    Standing reg c placed seen q.session := by
  have htables := createModel_hasTable hreal hcreate
  refine ⟨fun b hb => (htables _).mpr (Or.inl (h.listed b hb)), fun t ht => ?_⟩
  rcases (htables t).mp ht with ht | rfl
  · exact h.only t ht
  · exact Or.inr (Or.inr ⟨j, hj, rfl, hsupported⟩)

/-- The tables once the table of the next model is created. -/
theorem Standing.createListed {a : Model} (h : Standing reg c placed seen p.session)
    (hcreate : m.createModel (Catalog.session d database) a p = .ok () q) :
    Standing reg c placed (seen ++ [a]) q.session := by
  have htables := createModel_hasTable hreal hcreate
  have hsub : seen ⊆ seen ++ [a] := List.subset_append_left seen [a]
  refine ⟨fun b hb => (htables _).mpr ?_, fun t ht => ?_⟩
  · rcases List.mem_append.mp hb with hb | hb
    · exact Or.inl (h.listed b hb)
    · exact Or.inr (congrArg Model.table (List.mem_singleton.mp hb))
  · rcases (htables t).mp ht with ht | rfl
    · exact (h.only t ht).imp_right <| Or.imp (fun hin => List.map_subset _ hsub hin)
        fun ⟨j, hj, hjt, hs⟩ => ⟨j, hj, hjt, hs.mono hsub⟩
    · exact Or.inr (Or.inl (List.mem_map_of_mem (by simp)))

variable (hfit : JoinsFit reg m.dialect c placed)

include hfit

/-- The table of a join model that is not there is created exactly if it is supported by the models
that had their turn. -/
theorem Standing.creates_iff (d : Dialect) (database : String)
    (h : Standing reg c placed seen p.session) {j : Model}
    (hj : Joined reg (placed.map .model) j) (hmiss : p.session.hasTable j.table = false) :
    (∃ q, m.createModel (Catalog.session d database) j p = .ok () q) ↔ SupportedBy seen j := by
  obtain ⟨plan, hplan⟩ := Model.plan_of_typed m.config (hfit.joinTyped j hj)
  rw [createModel_accepts d database hreal hplan, Catalog.accepts_plan hplan]
  constructor
  · rintro ⟨-, hrefs⟩ k hk
    have hin := hfit.joinRefers j hj k hk
    rcases hrefs k hk with hself | hthere
    · exact absurd (hself ▸ hin) (hfit.joinUnlisted j hj)
    · exact (h.hasTable_listed hfit hin).mp hthere
  · exact fun hs => ⟨hmiss, fun k hk =>
      Or.inr ((h.hasTable_listed hfit (hfit.joinRefers j hj k hk)).mpr (hs k hk))⟩

/-- What becomes of the first task that waits: an index is created; a join table is left alone if it
is there, created if it is supported, and given up if not. -/
theorem Going.first {a : Model} (ha : a ∈ placed) {t : Task} {rest : TaskQueue} {r}
    (h : Going reg c placed seen a p) (hp : p.queue.tasks = t :: rest.tasks)
    (hr : m.attempt reg (Catalog.session d database) t { p with queue := rest } = r) :
    (∃ table i, t = .createIndex table i ∧ r.queue = rest ∧
      (∀ u, r.session.hasTable u = p.session.hasTable u) ∧ IndexesReady r.session rest.tasks ∧
      r.report.failures = p.report.failures) ∨
    ∃ s j, t = .joinTable s false ∧ reg.describe s = .ok j ∧ TransGen (Joins reg) a j ∧
      (p.session.hasTable j.table = true ∧ r = { p with queue := rest } ∨
        p.session.hasTable j.table = false ∧ SupportedBy seen j ∧
          m.createModel (Catalog.session d database) j { p with queue := rest } = .ok () r ∨
        p.session.hasTable j.table = false ∧ ¬ SupportedBy seen j ∧
          ∃ f, r = withFailure { p with queue := rest } f) := by
  cases t with
  | createIndex table i =>
    obtain ⟨hqueue, hsame⟩ := attempt_createIndex_tasks m reg d database
      { p with queue := rest } table i
    have hfirst : IndexesReady p.session (.createIndex table i :: rest.tasks) := hp ▸ h.ready
    obtain ⟨hfailures, hready⟩ := attempt_createIndex hreal (p := { p with queue := rest }) hfirst
      hr
    rw [hr] at hqueue hsame
    exact Or.inl ⟨table, i, rfl, hqueue, hsame, hready, hfailures⟩
  | joinTable s flag =>
    obtain ⟨rfl, j, hj, haj⟩ := h.waiting s flag (by simp [hp])
    have hiff := Standing.creates_iff (p := { p with queue := rest }) hreal hfit d database
      h.standing (joined_iff.mpr ⟨a, ha, haj⟩)
    refine Or.inr ⟨s, j, rfl, hj, haj, ?_⟩
    rcases attempt_join hj hr with ⟨hthere, rfl⟩ | ⟨hmiss, hcreate | ⟨⟨e, he⟩, f, rfl⟩⟩
    · exact Or.inl ⟨hthere, rfl⟩
    · exact Or.inr (Or.inl ⟨hmiss, (hiff hmiss).mp ⟨r, hcreate⟩, hcreate⟩)
    · refine Or.inr (Or.inr ⟨hmiss, fun hs => ?_, f, rfl⟩)
      obtain ⟨q, hq⟩ := (hiff hmiss).mpr hs
      rw [he] at hq
      cases hq

/-- The first task that waits keeps the tables as they should be. -/
theorem Going.next {a : Model} (ha : a ∈ placed) {t : Task} {rest : TaskQueue}
    (h : Going reg c placed seen a p) (hp : p.queue.tasks = t :: rest.tasks) :
    Going reg c placed seen a
      (m.attempt reg (Catalog.session d database) t { p with queue := rest }) := by
  obtain ⟨r, hr⟩ : ∃ r, m.attempt reg (Catalog.session d database) t { p with queue := rest } = r :=
    ⟨_, rfl⟩
  have hwaiting : ∀ s flag, .joinTable s flag ∈ rest.tasks →
      flag = false ∧ ∃ j, reg.describe s = .ok j ∧ TransGen (Joins reg) a j :=
    fun s flag hs => h.waiting s flag (hp ▸ List.mem_cons_of_mem t hs)
  rw [hr]
  rcases h.first hreal hfit ha hp hr with ⟨table, i, rfl, hqueue, hsame, hready, -⟩ |
    ⟨s, j, rfl, hj, haj, hcases⟩
  · refine ⟨⟨fun b hb => ?_, fun u hu => ?_⟩, hqueue ▸ hready, hqueue ▸ hwaiting⟩
    · rw [hsame]
      exact h.standing.listed b hb
    · exact h.standing.only u (hsame u ▸ hu)
  · have hready : IndexesReady p.session rest.tasks := by
      have hall := h.ready
      rw [hp] at hall
      exact ⟨hall.distinct, hall.ready⟩
    have hjoined : Joined reg (placed.map .model) j := joined_iff.mpr ⟨a, ha, haj⟩
    rcases hcases with ⟨-, rfl⟩ | ⟨hmiss, hsupported, hcreate⟩ | ⟨-, -, f, rfl⟩
    · exact ⟨h.standing, hready, hwaiting⟩
    · refine ⟨Standing.createJoin hreal (p := { p with queue := rest }) h.standing hjoined
          hsupported hcreate,
        IndexesReady.create hreal (p := { p with queue := rest }) (hfit.joinBuilt j hjoined) hready
          hmiss hcreate,
        fun s' flag hs => ?_⟩
      rcases createModel_joinTables hcreate hs with hwait | ⟨rfl, hsj⟩
      · exact hwaiting s' flag hwait
      · obtain ⟨j', hj'⟩ := hfit.described j (Or.inr hjoined) s' hsj
        exact ⟨rfl, j', hj', haj.tail ⟨s', hsj, hj'⟩⟩
    · exact ⟨h.standing, hready, hwaiting⟩

/-- No task fails if the models that had their turn support all join tables of this one. -/
theorem Going.drain_failures {a : Model} (ha : a ∈ placed)
    (hall : ∀ j, TransGen (Joins reg) a j → SupportedBy seen j) {n : Nat} {r : Progress Catalog}
    (h : Going reg c placed seen a p)
    (hdrain : m.drain reg (Catalog.session d database) n p = some r) :
    r.report.failures = p.report.failures := by
  have hkeep := drain_keeps (I := fun q => Going reg c placed seen a q ∧
    q.report.failures = p.report.failures) (fun t q rest hq hgoing => ?_) n hdrain ⟨h, rfl⟩
  · exact hkeep.2
  · refine ⟨hgoing.1.next hreal hfit ha hq, Eq.trans ?_ hgoing.2⟩
    rcases hgoing.1.first hreal hfit ha hq rfl with ⟨_, _, rfl, -, -, -, hsame⟩ |
      ⟨s, j, rfl, -, haj, ⟨-, hr⟩ | ⟨-, -, hcreate⟩ | ⟨-, hnot, -⟩⟩
    · exact hsame
    · rw [hr]
    · exact createModel_failures (p := { q with queue := rest }) hcreate
    · exact absurd (hall j haj) hnot

/-- The join tables that wait are created if the models that had their turn support them. -/
theorem Going.drain_creates {a : Model} (ha : a ∈ placed) {n : Nat} {r : Progress Catalog}
    (h : Going reg c placed seen a p)
    (hdrain : m.drain reg (Catalog.session d database) n p = some r) :
    ∀ s j, .joinTable s false ∈ p.queue.tasks → reg.describe s = .ok j → SupportedBy seen j →
      r.session.hasTable j.table = true := by
  refine drain_induct (P := fun q => Going reg c placed seen a q → ∀ s j,
    .joinTable s false ∈ q.queue.tasks → reg.describe s = .ok j → SupportedBy seen j →
      r.session.hasTable j.table = true) (fun hnil _ s j hs => ?_)
    (fun k t rest q hq hnext ih hgoing s j hs hj hsupported => ?_) n hdrain h
  · rw [hnil] at hs
    exact absurd hs (by simp)
  · rw [hq] at hs
    rcases List.mem_cons.mp hs with rfl | hs'
    · -- The task itself comes first: its table is there after it, and stays.
      have hmove := (advances_respects m d database).drain advances_take reg k hnext
      refine hmove.grows.hasTable ?_
      rcases hgoing.first hreal hfit ha hq rfl with ⟨_, _, hindex, -⟩ |
        ⟨s', j', heq, hj', -, hcases⟩
      · cases hindex
      · cases heq
        cases hj.symm.trans hj'
        rcases hcases with ⟨hthere, hr⟩ | ⟨-, -, hcreate⟩ | ⟨-, hnot, -⟩
        · rw [hr]
          exact hthere
        · exact (createModel_hasTable hreal hcreate _).mpr (Or.inr rfl)
        · exact absurd hsupported hnot
    · have hwait := (queue_respects m (Catalog.session d database)).attempt reg t
        { q with queue := rest }
      exact ih (hgoing.next hreal hfit ha hq) s j (hwait.subset hs') hj hsupported

/-- If no task fails, and each join table has one description, then the models that had their turn
support all join tables that this one leads to, and all of these are there. -/
theorem Going.supported_of_clean {a : Model} (ha : a ∈ placed) (hseen : seen ⊆ placed)
    (honce : JoinedOnce reg placed) {n : Nat} {r : Progress Catalog}
    (h : Going reg c placed seen a p) (hinv : JInv reg m.config c (placed.map .model) p)
    (hwait : ∀ s ∈ a.joinTables, .joinTable s false ∈ p.queue.tasks)
    (hdrain : m.drain reg (Catalog.session d database) n p = some r)
    (hclean : r.report.failures = []) :
    JInv reg m.config c (placed.map .model) r ∧ ∀ j, TransGen (Joins reg) a j →
      SupportedBy seen j ∧ r.session.hasTable j.table = true := by
  have hgoing : Going reg c placed seen a r :=
    drain_keeps (fun t q rest hq hgoing => hgoing.next hreal hfit ha hq) n hdrain h
  have hend : JInv reg m.config c (placed.map .model) r :=
    drain_inv hclean (fun t q rest r hq hinv hrun =>
      runTask_jinv hreal (fun j hj b hb => honce.eq hfit hj hb) hinv hq hrun) n hdrain hinv
  have hempty := drain_empty n hdrain
  have hjoined : ∀ j, TransGen (Joins reg) a j → Joined reg (placed.map .model) j :=
    fun j hj => joined_iff.mpr ⟨a, ha, hj⟩
  -- The join tables of a join table that is there have been created after it, for it was new.
  have hthere : ∀ j, TransGen (Joins reg) a j → r.session.has j.table .table = true := by
    intro j haj
    induction haj with
    | single hj =>
      obtain ⟨s, hs, hj⟩ := hj
      obtain ⟨j', hj', hdone⟩ := drain_done hreal hdrain hclean _ (hwait s hs)
      cases hj.symm.trans hj'
      exact hdone
    | @tail b j hab hbj ih =>
      obtain ⟨s, hs, hj⟩ := hbj
      have hb := hjoined b hab
      have hout : .model b ∉ placed.map ResolvedModel.model := fun hin =>
        hfit.joinUnlisted b hb (List.mem_map_of_mem (by simpa using hin))
      rcases hend.there b hb hout ih with hsettled | hunder
      · have hstart := (settled_iff.mp hsettled).1 .table (by simp [Model.parts])
        rw [Catalog.has_table, hfit.joinFresh b hb] at hstart
        cases hstart
      · have hlater : .joinTable s false ∈ b.laterTasks m.config :=
          List.mem_append_right _ (List.mem_map.mpr ⟨s, hs, rfl⟩)
        rcases hunder.later _ hlater with ⟨j', hj', hdone⟩ | hwaits
        · cases hj.symm.trans hj'
          exact hdone
        · rw [hempty] at hwaits
          exact absurd hwaits List.not_mem_nil
  refine ⟨hend, fun j haj => ?_⟩
  have htable : r.session.hasTable j.table = true := (Catalog.has_table _ _) ▸ hthere j haj
  refine ⟨?_, htable⟩
  rcases hgoing.standing.only j.table htable with hc | hlisted | ⟨k, hk, hkj, hsupported⟩
  · rw [hfit.joinFresh j (hjoined j haj)] at hc
    cases hc
  · exact absurd (List.map_subset _ hseen hlisted) (hfit.joinUnlisted j (hjoined j haj))
  · cases honce k j hk (hjoined j haj) hkj
    exact hsupported

end

/-! ## The run -/

/-- What the turns of some models, which lead from stage `p` to stage `q`, do to the join tables. -/
structure Turns (reg : Registry) (config : Config) (c : Catalog) (placed models : List Model)
    (p q : Progress Catalog) : Prop where
  advances : Advances p q
  joins : ∀ a ∈ models, ∀ j, Joins reg a j → Supported (placed.map .model) a j →
    q.session.hasTable j.table = true
  clean : (∀ a ∈ models, ∀ j, TransGen (Joins reg) a j → Supported (placed.map .model) a j) →
    q.report.failures = p.report.failures
  once : JoinedOnce reg placed → JInv reg config c (placed.map .model) p →
    q.report.failures = [] → JInv reg config c (placed.map .model) q ∧
      ∀ a ∈ models, ∀ j, TransGen (Joins reg) a j →
        Supported (placed.map .model) a j ∧ q.session.hasTable j.table = true

theorem Turns.nil {config : Config} : Turns reg config c placed [] p p where
  advances := Advances.refl p
  joins _ ha := absurd ha List.not_mem_nil
  clean _ := rfl
  once _ hinv _ := ⟨hinv, fun _ ha => absurd ha List.not_mem_nil⟩

theorem Turns.append {config : Config} {models rest : List Model} {r : Progress Catalog}
    (h : Turns reg config c placed models p q) (h' : Turns reg config c placed rest q r) :
    Turns reg config c placed (models ++ rest) p r where
  advances := h.advances.trans h'.advances
  joins a ha j hj hs := by
    rcases List.mem_append.mp ha with ha | ha
    · exact h'.advances.grows.hasTable (h.joins a ha j hj hs)
    · exact h'.joins a ha j hj hs
  clean hall :=
    (h'.clean fun a ha => hall a (List.mem_append_right _ ha)).trans
      (h.clean fun a ha => hall a (List.mem_append_left _ ha))
  once honce hinv hclean := by
    obtain ⟨hinv', hfirst⟩ := h.once honce hinv (h'.advances.clean hclean)
    obtain ⟨hinv'', hlater⟩ := h'.once honce hinv' hclean
    refine ⟨hinv'', fun a ha j hj => ?_⟩
    rcases List.mem_append.mp ha with ha | ha
    · exact (hfirst a ha j hj).imp_right h'.advances.grows.hasTable
    · exact hlater a ha j hj

section

variable (hreal : m.config.dryRun = false) (hfit : JoinsFit reg m.dialect c placed)
variable (hback : ReferencesBack placed) (hdistinct : (placed.map (·.table)).Nodup)
variable (hbuilt : ∀ a ∈ placed, a.IsBuilt)

include hreal hfit hback hdistinct hbuilt

omit hreal hbuilt in
/-- The next table is missing, and what it refers to is there. -/
theorem Standing.admits {before after : List Model} {a : Model}
    (hplaced : placed = before ++ a :: after) (h : Standing reg c placed before now) :
    now.hasTable a.table = false ∧ ∀ k ∈ a.foreignKeys, a.table = k.referencedTable ∨
      now.hasTable k.referencedTable = true := by
  have ha : a ∈ placed := by simp [hplaced]
  constructor
  · rw [Bool.eq_false_iff, Ne, h.hasTable_listed hfit (List.mem_map_of_mem ha)]
    intro hin
    rw [hplaced, List.map_append, List.nodup_append] at hdistinct
    exact hdistinct.2.2 _ hin a.table (by simp) rfl
  · intro k hk
    have hin := hfit.refers a ha k hk
    exact (mem_before_of_back (hplaced ▸ hback) hk (hplaced ▸ hin)).imp_right
      (h.hasTable_listed hfit hin).mpr

/-- The next table is created, and all its join tables wait. -/
theorem Standing.createNext (d : Dialect) (database : String) {before after : List Model}
    {a : Model} (hplaced : placed = before ++ a :: after)
    (h : Standing reg c placed before p.session) (hp : p.queue.tasks = []) :
    ∃ q, m.createModel (Catalog.session d database) a p = .ok () q ∧
      Going reg c placed (before ++ [a]) a q ∧
      ∀ s ∈ a.joinTables, .joinTable s false ∈ q.queue.tasks := by
  have ha : a ∈ placed := by simp [hplaced]
  obtain ⟨hmiss, hrefs⟩ := h.admits hfit hback hdistinct hplaced
  obtain ⟨plan, hplan⟩ := Model.plan_of_typed m.config (hfit.typed a ha)
  obtain ⟨q, hcreate⟩ := (createModel_accepts d database hreal hplan).mpr
    ((Catalog.accepts_plan hplan).mpr ⟨hmiss, hrefs⟩)
  refine ⟨q, hcreate, ⟨h.createListed hreal hcreate, ?_, fun s flag hs => ?_⟩, fun s hs => ?_⟩
  · exact IndexesReady.create hreal (hbuilt a ha) ⟨by simp [hp], by simp [hp]⟩ hmiss hcreate
  · rcases createModel_joinTables hcreate hs with hwait | ⟨rfl, hsa⟩
    · rw [hp] at hwait
      exact absurd hwait List.not_mem_nil
    · obtain ⟨j, hj⟩ := hfit.described a (Or.inl ha) s hsa
      exact ⟨rfl, j, hj, TransGen.single ⟨s, hsa, hj⟩⟩
  · rw [(createModel_ok hreal hcreate).2]
    exact List.mem_append_right _ (List.mem_append_right _ (List.mem_map.mpr ⟨s, hs, rfl⟩))

/-- **The turn of a model.**  Its table is created, and then the deferred work is done. -/
theorem Standing.turn (d : Dialect) (database : String) {before after : List Model} {a : Model}
    (hplaced : placed = before ++ a :: after) (h : Standing reg c placed before p.session)
    (hp : p.queue.tasks = []) :
    ∃ n q r, m.createStep (Catalog.session d database) (.model a) p = .ok () q ∧
      m.drain reg (Catalog.session d database) n q = some r ∧
      Standing reg c placed (before ++ [a]) r.session ∧ Turns reg m.config c placed [a] p r := by
  have ha : a ∈ placed := by simp [hplaced]
  have honce : (before ++ a :: after).Nodup := hplaced ▸ hdistinct.of_map _
  obtain ⟨hmiss, -⟩ := h.admits hfit hback hdistinct hplaced
  obtain ⟨q, hcreate, hgoing, hwait⟩ := h.createNext hreal hfit hback hdistinct hbuilt d database
    hplaced hp
  obtain ⟨n, r, hdrain⟩ := drain_ends reg d database hreal _ q.queue.tasks rfl rfl
    fun s flag hs => (hgoing.waiting s flag hs).1
  have hend : Going reg c placed (before ++ [a]) a r :=
    drain_keeps (fun t q rest hq hgoing => hgoing.next hreal hfit ha hq) n hdrain hgoing
  have hcreated := ((advances_respects m d database).createModel a).of_ok hcreate
  have hsupported : ∀ j, Supported (placed.map .model) a j ↔ SupportedBy (before ++ [a]) j := by
    rw [hplaced]
    exact fun j => supported_iff honce
  refine ⟨n, q, r, hcreate, hdrain, hend.standing,
    hcreated.trans ((advances_respects m d database).drain advances_take reg n hdrain),
    fun b hb j hbj hs => ?_, fun hall => ?_, fun honce hinv hclean => ?_⟩
  · cases List.mem_singleton.mp hb
    obtain ⟨s, hsa, hj⟩ := hbj
    exact hgoing.drain_creates hreal hfit ha hdrain s j (hwait s hsa) hj ((hsupported j).mp hs)
  · have hall' : ∀ j, TransGen (Joins reg) a j → SupportedBy (before ++ [a]) j :=
      fun j hj => (hsupported j).mp (hall a (by simp) j hj)
    exact (hgoing.drain_failures hreal hfit ha hall' hdrain).trans (createModel_failures hcreate)
  · have hseen : before ++ [a] ⊆ placed := by
      rw [hplaced]
      exact List.append_subset.mpr ⟨by simp, by simp⟩
    have hqueue := ((queue_respects m (Catalog.session d database)).createModel a).of_ok hcreate
    have hinv' : JInv reg m.config c (placed.map .model) q :=
      worksOn_jinv hreal (fun j hj b hb => honce.eq hfit hj hb) hinv
        (Or.inl (List.mem_map_of_mem ha))
        (Or.inr ⟨(Catalog.has_table _ _).trans hmiss, hcreate⟩) (fun _ ht => ht)
        fun t ht => Or.inl (hqueue.subset ht)
    obtain ⟨hinv'', hall⟩ := hgoing.supported_of_clean hreal hfit ha hseen honce hinv' hwait hdrain
      hclean
    refine ⟨hinv'', fun b hb j hj => ?_⟩
    cases List.mem_singleton.mp hb
    exact (hall j hj).imp_left (hsupported j).mpr

/-- **The run.**  One model after the other has its turn. -/
theorem Standing.run (d : Dialect) (database : String) :
    ∀ {after before : List Model} {p : Progress Catalog}, placed = before ++ after →
      Standing reg c placed before p.session → p.queue.tasks = [] →
    ∃ n r, m.forEachModel reg (Catalog.session d database) n
        (m.createStep (Catalog.session d database)) (after.map .model) p = some (.ok () r) ∧
      Standing reg c placed placed r.session ∧ Turns reg m.config c placed after p r := by
  intro after
  induction after with
  | nil =>
    intro before p hplaced h _
    rw [List.append_nil] at hplaced
    exact ⟨0, p, rfl, hplaced ▸ h, Turns.nil⟩
  | cons a after ih =>
    intro before p hplaced h hp
    obtain ⟨n, q, q', hq, hq', hstanding, hturn⟩ := h.turn hreal hfit hback hdistinct hbuilt d
      database hplaced hp
    obtain ⟨k, r, hr, hend, hturns⟩ := ih (by simp [hplaced]) hstanding (drain_empty n hq')
    exact ⟨_, r, forEachModel_of_cons hq hq' hr, hend, hturn.append hturns⟩

end

/-! ## The theorem -/

/-- **Join tables in every order.**  Whatever the order of the list, `createTables` succeeds and
creates all listed tables.  A join table is created if, in the order of the run, the model that it
belongs to supports it.  No deferred work fails if all join tables are supported; and where each
join table has one description, no deferred work fails only if all of them are supported, and then
all of them are created.  A join table that refers only to the model that it belongs to, and to what
that model depends on, is supported in every order. -/
theorem createTables_joinTables (m : Migrator) (reg : Registry) (d : Dialect) (database : String)
    (refs : List ModelRef) (models : List Model) (c : Catalog) (hreal : m.config.dryRun = false)
    (hlist : Orderable reg refs models) (hfit : JoinsFit reg m.dialect c models) :
    ∀ refs' : List ModelRef, refs'.Perm refs → ∃ (out : List ResolvedModel) (report : Report)
      (c' : Catalog), order reg false refs' = .ok out ∧
      (∃ n, ∀ k, n ≤ k → m.createTables reg (Catalog.session d database) k refs' c =
        some (.ok report c')) ∧
      (∀ a ∈ models, c'.hasTable a.table = true) ∧
      (∀ a ∈ models, ∀ j, Joins reg a j → Supported out a j → c'.hasTable j.table = true) ∧
      ((∀ a ∈ models, ∀ j, TransGen (Joins reg) a j → Supported out a j) →
        report.failures = []) ∧
      (JoinedOnce reg models → report.failures = [] → ∀ a ∈ models, ∀ j,
        TransGen (Joins reg) a j → Supported out a j ∧ c'.hasTable j.table = true) ∧
      ∀ a ∈ models, ∀ j : Model, (∀ k ∈ j.foreignKeys, k.referencedTable = a.table ∨
          TransGen (DependsOn (models.map .model)) a.table k.referencedTable) →
        Supported out a j := by
  intro refs' hrefs
  obtain ⟨listed, hlisted, hlist'⟩ := hlist.perm hrefs
  obtain ⟨placed, horder, hplaced, hback⟩ := order_acyclic hlist'
  have hperm : placed.Perm models := hplaced.trans hlisted
  have hfit' := hfit.perm hperm
  have hdistinct : (placed.map (·.table)).Nodup := (hperm.map _).nodup_iff.mpr hlist.distinct
  have hbuilt : ∀ a ∈ placed, a.IsBuilt := fun a ha => hlist.built a (hperm.subset ha)
  have hmem : ∀ a ∈ models, a ∈ placed := fun a ha => hperm.symm.subset ha
  have hstart : Standing reg c placed [] (m.start c).session :=
    ⟨fun _ hb => absurd hb List.not_mem_nil, fun _ ht => Or.inl ht⟩
  obtain ⟨n, r, hrun, hend, hturns⟩ := hstart.run hreal hfit' hback hdistinct hbuilt d
    database rfl rfl
  refine ⟨placed.map .model, r.report, r.session, horder, ⟨n, fun k hk => ?_⟩,
    fun a ha => hend.listed a (hmem a ha), fun a ha => hturns.joins a (hmem a ha),
    fun hall => hturns.clean fun a ha => hall a (hperm.subset ha),
    fun honce hclean a ha => ?_, fun a ha j hj k hk => ?_⟩
  · unfold createTables migrate
    rw [horder]
    dsimp only
    rw [forEachModel_mono hk hrun]
    rfl
  · have honce' : JoinedOnce reg placed := fun j k hj hk =>
      honce j k ((joined_perm hperm).mp hj) ((joined_perm hperm).mp hk)
    -- Nothing is there at the start that a join model describes.
    have hinv : JInv reg m.config c (placed.map .model) (m.start c) := by
      refine ⟨fun s flag hs => absurd hs List.not_mem_nil, fun j hj _ hthere => ?_⟩
      rw [Catalog.has_table] at hthere
      exact absurd (hthere.symm.trans (hfit'.joinFresh j hj)) (by simp)
    exact (hturns.once honce' hinv hclean).2 a (hmem a ha)
  · refine (hj k hk).imp_right fun hdep => ?_
    obtain ⟨before, after, hcut⟩ := List.append_of_mem (hmem a ha)
    have hin := mem_before_of_dependsOn
      (fun t ht => hlist.acyclic t ((transGen_dependsOn_perm hperm).mp ht)) hback hdistinct
      ((transGen_dependsOn_perm hperm).mpr hdep) before a after hcut rfl
    obtain ⟨b, hb, hbk⟩ := List.mem_map.mp hin
    refine ⟨b, ?_, hbk⟩
    rw [hcut]
    exact (precedes_map_iff (hcut ▸ hdistinct.of_map _)).mpr hb

/-! ## Speakers and languages, in both orders -/

theorem orderable_speakers {models : List Model} (h : models.Perm [languages, speakers]) :
    Orderable spokenRegistry (models.map .model) models := by
  have hmem : ∀ a ∈ models, a = languages ∨ a = speakers := fun a ha => by
    simpa using h.subset ha
  refine ⟨?_, fun a ha => ?_, (h.map _).nodup_iff.mpr (by decide), fun t ht => ?_⟩
  · rw [List.forall₂_map_left_iff, List.forall₂_same]
    exact fun a _ => rfl
  · rcases hmem a ha with rfl | rfl
    · exact ⟨languages, by with_unfolding_all rfl⟩
    · exact ⟨speakers, by with_unfolding_all rfl⟩
  · refine acyclic_of_rank (fun _ => 0) (fun a ha k hk => ?_) t ht
    have ha' : a ∈ models := by simpa using ha
    rcases hmem a ha' with rfl | rfl
    · exact absurd hk List.not_mem_nil
    · exact absurd hk List.not_mem_nil

theorem joinsFit_speakers : JoinsFit spokenRegistry Mysql.dialect {} [languages, speakers] where
  typed := by decide
  refers := by decide
  fresh := by decide
  described a ha s hs := by
    refine ⟨spoken, ?_⟩
    rcases ha with ha | ha
    · simp only [List.mem_cons, List.not_mem_nil, or_false] at ha
      rcases ha with rfl | rfl
      · exact absurd hs List.not_mem_nil
      · cases List.mem_singleton.mp hs
        rfl
    · cases eq_spoken_of_joined ha
      exact absurd hs List.not_mem_nil
  joinBuilt j hj := by
    cases eq_spoken_of_joined hj
    exact ⟨spoken, by with_unfolding_all rfl⟩
  joinTyped j hj := by
    cases eq_spoken_of_joined hj
    decide
  joinUnlisted j hj := by
    cases eq_spoken_of_joined hj
    decide
  joinRefers j hj := by
    cases eq_spoken_of_joined hj
    decide
  joinFresh j hj := by
    cases eq_spoken_of_joined hj
    decide

/-- Where languages are created before the speakers, the speakers support the join table. -/
theorem createTables_joinTables_speakers :
    ∃ report c', (∃ n, ∀ k, n ≤ k → plainMigrator.createTables spokenRegistry
        (Catalog.session Mysql.dialect "app") k [.model languages, .model speakers] {} =
          some (.ok report c')) ∧
      report.failures = [] ∧ c'.hasTable "languages" = true ∧ c'.hasTable "speakers" = true ∧
      c'.hasTable "speaker_languages" = true := by
  obtain ⟨out, report, c', ho, hrun, hlisted, hjoins, hclean, -, -⟩ :=
    createTables_joinTables plainMigrator spokenRegistry Mysql.dialect "app" _ _ {} rfl
      (orderable_speakers (.refl _)) joinsFit_speakers [.model languages, .model speakers] (.refl _)
  have horder : order spokenRegistry false [.model languages, .model speakers] =
      .ok [.model languages, .model speakers] := by with_unfolding_all rfl
  cases horder.symm.trans ho
  have hsupported : Supported [.model languages, .model speakers] speakers spoken := by
    have honce : ([languages] ++ speakers :: []).Nodup :=
      (orderable_speakers (.refl _)).distinct.of_map _
    refine (supported_iff honce).mpr ?_
    unfold SupportedBy
    decide
  have hspoken : Joins spokenRegistry speakers spoken := ⟨_, List.mem_singleton_self _, rfl⟩
  refine ⟨report, c', hrun, hclean fun a ha j hj => ?_, hlisted languages (by simp),
    hlisted speakers (by simp), hjoins speakers (by simp) spoken hspoken hsupported⟩
  obtain rfl : j = spoken := eq_spoken_of_joined (joined_iff.mpr ⟨a, ha, hj⟩)
  obtain ⟨b, hab, -⟩ := TransGen.head'_iff.mp hj
  obtain rfl : a = speakers :=
    (eq_spoken_of_joins (mem_of_ordered (List.mem_map_of_mem ha)) hab).1
  exact hsupported

/-- Listed first, the speakers are created first, and their join table is given up, although the
languages are created right after. -/
theorem createTables_unsupported_speakers :
    Orderable spokenRegistry [.model speakers, .model languages] [speakers, languages] ∧
      JoinsFit spokenRegistry Mysql.dialect {} [speakers, languages] ∧
      JoinedOnce spokenRegistry [speakers, languages] ∧
      (arrival (plainMigrator.createTables spokenRegistry (Catalog.session Mysql.dialect "app") 1
          [.model speakers, .model languages] {})).map (fun r => (r.1.failures.length,
            r.2.hasTable "languages", r.2.hasTable "speaker_languages")) =
        some (1, true, false) := by
  have hperm : [speakers, languages].Perm [languages, speakers] := .swap ..
  have hspoken : ∀ j, Joined spokenRegistry ([speakers, languages].map .model) j → j = spoken :=
    fun _ hj => eq_spoken_of_joined ((joined_perm hperm).mp hj)
  refine ⟨orderable_speakers hperm, joinsFit_speakers.perm hperm, fun j k hj hk _ => ?_,
    by decide +kernel⟩
  rw [hspoken j hj, hspoken k hk]

end Migrator

end SchemaMigration
