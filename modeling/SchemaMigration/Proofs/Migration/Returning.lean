import Mathlib.Data.Finite.Prod
import Mathlib.Logic.Hydra
import Mathlib.Tactic.Abel
import SchemaMigration.Proofs.Migration.Conforming
import SchemaMigration.Proofs.Migration.JoinDiscovery
import SchemaMigration.Proofs.Migration.Rounds

/-!
# Runs that return

A run returns exactly if it meets no stage from which the work goes round, `Circles`
(`migrate_returns`).  That it does not return else is the subject of `Rounds`.

For the other direction, a task either brings a part that was missing or leaves the catalog as it
is.  Tasks can bring finitely many parts: those that models of the registry declare, and the indexes
that wait (`Covers`).  So the first happens finitely often:

> `lacking`: how many of these parts are missing.

In between the catalog stays the same, and each task that is done makes room for tasks that it
yields (`Yields`).  Where nothing goes round, no chain of such tasks goes on without end, and a
queue in which one task after the other is replaced by what it yields gets empty.

A real run of `createTables` always returns: its join tables are left alone when they are there.
-/

namespace SchemaMigration

open Relation (CutExpand ReflTransGen TransGen)

/-- Where no chain down from any of these goes on without end, one cannot for ever take one of them
away and put in ones below it. -/
theorem acc_cutExpand {α : Type} {r : α → α → Prop} {xs : Multiset α} (h : ∀ x ∈ xs, Acc r x) :
    Acc (CutExpand fun y x => r y x ∧ Acc r x) xs := by
  have hirrefl : Std.Irrefl fun y x => r y x ∧ Acc r x := by
    refine ⟨fun x hx => ?_⟩
    obtain ⟨hxx, hacc⟩ := hx
    induction hacc with
    | intro x _ ih => exact ih x hxx hxx
  exact Relation.acc_of_singleton fun x hx =>
    (Subrelation.accessible (fun hyx => hyx.1) (h x hx)).cutExpand

/-- With some allowance, a run has an outcome. -/
def Returns {α : Type} (run : Nat → Option α) : Prop := ∃ n r, run n = some r

/-- The parts that tasks for a model may bring: all that it declares, with its indexes in any
case. -/
def Model.allParts (config : Config) (a : Model) : List Part :=
  a.parts config ++ a.indexes.map (.index ·.name)

/-- None of the join models that the ordered models lead to leads back to itself. -/
def JoinsEnd (reg : Registry) (out : List ResolvedModel) : Prop :=
  ∀ j, Joined reg out j → ¬ TransGen (Joins reg) j j

theorem Joined.trans {reg : Registry} {out : List ResolvedModel} {j k : Model}
    (hj : Joined reg out j) (hjk : ReflTransGen (Joins reg) j k) : Joined reg out k := by
  obtain ⟨a, ha, haj⟩ := hj
  exact ⟨a, ha, haj.trans_left hjk⟩

namespace Migrator

open SchemaMigration.Action (Moves after bind_ok)

variable {m : Migrator} {reg : Registry} {d : Dialect} {database : String}
variable {c : Catalog} {F : List (String × Part)} {p q r : Progress Catalog}

/-! ## What a task brings -/

/-- The catalog stays as it is, or grows by one of these parts of the table. -/
def Gains (table : String) (parts : List Part) (p q : Progress Catalog) : Prop :=
  q.session = p.session ∨ p.session.Grows q.session ∧
    ∃ part ∈ parts, p.session.has table part = false ∧ q.session.has table part = true

theorem Gains.refl (table : String) (parts : List Part) (p : Progress Catalog) :
    Gains table parts p p := Or.inl rfl

theorem Gains.trans {table : String} {parts : List Part} (h : Gains table parts p q)
    (h' : Gains table parts q r) : Gains table parts p r := by
  rcases h' with hsame | ⟨hgrows, part, hpart, hmiss, hthere⟩
  · unfold Gains at h ⊢
    rwa [hsame]
  · rcases h with hsame | ⟨hgrows', part', hpart', hmiss', hthere'⟩
    · rw [hsame] at hgrows hmiss
      exact Or.inr ⟨hgrows, part, hpart, hmiss, hthere⟩
    · exact Or.inr ⟨hgrows'.trans hgrows, part', hpart', hmiss', hgrows _ _ hthere'⟩

theorem carryOut_gains {change : Change} {table : String} {parts added : List Part} {part : Part}
    (ha : change.adds = some (table, added)) (hadded : part ∈ added) (hpart : part ∈ parts) :
    Moves (Gains table parts) (m.carryOut (Catalog.session d database) change) := by
  intro p
  unfold after
  cases h : m.carryOut (Catalog.session d database) change p with
  | error e q =>
    rw [carryOut_eq] at h
    split at h <;> cases h
    exact Or.inl rfl
  | ok u q =>
    have hc := (carryOut_ok h).1
    unfold performed at hc
    split at hc
    · exact Or.inl (Except.ok.inj hc).symm
    · exact Or.inr ⟨Catalog.apply_grows ha hc, part, hpart,
        Catalog.apply_new hc ⟨added, ha, hadded⟩, Catalog.apply_has ha hc hadded⟩

theorem addMissing_gains {table : String} {parts : List Part}
    {x : Part × Except MigrationError Change} (hpart : x.1 ∈ parts)
    (hadds : ∀ change, x.2 = .ok change → change.adds = some (table, [x.1])) :
    Moves (Gains table parts) (m.addMissing (Catalog.session d database)
      (fun named => x.1.question table named) x.2) := by
  intro p
  unfold after
  rw [addMissing_eq]
  by_cases hthere : p.session.has table x.1 = true
  · rw [if_pos hthere]
    exact Or.inl rfl
  · rw [if_neg hthere]
    cases hchange : x.2 with
    | error e => exact Or.inl rfl
    | ok change => exact carryOut_gains (hadds change hchange) (List.mem_singleton_self _) hpart p

theorem updateModel_gains (m : Migrator) (d : Dialect) (database : String) (a : Model) :
    Moves (Gains a.table (a.allParts m.config)) (m.updateModel (Catalog.session d database) a) := by
  rw [updateModel_eq]
  refine Moves.bind (R := Gains a.table (a.allParts m.config)) (fun _ _ _ => Gains.trans)
    (Action.moves_forM (Gains.refl _ _) (fun _ _ _ => Gains.trans) fun x hx => ?_)
    fun _ _ => Or.inl rfl
  exact addMissing_gains (List.mem_append_left _ (Model.mem_parts_iff.mpr (Or.inr ⟨x, hx, rfl⟩)))
    fun change hc => Model.adds_of_mem_additions hx hc

theorem createModel_gains (m : Migrator) (d : Dialect) (database : String) (a : Model) :
    Moves (Gains a.table (a.allParts m.config)) (m.createModel (Catalog.session d database) a) := by
  unfold createModel
  cases hplan : a.plan m.dialect m.config with
  | error e => exact Gains.refl _ _
  | ok plan =>
    have hcreated : .table ∈ a.createdParts m.config := by simp [Model.createdParts]
    show Moves _ (m.carryOut _ plan.change >>= fun _ => Work.schedule (laterTasks a.table plan))
    refine Moves.bind (R := Gains a.table (a.allParts m.config)) (fun _ _ _ => Gains.trans)
      (carryOut_gains (Model.plan_ok hplan).1 hcreated ?_) fun _ _ => Or.inl rfl
    simp [Model.allParts, Model.parts]

/-! ## What a task leaves -/

/-- Task `t` yields task `u`: for an index of its join table, or for one of the join tables of its
model, in a catalog where it passes. -/
inductive Yields (m : Migrator) (reg : Registry) (c : Catalog) : Task → Task → Prop
  | index {source : Source} {flag : Bool} {j : Model} {i : Index} :
      reg.describe source = .ok j → i ∈ j.indexes →
      Yields m reg c (.joinTable source flag) (.createIndex j.table i)
  | join {source s : Source} {flag flag' : Bool} {j : Model} :
      reg.describe source = .ok j → s ∈ j.joinTables → m.Passes c j flag flag' →
      Yields m reg c (.joinTable source flag) (.joinTable s flag')

/-- Tasks that work on a model leaves behind the others, from stage `p` to stage `q`: for indexes of
the model, and for its join tables, passing if the catalog stays the same. -/
def Leaves (m : Migrator) (a : Model) (flag : Bool) (p q : Progress Catalog) : Prop :=
  ∃ more, q.queue.tasks = p.queue.tasks ++ more ∧
    ∀ t ∈ more, (∃ i ∈ a.indexes, t = .createIndex a.table i) ∨
      ∃ s ∈ a.joinTables, ∃ flag', t = .joinTable s flag' ∧
        (q.session = p.session → m.Passes p.session a flag flag')

theorem Leaves.nothing {a : Model} {flag : Bool} (h : q.queue = p.queue) : m.Leaves a flag p q :=
  ⟨[], by rw [h, List.append_nil], fun _ ht => absurd ht List.not_mem_nil⟩

theorem updateModel_leaves {a : Model} (hthere : p.session.hasTable a.table = true) :
    m.Leaves a true p (after (m.updateModel (Catalog.session d database) a) p) := by
  rw [updateModel_eq]
  have hall : Moves (Stays a.table) ((a.additions m.dialect m.config).forM fun x =>
      m.addMissing (Catalog.session d database) (fun named => x.1.question a.table named) x.2) :=
    Action.moves_forM (Stays.refl a.table) (fun _ _ _ => Stays.trans) fun x hx =>
      addMissing_stays fun c hc => Model.adds_of_mem_additions hx hc
  have hstays := hall p
  cases hadd : (a.additions m.dialect m.config).forM (fun x =>
    m.addMissing (Catalog.session d database) (fun named => x.1.question a.table named) x.2) p with
  | error e q =>
    rw [after, hadd] at hstays
    rw [after, Action.bind_of_error hadd]
    exact Leaves.nothing hstays.queue
  | ok u q =>
    rw [after, hadd] at hstays
    rw [after, Action.bind_of_ok hadd]
    refine ⟨updates a.joinTables, congrArg (fun queue : TaskQueue => queue.tasks ++ _) hstays.queue,
      fun t ht => Or.inr ?_⟩
    obtain ⟨s, hs, rfl⟩ := List.mem_map.mp ht
    refine ⟨s, hs, true, rfl, fun hsame => .existing hthere fun x hx => ?_⟩
    -- What the additions did not skip they have made, but the catalog is the same.
    have hskips := skips_of_forM hadd x hx
    rwa [show q.session = p.session from hsame] at hskips

theorem createModel_leaves {a : Model} {flag : Bool} (hmiss : p.session.hasTable a.table = false) :
    m.Leaves a flag p (after (m.createModel (Catalog.session d database) a) p) := by
  unfold after
  cases hcreate : m.createModel (Catalog.session d database) a p with
  | error e q =>
    cases createModel_error hcreate
    exact Leaves.nothing rfl
  | ok u q =>
    obtain ⟨plan, hplan, -, hqueue⟩ := createModel_performed hcreate
    refine ⟨a.laterTasks m.config, hqueue, fun t ht => ?_⟩
    cases t with
    | createIndex table i =>
      obtain ⟨-, rfl, hi⟩ := Model.createIndex_mem_laterTasks.mp ht
      exact Or.inl ⟨i, hi, rfl⟩
    | joinTable s flag' =>
      obtain ⟨rfl, hs⟩ := Model.joinTable_mem_laterTasks.mp ht
      refine Or.inr ⟨s, hs, false, rfl, fun hsame => .missing ?_ hmiss hplan⟩
      -- In earnest, the table would be there now.
      refine Bool.not_eq_false _ ▸ fun hreal => ?_
      have hthere := (createModel_hasTable hreal hcreate a.table).mpr (Or.inr rfl)
      rw [show q.session = p.session from hsame, hmiss] at hthere
      cases hthere

/-- What a task for a join table brings and what it leaves, failing or not. -/
theorem attempt_joinTable {source : Source} {flag : Bool} {j : Model}
    (hj : reg.describe source = .ok j)
    (hr : m.attempt reg (Catalog.session d database) (.joinTable source flag) p = r) :
    Gains j.table (j.allParts m.config) p r ∧ m.Leaves j flag p r := by
  obtain ⟨hsession, hqueue⟩ := attempt_leaves m reg (Catalog.session d database)
    (.joinTable source flag) p
  rw [hr] at hsession hqueue
  suffices hwork : Gains j.table (j.allParts m.config) p
        (after (m.runTask reg (Catalog.session d database) (.joinTable source flag)) p) ∧
      m.Leaves j flag p
        (after (m.runTask reg (Catalog.session d database) (.joinTable source flag)) p) by
    unfold Gains Leaves at hwork ⊢
    rwa [hsession, hqueue]
  rw [after, runTask_join hj]
  by_cases hthere : p.session.hasTable j.table = true
  · rw [if_pos hthere]
    cases flag with
    | true => exact ⟨updateModel_gains m d database j p, updateModel_leaves hthere⟩
    | false => exact ⟨Or.inl rfl, Leaves.nothing rfl⟩
  · rw [if_neg hthere]
    exact ⟨createModel_gains m d database j p, createModel_leaves (Bool.eq_false_iff.mpr hthere)⟩

/-! ## What is missing -/

/-- All parts that tasks can bring are among these: those of described models, and the indexes that
wait. -/
structure Covers (m : Migrator) (reg : Registry) (F : List (String × Part))
    (p : Progress Catalog) : Prop where
  models : ∀ s j, reg.describe s = .ok j → ∀ part ∈ j.allParts m.config, (j.table, part) ∈ F
  indexes : ∀ t i, .createIndex t i ∈ p.queue.tasks → (t, .index i.name) ∈ F

/-- There are finitely many parts that tasks can bring. -/
theorem exists_covers (m : Migrator) (reg : Registry) (p : Progress Catalog) :
    ∃ F, m.Covers reg F p := by
  refine ⟨(reg.described.flatMap fun j => (j.allParts m.config).map (j.table, ·)) ++
    (p.queue.tasks.filterMap (·.index?)).map fun x => (x.1, .index x.2),
    ⟨fun s j hj part hpart => ?_, fun t i hi => ?_⟩⟩
  · refine List.mem_append_left _ (List.mem_flatMap.mpr ⟨j, Registry.mem_described hj, ?_⟩)
    exact List.mem_map_of_mem hpart
  · refine List.mem_append_right _ (List.mem_map.mpr ⟨(t, i.name), ?_, rfl⟩)
    exact List.mem_filterMap.mpr ⟨_, hi, rfl⟩

/-- How many of these parts the catalog lacks. -/
def lacking (F : List (String × Part)) (c : Catalog) : Nat :=
  (F.filter fun x => !c.has x.1 x.2).length

theorem Gains.lacking {table : String} {parts : List Part} (h : Gains table parts p q)
    (hF : ∀ part ∈ parts, (table, part) ∈ F) :
    lacking F q.session < lacking F p.session ∨ q.session = p.session := by
  refine h.symm.imp_left ?_
  rintro ⟨hgrows, part, hpart, hmiss, hthere⟩
  refine length_filter_lt (hF part hpart) (fun x _ hx => ?_) (by simp [hmiss]) (by simp [hthere])
  rw [Bool.not_eq_true'] at hx ⊢
  exact Bool.eq_false_iff.mpr fun hold => Bool.eq_false_iff.mp hx (hgrows _ _ hold)

/-- The first task that waits leaves less to do: one part less is missing, or the catalog stays the
same and tasks that this one yields take its place. -/
theorem Covers.attempt {t : Task} {rest : TaskQueue} (h : m.Covers reg F p)
    (hp : p.queue.tasks = t :: rest.tasks)
    (hr : m.attempt reg (Catalog.session d database) t { p with queue := rest } = r) :
    m.Covers reg F r ∧ (lacking F r.session < lacking F p.session ∨ r.session = p.session ∧
      ∃ more, r.queue.tasks = rest.tasks ++ more ∧
        ∀ u ∈ more, m.Yields reg p.session t u) := by
  have hwaiting : ∀ table i, .createIndex table i ∈ rest.tasks → (table, .index i.name) ∈ F :=
    fun table i hi => h.indexes table i (hp ▸ List.mem_cons_of_mem t hi)
  obtain ⟨hsession, hqueue⟩ := attempt_leaves m reg (Catalog.session d database) t
    { p with queue := rest }
  rw [hr] at hsession hqueue
  cases t with
  | createIndex table i =>
    have hgains : Gains table [.index i.name] { p with queue := rest } r := by
      unfold Gains
      rw [hsession]
      exact carryOut_gains rfl (List.mem_singleton_self _) (List.mem_singleton_self _) _
    have hsame : r.queue = rest := by
      rw [← hr]
      exact (attempt_createIndex_tasks m reg d database { p with queue := rest } table i).1
    refine ⟨⟨h.models, hsame ▸ hwaiting⟩, (hgains.lacking fun part hpart => ?_).imp_right
      fun hsession => ⟨hsession, [], by simp [hsame], fun _ hu => absurd hu List.not_mem_nil⟩⟩
    cases List.mem_singleton.mp hpart
    exact h.indexes table i (hp ▸ List.mem_cons_self)
  | joinTable source flag =>
    cases hj : reg.describe source with
    | error e =>
      have hrun : after (m.runTask reg (Catalog.session d database) (.joinTable source flag))
          { p with queue := rest } = { p with queue := rest } := by
        rw [after, runTask, hj]
        rfl
      rw [hrun] at hsession hqueue
      exact ⟨⟨h.models, hqueue ▸ hwaiting⟩, Or.inr ⟨hsession, [], by simp [hqueue],
        fun _ hu => absurd hu List.not_mem_nil⟩⟩
    | ok j =>
      obtain ⟨hgains, more, hmore, hleft⟩ := attempt_joinTable hj hr
      refine ⟨⟨h.models, fun table i hi => ?_⟩,
        (hgains.lacking (h.models source j hj)).imp_right fun hsame => ⟨hsame, more, hmore,
          fun u hu => ?_⟩⟩
      · rw [hmore, List.mem_append] at hi
        rcases hi with hi | hi
        · exact hwaiting table i hi
        · rcases hleft _ hi with ⟨k, hk, heq⟩ | ⟨_, _, _, heq, -⟩
          · cases heq
            exact h.models source j hj _ (List.mem_append_right _ (List.mem_map_of_mem hk))
          · cases heq
      · rcases hleft u hu with ⟨i, hi, rfl⟩ | ⟨s, hs, flag', rfl, hpasses⟩
        · exact .index hj hi
        · exact .join hj hs (hpasses hsame)

/-! ## The deferred work ends where nothing goes round -/

/-- From a join table where no round is entered, no chain of tasks goes on without end. -/
theorem acc_yields {source : Source} {flag : Bool} {j : Model} (hj : reg.describe source = .ok j)
    (h : ¬ m.EntersRound reg c (j, flag)) :
    Acc (fun u t => m.Yields reg c t u) (.joinTable source flag) := by
  have hfinite : {y | ReflTransGen (m.PassesOn reg c) (j, flag) y}.Finite := by
    refine ((reg.finite_described.prod Set.finite_univ).insert (j, flag)).subset fun y hy => ?_
    rcases ReflTransGen.cases_tail hy with rfl | ⟨x, -, -, s, -, hs⟩
    · exact Or.inl rfl
    · exact Or.inr ⟨⟨s, hs⟩, Set.mem_univ _⟩
  have hall : ∀ x, Acc (fun y x => m.PassesOn reg c x y) x → ∀ source,
      reg.describe source = .ok x.1 →
        Acc (fun u t => m.Yields reg c t u) (.joinTable source x.2) := by
    intro x hacc
    induction hacc with
    | intro x _ ih =>
      intro source hx
      refine Acc.intro _ fun u hu => ?_
      cases hu with
      | index _ _ => exact Acc.intro _ fun v hv => by cases hv
      | @join _ s _ flag' j hj hs hpasses =>
        cases hx.symm.trans hj
        cases hk : reg.describe s with
        | ok k => exact ih (k, flag') ⟨hpasses, s, hs, hk⟩ s hk
        | error e =>
          refine Acc.intro _ fun v hv => ?_
          cases hv with
          | index hk' _ => cases hk.symm.trans hk'
          | join hk' _ _ => cases hk.symm.trans hk'
  exact hall (j, flag) (acc_of_acyclic hfinite fun y hxy hyy => h ⟨y, hxy, hyy⟩) source hj

theorem acc_waiting (h : ¬ m.Circles reg p) {t : Task} (ht : t ∈ p.queue.tasks) :
    Acc (fun u t => m.Yields reg p.session t u) t := by
  cases t with
  | createIndex table i => exact Acc.intro _ fun u hu => by cases hu
  | joinTable source flag =>
    cases hj : reg.describe source with
    | ok j => exact acc_yields hj fun hround => h ⟨source, flag, j, ht, hj, hround⟩
    | error e =>
      refine Acc.intro _ fun u hu => ?_
      cases hu with
      | index hj' _ => cases hj.symm.trans hj'
      | join hj' _ _ => cases hj.symm.trans hj'

/-- **The deferred work ends where nothing goes round.**  The induction is on the number of parts
that are missing and, for as many, on the tasks that wait. -/
theorem Covers.drain {step : ResolvedModel → Work Catalog Unit} {models : List ResolvedModel} :
    ∀ (n : Nat) {p : Progress Catalog}, lacking F p.session = n → m.Covers reg F p →
      (∀ b, m.Reaches reg (Catalog.session d database) step ⟨models, p⟩ b →
        ¬ m.Circles reg b.progress) →
      ∃ k q, m.drain reg (Catalog.session d database) k p = some q := by
  intro n
  induction n using Nat.strongRecOn with
  | _ n ihn =>
    intro p hn h hround
    have hacc := acc_cutExpand fun t (ht : t ∈ (p.queue.tasks : Multiset Task)) =>
      acc_waiting (hround _ ReflTransGen.refl) (Multiset.mem_coe.mp ht)
    -- As long as the catalog is the same, so is the relation between tasks.
    obtain ⟨c, hc⟩ : ∃ c, c = p.session := ⟨_, rfl⟩
    obtain ⟨xs, hxs⟩ : ∃ xs, xs = (p.queue.tasks : Multiset Task) := ⟨_, rfl⟩
    rw [← hc, ← hxs] at hacc
    induction hacc generalizing p with
    | intro xs _ ih =>
      cases htasks : p.queue.tasks with
      | nil => exact ⟨0, p, by rw [Migrator.drain, (TaskQueue.pop?_eq_none_iff _).mpr htasks]⟩
      | cons t rest =>
        obtain ⟨r, hr⟩ : ∃ r, m.attempt reg (Catalog.session d database) t
          { p with queue := ⟨rest⟩ } = r := ⟨_, rfl⟩
        have hround' : ∀ b, m.Reaches reg (Catalog.session d database) step ⟨models, r⟩ b →
            ¬ m.Circles reg b.progress := fun b hb =>
          hround b (ReflTransGen.head (hr ▸ Next.task htasks) hb)
        obtain ⟨h', hnext⟩ := h.attempt htasks hr
        suffices hends : ∃ k q, m.drain reg (Catalog.session d database) k r = some q by
          obtain ⟨k, q, hq⟩ := hends
          exact ⟨k + 1, q, by rw [drain_cons htasks, hr]; exact hq⟩
        rcases hnext with hlt | ⟨hsame, more, hqueue, hmore⟩
        · exact ihn _ (hn ▸ hlt) rfl h' hround'
        · have hfirst := acc_waiting (hround _ ReflTransGen.refl) (t := t) (by simp [htasks])
          refine ih (r.queue.tasks : Multiset Task) ⟨(more : Multiset Task), t, fun u hu => ?_, ?_⟩
            (hsame ▸ hn) h' hround' (hc.trans hsame.symm) rfl
          · rw [hc]
            exact ⟨hmore u (Multiset.mem_coe.mp hu), hfirst⟩
          · rw [hxs, htasks, hqueue, ← Multiset.coe_add, ← Multiset.cons_coe,
              ← Multiset.singleton_add]
            abel

/-- **A run ends exactly if it meets no stage from which the work goes round.** -/
theorem ends_iff {step : ResolvedModel → Work Catalog Unit} {models : List ResolvedModel} :
    ∀ {p : Progress Catalog}, m.Ends reg (Catalog.session d database) step ⟨models, p⟩ ↔
      ∀ b, m.Reaches reg (Catalog.session d database) step ⟨models, p⟩ b →
        ¬ m.Circles reg b.progress := by
  intro p
  refine ⟨fun h b hb => h.not_circles hb, fun hround => ?_⟩
  induction models generalizing p with
  | nil =>
    obtain ⟨F, hF⟩ := exists_covers m reg p
    obtain ⟨n, q, hq⟩ := hF.drain _ rfl hround
    exact ⟨n, q, _, hq, rfl⟩
  | cons model models ih =>
    obtain ⟨F, hF⟩ := exists_covers m reg p
    obtain ⟨n, q, hq⟩ := hF.drain _ rfl hround
    have hempty := drain_empty n hq
    cases hstep : step model q with
    | error e u => exact ⟨n, q, .error e u, hq, by rw [forEachModel, hstep]⟩
    | ok _ u =>
      obtain ⟨k, v, r, hv, hr⟩ := ih (p := u) fun b hb =>
        hround b ((drain_reached hq).trans (ReflTransGen.head (.step hempty hstep) hb))
      have hrun := forEachModel_of_cons hstep hv hr
      rw [Nat.max_self] at hrun
      exact ⟨max n k, q, r, drain_mono hq (Nat.le_max_left n k),
        forEachModel_mono (Nat.le_max_right n k) hrun⟩

/-- The same, said of what the migration hands out. -/
theorem migrate_ends_iff {discover : Bool} {step : ResolvedModel → Work Catalog Unit}
    {refs : List ModelRef} :
    Returns (fun n => m.migrate reg (Catalog.session d database) n discover step refs c) ↔
      ∀ out, order reg discover refs = .ok out → ∀ b,
        m.Reaches reg (Catalog.session d database) step ⟨out, m.start c⟩ b →
          ¬ m.Circles reg b.progress := by
  unfold Returns migrate
  cases ho : order reg discover refs with
  | error e => simp
  | ok out =>
    have hends : m.Ends reg (Catalog.session d database) step ⟨out, m.start c⟩ ↔ _ := ends_iff
    rw [ends_iff_of_empty rfl] at hends
    refine Iff.trans ?_ (hends.trans ⟨fun h out' ho' => ?_, fun h => h out rfl⟩)
    · simp only [Option.map_eq_some_iff]
      exact ⟨fun ⟨n, _, r, hr, _⟩ => ⟨n, r, hr⟩, fun ⟨n, r, hr⟩ => ⟨n, _, r, hr, rfl⟩⟩
    · cases ho'
      exact h

/-! ## Join tables that come to an end -/

/-- The models that are left are ordered, and the join tables that wait are those that ordered
models lead to. -/
structure OnTheWay (reg : Registry) (out : List ResolvedModel) (b : Stage Catalog) : Prop where
  models : b.models ⊆ out
  waiting : ∀ s flag, .joinTable s flag ∈ b.progress.queue.tasks → ∀ j, reg.describe s = .ok j →
    Joined reg out j

/-- The step for a model schedules join tables of this model at most. -/
def SchedulesOwn (step : ResolvedModel → Work Catalog Unit) : Prop :=
  ∀ model p q, step model p = .ok () q → ∀ s flag, .joinTable s flag ∈ q.queue.tasks →
    .joinTable s flag ∈ p.queue.tasks ∨ ∃ a, model = .model a ∧ s ∈ a.joinTables

theorem createStep_schedulesOwn (m : Migrator) (d : Dialect) (database : String) :
    SchedulesOwn (m.createStep (Catalog.session d database)) := by
  intro model p q hstep s flag hs
  obtain ⟨a, rfl, hcreate⟩ := createStep_ok hstep
  exact (createModel_joinTables hcreate hs).imp_right fun hsa => ⟨a, rfl, hsa.2⟩

theorem updateStep_schedulesOwn (m : Migrator) (d : Dialect) (database : String) :
    SchedulesOwn (m.updateStep (Catalog.session d database)) := by
  intro model p q hstep s flag hs
  cases model with
  | table name =>
    obtain ⟨-, rfl⟩ := updateStep_table hstep
    exact Or.inl hs
  | model a => exact ((updateStep_ok hstep).tasks hs).imp_right fun hsa => ⟨a, rfl, hsa⟩

/-- A task schedules the join tables of its join model at most. -/
theorem attempt_joins {t : Task} {s : Source} {flag : Bool}
    (hs : .joinTable s flag ∈ (m.attempt reg (Catalog.session d database) t p).queue.tasks) :
    .joinTable s flag ∈ p.queue.tasks ∨ ∃ source old j, t = .joinTable source old ∧
      reg.describe source = .ok j ∧ s ∈ j.joinTables := by
  cases t with
  | createIndex table i =>
    rw [(attempt_createIndex_tasks m reg d database p table i).1] at hs
    exact Or.inl hs
  | joinTable source old =>
    cases hj : reg.describe source with
    | error e =>
      obtain ⟨f, hf⟩ := attempt_undescribed m d database p old hj
      rw [hf] at hs
      exact Or.inl hs
    | ok j =>
      obtain ⟨-, more, hmore, hleft⟩ :=
        attempt_joinTable hj (rfl : m.attempt _ _ (.joinTable source old) p = _)
      rw [hmore, List.mem_append] at hs
      rcases hs with hs | hs
      · exact Or.inl hs
      · rcases hleft _ hs with ⟨_, _, heq⟩ | ⟨_, hsj, _, heq, -⟩
        · cases heq
        · cases heq
          exact Or.inr ⟨source, old, j, rfl, hj, hsj⟩

theorem OnTheWay.next {step : ResolvedModel → Work Catalog Unit} {out : List ResolvedModel}
    (hown : SchedulesOwn step) {a b : Stage Catalog} (h : OnTheWay reg out a)
    (hab : m.Next reg (Catalog.session d database) step a b) : OnTheWay reg out b := by
  cases hab with
  | @task models p t rest hp =>
    refine ⟨h.models, fun s flag hs j hj => ?_⟩
    have hrest : ∀ s flag, .joinTable s flag ∈ rest.tasks → .joinTable s flag ∈ p.queue.tasks :=
      fun s flag hs => hp ▸ List.mem_cons_of_mem t hs
    rcases attempt_joins hs with hs | ⟨source, old, k, rfl, hk, hsk⟩
    · exact h.waiting s flag (hrest s flag hs) j hj
    · exact Joined.step (Or.inr (h.waiting source old (hp ▸ List.mem_cons_self) k hk)) ⟨s, hsk, hj⟩
  | @step model models p q hp hstep =>
    refine ⟨fun x hx => h.models (List.mem_cons_of_mem model hx), fun s flag hs j hj => ?_⟩
    rcases hown model p q hstep s flag hs with hs | ⟨a, rfl, hsa⟩
    · exact h.waiting s flag hs j hj
    · exact Joined.step (Or.inl (h.models List.mem_cons_self)) ⟨s, hsa, hj⟩
  | stop _ _ => exact ⟨List.nil_subset out, fun _ _ hs => absurd hs List.not_mem_nil⟩

/-- Where the join tables come to an end, nothing goes round. -/
theorem OnTheWay.not_circles {out : List ResolvedModel} {b : Stage Catalog}
    (h : OnTheWay reg out b) (hend : JoinsEnd reg out) : ¬ m.Circles reg b.progress := by
  rintro ⟨s, flag, j, hs, hj, y, hjy, hyy⟩
  have hjoins : ∀ x y, m.PassesOn reg b.progress.session x y → Joins reg x.1 y.1 :=
    fun _ _ hxy => hxy.2
  exact hend y.1 ((h.waiting s flag hs j hj).trans (hjy.lift Prod.fst hjoins))
    (hyy.lift Prod.fst hjoins)

theorem migrate_of_joinsEnd {discover : Bool} {step : ResolvedModel → Work Catalog Unit}
    {refs : List ModelRef} (hown : SchedulesOwn step)
    (hend : ∀ out, order reg discover refs = .ok out → JoinsEnd reg out) :
    Returns fun n => m.migrate reg (Catalog.session d database) n discover step refs c := by
  refine migrate_ends_iff.mpr fun out ho b hb => ?_
  have hway : OnTheWay reg out b := by
    induction hb with
    | refl => exact ⟨List.Subset.refl out, fun _ _ hs => absurd hs List.not_mem_nil⟩
    | tail _ hnext ih => exact ih.next hown hnext
  exact hway.not_circles (hend out ho)

/-! ## Creating tables in earnest -/

/-- A real run over models that are created ends, whatever the join tables lead to. -/
theorem forEachModel_creates (reg : Registry) (d : Dialect) (database : String)
    (hreal : m.config.dryRun = false) (models : List ResolvedModel) :
    ∀ {p : Progress Catalog}, p.queue.tasks = [] →
      ∃ n r, m.forEachModel reg (Catalog.session d database) n
        (m.createStep (Catalog.session d database)) models p = some r := by
  induction models with
  | nil => exact fun _ => ⟨0, _, rfl⟩
  | cons model models ih =>
    intro p hp
    cases hstep : m.createStep (Catalog.session d database) model p with
    | error e q => exact ⟨0, .error e q, by rw [forEachModel, hstep]⟩
    | ok _ q =>
      have hleave : LeavesExisting q := by
        obtain ⟨a, rfl, hcreate⟩ := createStep_ok hstep
        intro s flag hs
        rcases createModel_joinTables hcreate hs with hs | ⟨rfl, -⟩
        · rw [hp] at hs
          exact absurd hs List.not_mem_nil
        · rfl
      obtain ⟨n, u, hu⟩ := drain_ends reg d database hreal _ _ rfl rfl hleave
      obtain ⟨k, r, hr⟩ := ih (drain_empty n hu)
      exact ⟨max n k, r, forEachModel_of_cons hstep hu hr⟩

/-! ## The theorem -/

/-- **Runs that return.**  `createTables` and `autoMigrate` return, in a real run or a dry one,
exactly if they meet no stage at which a task waits from which the work is passed on into a round:
to a join table that leads back to itself, by tables that are there with all that they declare or,
in a dry run, by what can be planned.

So a real run of `createTables` returns always, and both return in any case where no join table that
the ordered models lead to leads back to itself. -/
theorem migrate_returns (m : Migrator) (reg : Registry) (d : Dialect) (database : String)
    (refs : List ModelRef) (c : Catalog) :
    (Returns (fun n => m.createTables reg (Catalog.session d database) n refs c) ↔
      ∀ out, order reg false refs = .ok out → ∀ b,
        m.Reaches reg (Catalog.session d database) (m.createStep (Catalog.session d database))
          ⟨out, m.start c⟩ b → ¬ m.Circles reg b.progress) ∧
    (Returns (fun n => m.autoMigrate reg (Catalog.session d database) n refs c) ↔
      ∀ out, order reg true refs = .ok out → ∀ b,
        m.Reaches reg (Catalog.session d database) (m.updateStep (Catalog.session d database))
          ⟨out, m.start c⟩ b → ¬ m.Circles reg b.progress) ∧
    (m.config.dryRun = false →
      Returns fun n => m.createTables reg (Catalog.session d database) n refs c) ∧
    ((∀ out, order reg false refs = .ok out → JoinsEnd reg out) →
      Returns fun n => m.createTables reg (Catalog.session d database) n refs c) ∧
    ((∀ out, order reg true refs = .ok out → JoinsEnd reg out) →
      Returns fun n => m.autoMigrate reg (Catalog.session d database) n refs c) := by
  refine ⟨migrate_ends_iff, migrate_ends_iff, fun hreal => ?_,
    fun hend => migrate_of_joinsEnd (createStep_schedulesOwn m d database) hend,
    fun hend => migrate_of_joinsEnd (updateStep_schedulesOwn m d database) hend⟩
  unfold Returns createTables migrate
  cases ho : order reg false refs with
  | error e => exact ⟨0, _, rfl⟩
  | ok out =>
    obtain ⟨n, r, hr⟩ := forEachModel_creates reg d database hreal out (p := m.start c) rfl
    exact ⟨n, conclude r, Option.map_eq_some_iff.mpr ⟨r, hr, rfl⟩⟩

/-- The join table of the speakers has none itself, so that dry runs return as well. -/
theorem migrate_returns_speakers :
    (Returns fun n => plainMigrator.planning.createTables spokenRegistry
        (Catalog.session Mysql.dialect "app") n [.model languages, .model speakers] {}) ∧
      Returns fun n => plainMigrator.planning.autoMigrate spokenRegistry
        (Catalog.session Mysql.dialect "app") n [.model languages, .model speakers] {} := by
  have hend : JoinsEnd spokenRegistry [.model languages, .model speakers] := by
    intro j hj hround
    obtain rfl := eq_spoken_of_joined hj
    obtain ⟨k, hfirst, -⟩ := TransGen.head'_iff.mp hround
    have heq := (eq_spoken_of_joins (by simp) hfirst).1
    exact absurd (congrArg Model.table heq) (by decide)
  obtain ⟨-, -, -, hcreate, hupdate⟩ := migrate_returns plainMigrator.planning spokenRegistry
    Mysql.dialect "app" [.model languages, .model speakers] {}
  refine ⟨hcreate fun out ho => ?_, hupdate fun out ho => ?_⟩
  · cases order_created.symm.trans ho
    exact hend
  · cases order_speakers.symm.trans ho
    exact hend

/-! ## Words that tell how words are related -/

/-- Words, some of which tell how two others are related: the join table is the table itself. -/
def words : Model where
  table := "words"
  columns := [idColumn "id" true]
  relationships := [
    { name := "Related", kind := .manyToMany, targetTable := "words",
      joinTable := some ⟨"words", 0⟩ }]

/-- The registry that describes the words. -/
def wordRegistry : Registry := ⟨#[.ok words]⟩

/-- The words are there. -/
def worded : Catalog := ⟨[("words", { columns := ["id"] })]⟩

/-- A run does not return if the work behind its first model goes round. -/
theorem migrate_endless {discover : Bool} {step : ResolvedModel → Work Catalog Unit}
    {refs : List ModelRef} {model : ResolvedModel} {models : List ResolvedModel}
    (ho : order reg discover refs = .ok (model :: models))
    (hstep : step model (m.start c) = .ok () q) (h : m.Circles reg q) (n : Nat) :
    m.migrate reg (Catalog.session d database) n discover step refs c = none := by
  unfold migrate
  rw [ho]
  dsimp only
  rw [forEachModel, hstep]
  dsimp only
  rw [h.drain n]
  rfl

/-- Whatever the allowance, neither an update of the words, which are there with all that they
declare, nor a dry run that creates them returns. -/
theorem migrate_endless_words :
    words.IsBuilt ∧
      (∀ n, plainMigrator.autoMigrate wordRegistry (Catalog.session Mysql.dialect "app") n
        [.model words] worded = none) ∧
      ∀ n, plainMigrator.planning.createTables wordRegistry (Catalog.session Mysql.dialect "app") n
        [.model words] {} = none := by
  have hjoins : Joins wordRegistry words words := ⟨_, List.mem_singleton_self _, rfl⟩
  refine ⟨⟨words, rfl⟩, fun n => ?_, fun n => ?_⟩
  · have ho : order wordRegistry true [.model words] = .ok [.model words] := by
      with_unfolding_all rfl
    have hconforms : worded.Conforms {} words := by
      unfold Catalog.Conforms
      decide
    refine migrate_endless ho (q := { plainMigrator.start worded with
      queue := ⟨[.joinTable ⟨"words", 0⟩ true]⟩ }) (by with_unfolding_all rfl) ?_ n
    have hround : plainMigrator.PassesOn wordRegistry worded (words, true) (words, true) :=
      ⟨.of_conforms hconforms, hjoins⟩
    exact ⟨_, true, words, List.mem_singleton_self _, rfl, _, ReflTransGen.refl,
      TransGen.single hround⟩
  · have ho : order wordRegistry false [.model words] = .ok [.model words] := by
      with_unfolding_all rfl
    obtain ⟨plan, hplan⟩ : ∃ plan, words.plan Mysql.dialect { dryRun := true } = .ok plan :=
      ⟨_, by with_unfolding_all rfl⟩
    obtain ⟨q, hq⟩ : ∃ q, plainMigrator.planning.createModel (Catalog.session Mysql.dialect "app")
        words (plainMigrator.planning.start {}) = .ok () q := ⟨_, by with_unfolding_all rfl⟩
    obtain ⟨_, -, hc, hqueue⟩ := createModel_performed hq
    have hsame : {} = q.session := Except.ok.inj hc
    refine migrate_endless ho (show plainMigrator.planning.createStep _ (.model words) _ = _ from hq)
      ?_ n
    have hround : plainMigrator.planning.PassesOn wordRegistry q.session (words, false)
        (words, false) := ⟨hsame ▸ .missing rfl rfl hplan, hjoins⟩
    refine ⟨⟨"words", 0⟩, false, words, ?_, rfl, _, ReflTransGen.refl, TransGen.single hround⟩
    rw [hqueue]
    exact List.mem_append_right _ (Model.joinTable_mem_laterTasks.mpr
      ⟨rfl, List.mem_singleton_self _⟩)

end Migrator

end SchemaMigration
