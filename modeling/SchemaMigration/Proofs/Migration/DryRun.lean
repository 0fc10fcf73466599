import SchemaMigration.Proofs.Migration.JoinDiscovery
import SchemaMigration.Proofs.Migration.Recorded
import SchemaMigration.Proofs.Migration.Visits
import SchemaMigration.Proofs.Order.Result

/-!
# A dry run as the plan of a real one

A dry run reads the catalog as it is before the run, and so it can plan only what does not depend on
what it plans.  As `Lockstep` shows, it is the plan of the real run exactly as long as the real run
asks for nothing that it has made (`autoMigrate_dryRun`).

This cannot happen on the way through the order, where each table has its turn once, but it can
happen with join tables.  One that two relationships name is created when its first turn comes, and
found when its second comes; a dry run plans to create it twice (`autoMigrate_dryRun_twice`).  So
join tables have to be apart (`JoinsApart`): each of them is settled from the start, or it has one
turn and no more.

> `Ahead`: what was added belongs to the tables that were visited, and what is still to be visited
> is settled or not among them.

It is kept by each visit to a table, and with it the history asks anew.
-/

namespace SchemaMigration

/-- The relationship of model `a` that comes as number `i` of those with join tables has the join
model `j`. -/
def NamesAt (reg : Registry) (a : Model) (i : Nat) (j : Model) : Prop :=
  ∃ s, a.joinTables[i]? = some s ∧ reg.describe s = .ok j

/-- A join table that is not settled from the start is named by one relationship only, and its table
is not that of an ordered model. -/
structure JoinsApart (reg : Registry) (config : Config) (c : Catalog) (out : List ResolvedModel) :
    Prop where
  unlisted : ∀ j, Joined reg out j →
    Settled reg config c j ∨ ∀ a, .model a ∈ out → a.table ≠ j.table
  once : ∀ a b i k x y, Involved reg out a → Involved reg out b → NamesAt reg a i x →
    NamesAt reg b k y → x.table = y.table → Settled reg config c x ∨ a = b ∧ i = k

/-- Two relationships, if they are not the same, name join tables that differ, or a settled one. -/
theorem JoinsApart.tables_ne {reg : Registry} {config : Config} {c : Catalog}
    {out : List ResolvedModel} (h : JoinsApart reg config c out) {a b j l : Model} {i k : Nat}
    (ha : Involved reg out a) (hb : Involved reg out b) (hj : NamesAt reg a i j)
    (hl : NamesAt reg b k l) (hne : a = b → i ≠ k) :
    Settled reg config c j ∨ j.table ≠ l.table := by
  by_cases htable : j.table = l.table
  · rcases h.once a b i k j l ha hb hj hl htable with hset | ⟨hab, hik⟩
    · exact Or.inl hset
    · exact absurd hik (hne hab)
  · exact Or.inr htable

/-- Behind a model there are only models in the order, with other tables. -/
def OrderedApart (out : List ResolvedModel) : Prop :=
  out.Pairwise fun x y => ∀ a, x = .model a → ∃ b, y = .model b ∧ b.table ≠ a.table

theorem orderedApart_of_order {reg : Registry} {discover : Bool} {refs : List ModelRef}
    {out : List ResolvedModel} (h : order reg discover refs = .ok out) : OrderedApart out := by
  obtain ⟨w, hw, rfl⟩ := order_ok h
  obtain ⟨_, hinv⟩ := hw.inv
  have hplaced : w.placed.Pairwise fun a b => a.table ≠ b.table :=
    List.pairwise_map.mp hinv.placedOnce
  refine List.pairwise_append.mpr ⟨?_, ?_, fun x hx y _ a ha => ?_⟩
  · refine List.pairwise_map.mpr (List.pairwise_of_forall_mem_list fun n _ k _ a ha => ?_)
    cases ha
  · refine List.pairwise_map.mpr (hplaced.imp fun {a b} hab a' ha => ?_)
    cases ha
    exact ⟨b, rfl, hab.symm⟩
  · subst ha
    obtain ⟨n, -, hn⟩ := List.mem_map.mp hx
    cases hn

namespace Migrator

open SchemaMigration.Action (bind_ok)

variable {m : Migrator} {reg : Registry} {d : Dialect} {database : String}
variable {c : Catalog} {out : List ResolvedModel}
variable {P P' : Progress (Catalog × List Exchange)} {Q : Progress Catalog}

/-- A visited model is ordered, or a visited model names it. -/
structure Visited (reg : Registry) (out : List ResolvedModel) (seen : List Model) (a : Model) :
    Prop where
  involved : Involved reg out a
  origin : .model a ∈ out ∨ ∃ b ∈ seen, ∃ i, NamesAt reg b i a

/-- The state of a run that has visited the tables of some models and has others ahead. -/
structure Ahead (reg : Registry) (config : Config) (c : Catalog) (out : List ResolvedModel)
    (seen : List Model) (rest : List ResolvedModel) (P : Progress (Catalog × List Exchange)) :
    Prop where
  visited : ∀ a ∈ seen, Visited reg out seen a
  made : ∀ change ∈ changesOf P.session.2, ∀ t p, change.Adds t p → ∃ a ∈ seen, a.table = t
  indexes : ∀ t i, .createIndex t i ∈ P.queue.tasks → ∃ a ∈ seen, a.table = t
  waiting : ∀ s ∈ sourcesOf P.queue.tasks, ∀ j, reg.describe s = .ok j → Joined reg out j ∧
    (Settled reg config c j ∨
      (∃ a ∈ seen, ∃ i, NamesAt reg a i j) ∧ ∀ a ∈ seen, a.table ≠ j.table)
  apart : (sourcesOf P.queue.tasks).Pairwise fun s t => ∀ j k, reg.describe s = .ok j →
    reg.describe t = .ok k → Settled reg config c j ∨ Settled reg config c k ∨ j.table ≠ k.table
  rest : ∀ x ∈ rest, ∀ a ∈ seen, ∃ b, x = .model b ∧ b.table ≠ a.table

theorem ahead_start (m : Migrator) (reg : Registry) (c : Catalog) (out : List ResolvedModel) :
    Ahead reg m.config c out [] out (m.start (c, [])) where
  visited := by simp
  made := by simp [start, changesOf]
  indexes := by simp [start]
  waiting := by simp [start, sourcesOf]
  apart := List.Pairwise.nil
  rest := by simp

section

variable {config : Config} {seen : List Model} {rest : List ResolvedModel} {x : Model}
variable {more : List Exchange} {tasks : List Task}

theorem changesOf_visit (h : Visit config x more tasks P P') :
    changesOf P'.session.2 = changesOf P.session.2 ++ changesOf more := by
  rw [h.history, changesOf_append]

theorem sourcesOf_visit (h : Visit config x more tasks P P') :
    sourcesOf P'.queue.tasks = sourcesOf P.queue.tasks ++ sourcesOf tasks := by
  rw [h.queue, sourcesOf_append]

/-- Taking the first task leaves the others ahead. -/
theorem Ahead.take {t : Task} {queue : TaskQueue} (h : Ahead reg config c out seen rest P)
    (hp : P.queue.tasks = t :: queue.tasks) :
    Ahead reg config c out seen rest { P with queue } := by
  have hsub : (sourcesOf queue.tasks).Sublist (sourcesOf P.queue.tasks) := by
    rw [hp]
    exact (List.sublist_cons_self t queue.tasks).filterMap _
  refine ⟨h.visited, h.made, fun u i hi => h.indexes u i ?_,
    fun s hs => h.waiting s (hsub.subset hs), h.apart.sublist hsub, h.rest⟩
  rw [hp]
  exact List.mem_cons_of_mem t hi

/-- A visit that adds nothing, to the table of a settled model, changes nothing of what is ahead. -/
theorem Ahead.pass (h : Ahead reg config c out seen rest P) (hinvolved : Involved reg out x)
    (hx : Settled reg config c x) (hv : Visit config x more tasks P P')
    (hquiet : changesOf more = []) :
    Ahead reg config c out seen rest P' := by
  -- The join tables of a settled model are settled.
  have hnew : ∀ s ∈ sourcesOf tasks, ∀ j, reg.describe s = .ok j → Settled reg config c j := by
    intro s hs j hj
    obtain ⟨k, hk, hset⟩ := (settled_iff.mp hx).2 s (hv.joins.subset hs)
    cases hj.symm.trans hk
    exact hset
  refine ⟨h.visited, ?_, fun t i hi => ?_, ?_, ?_, h.rest⟩
  · rw [changesOf_visit hv, hquiet, List.append_nil]
    exact h.made
  · rw [hv.queue, List.mem_append] at hi
    exact hi.elim (h.indexes t i) fun hi => absurd hquiet (hv.indexes t i hi).2
  · rw [sourcesOf_visit hv]
    intro s hs j hj
    rcases List.mem_append.mp hs with hs | hs
    · exact h.waiting s hs j hj
    · exact ⟨Joined.step hinvolved ⟨s, hv.joins.subset hs, hj⟩, Or.inl (hnew s hs j hj)⟩
  · rw [sourcesOf_visit hv]
    refine List.pairwise_append.mpr ⟨h.apart, ?_, fun s _ t ht j k _ hk => ?_⟩
    · exact List.pairwise_of_forall_mem_list fun s hs t _ j k hj _ => Or.inl (hnew s hs j hj)
    · exact Or.inr (Or.inl (hnew t ht k hk))

/-- Nothing was added to a table that is not among the visited ones. -/
theorem Ahead.none_made (h : Ahead reg config c out seen rest P)
    (hfresh : ∀ a ∈ seen, a.table ≠ x.table) :
    ∀ change ∈ changesOf P.session.2, ∀ p ∈ x.parts config, ¬ change.Adds x.table p := by
  intro change hchange p _ hadds
  obtain ⟨a, ha, hax⟩ := h.made change hchange x.table p hadds
  exact hfresh a ha hax

/-- The join tables that a visit schedules are named by its model. -/
theorem exists_namesAt (hv : Visit config x more tasks P P') {s : Source}
    (hs : s ∈ sourcesOf tasks) {j : Model} (hj : reg.describe s = .ok j) :
    ∃ i, NamesAt reg x i j := by
  obtain ⟨i, hi⟩ := List.mem_iff_getElem?.mp (hv.joins.subset hs)
  exact ⟨i, s, hi, hj⟩

section

variable (hapart : JoinsApart reg config c out) (h : Ahead reg config c out seen rest P)
variable (hx : Visited reg out seen x) (hfresh : ∀ a ∈ seen, a.table ≠ x.table)

include hapart h hx hfresh

/-- The join tables that a model names, when it is visited for the first time, are not among the
visited ones. -/
theorem fresh_of_named {i : Nat} {j : Model} (hj : NamesAt reg x i j)
    (hjoined : Joined reg out j) : Settled reg config c j ∨ ∀ a ∈ x :: seen, a.table ≠ j.table := by
  refine or_iff_not_imp_left.mpr fun hopen a ha htable => ?_
  have ha' : Visited reg out seen a := by
    rcases List.mem_cons.mp ha with rfl | ha
    · exact hx
    · exact h.visited a ha
  rcases ha'.origin with hout | ⟨b, hb, k, hk⟩
  · exact (hapart.unlisted j hjoined).resolve_left hopen a hout htable
  · -- The model that names it would be `x`, which has not been visited.
    have hxb : x = b → i ≠ k := fun heq => absurd (heq ▸ rfl) (hfresh b hb)
    have hne := hapart.tables_ne hx.involved (h.visited b hb).involved hj hk hxb
    exact hne.resolve_left hopen htable.symm

/-- After the first visit to a table, the join tables that wait are settled or not among the visited
ones. -/
theorem enter_waiting (hwaiting : ∀ s ∈ sourcesOf P.queue.tasks, ∀ j, reg.describe s = .ok j →
      Settled reg config c j ∨ x.table ≠ j.table) (hv : Visit config x more tasks P P') :
    ∀ s ∈ sourcesOf P'.queue.tasks, ∀ j, reg.describe s = .ok j → Joined reg out j ∧
      (Settled reg config c j ∨
        (∃ a ∈ x :: seen, ∃ i, NamesAt reg a i j) ∧ ∀ a ∈ x :: seen, a.table ≠ j.table) := by
  rw [sourcesOf_visit hv]
  intro s hs j hj
  rcases List.mem_append.mp hs with hs | hs
  · obtain ⟨hjoined, hset | ⟨⟨a, ha, hnames⟩, hnew⟩⟩ := h.waiting s hs j hj
    · exact ⟨hjoined, Or.inl hset⟩
    · refine ⟨hjoined, (hwaiting s hs j hj).imp_right fun hxj => ?_⟩
      exact ⟨⟨a, List.mem_cons_of_mem x ha, hnames⟩, List.forall_mem_cons.mpr ⟨hxj, hnew⟩⟩
  · obtain ⟨i, hi⟩ := exists_namesAt hv hs hj
    have hjoined := Joined.step hx.involved ⟨s, hv.joins.subset hs, hj⟩
    refine ⟨hjoined, (fresh_of_named hapart h hx hfresh hi hjoined).imp_right fun hnew => ?_⟩
    exact ⟨⟨x, List.mem_cons_self, i, hi⟩, hnew⟩

/-- After the first visit to a table, the join tables that wait are apart. -/
theorem enter_apart (hv : Visit config x more tasks P P') :
    (sourcesOf P'.queue.tasks).Pairwise fun s t => ∀ j k, reg.describe s = .ok j →
      reg.describe t = .ok k →
        Settled reg config c j ∨ Settled reg config c k ∨ j.table ≠ k.table := by
  rw [sourcesOf_visit hv]
  refine List.pairwise_append.mpr ⟨h.apart, ?_, fun s hs t ht j k hj hk => ?_⟩
  · -- Two join tables of one model come under different numbers.
    refine List.Pairwise.sublist hv.joins (List.pairwise_iff_getElem.mpr
      fun i i' hi hi' hlt j k hj hk => ?_)
    have hne := hapart.tables_ne hx.involved hx.involved
      ⟨_, List.getElem?_eq_getElem hi, hj⟩ ⟨_, List.getElem?_eq_getElem hi', hk⟩ fun _ => by omega
    exact hne.imp_right Or.inr
  · -- What waited is named by a visited model, and not by this one.
    obtain ⟨-, hset | ⟨⟨a, ha, i, hi⟩, -⟩⟩ := h.waiting s hs j hj
    · exact Or.inl hset
    · obtain ⟨i', hi'⟩ := exists_namesAt hv ht hk
      have hax : a = x → i ≠ i' := fun heq => absurd (heq ▸ rfl) (hfresh a ha)
      exact (hapart.tables_ne (h.visited a ha).involved hx.involved hi hi' hax).imp_right Or.inr

/-- The first visit to a table puts its model among the visited ones. -/
theorem Ahead.enter (hwaiting : ∀ s ∈ sourcesOf P.queue.tasks, ∀ j, reg.describe s = .ok j →
      Settled reg config c j ∨ x.table ≠ j.table)
    (hrest : ∀ y ∈ rest, ∃ b, y = .model b ∧ b.table ≠ x.table)
    (hv : Visit config x more tasks P P') : Ahead reg config c out (x :: seen) rest P' := by
  refine ⟨fun a ha => ?_, fun change hchange t p hadds => ?_, fun t i hi => ?_,
    enter_waiting hapart h hx hfresh hwaiting hv, enter_apart hapart h hx hfresh hv,
    fun y hy a ha => ?_⟩
  · have ha' : Visited reg out seen a := by
      rcases List.mem_cons.mp ha with rfl | ha
      · exact hx
      · exact h.visited a ha
    exact ⟨ha'.involved, ha'.origin.imp_right fun ⟨b, hb, hk⟩ => ⟨b, List.mem_cons_of_mem x hb, hk⟩⟩
  · rw [changesOf_visit hv, List.mem_append] at hchange
    rcases hchange with hchange | hchange
    · obtain ⟨a, ha, hat⟩ := h.made change hchange t p hadds
      exact ⟨a, List.mem_cons_of_mem x ha, hat⟩
    · exact ⟨x, List.mem_cons_self, (hv.concerns.only change hchange t p hadds).symm⟩
  · rw [hv.queue, List.mem_append] at hi
    rcases hi with hi | hi
    · obtain ⟨a, ha, hat⟩ := h.indexes t i hi
      exact ⟨a, List.mem_cons_of_mem x ha, hat⟩
    · exact ⟨x, List.mem_cons_self, (hv.indexes t i hi).1.symm⟩
  · rcases List.mem_cons.mp ha with rfl | ha
    · exact hrest y hy
    · exact h.rest y hy a ha

end

end

/-! ## Steps -/

/-- A visit asks for nothing that was made if none of the parts of its model was. -/
theorem InStep.visit {α : Type} {x : Model} {more : List Exchange} {tasks : List Task} {y : α}
    {a : Work (Catalog × List Exchange) α} {b : Work Catalog α} (h : InStep m.dialect c P Q)
    (hmirrors : Mirrors m.dialect c a b) (hrun : a P = .ok y P')
    (hv : Visit m.config x more tasks P P')
    (hnone : ∀ change ∈ changesOf P.session.2, ∀ p ∈ x.parts m.config, ¬ change.Adds x.table p) :
    ∃ Q', InStep m.dialect c P' Q' := by
  have hanew : AsksAnew P'.session.2 := by
    rw [hv.history]
    refine asksAnew_append.mpr ⟨h.anew, hv.concerns.anew, fun change hc y hy t named p hquery => ?_⟩
    obtain ⟨rfl, hp⟩ := hv.concerns.asks y hy t named p hquery
    exact hnone change hc p hp
  rcases hmirrors.follows P Q y P' h hrun with ⟨Q', -, hstep⟩ | ⟨hold, -⟩
  · exact ⟨Q', hstep⟩
  · exact absurd hanew hold

/-- Nothing that a settled model declares was made. -/
theorem InStep.none_of_settled (h : InStep m.dialect c P Q) {x : Model}
    (hx : Settled reg m.config c x) :
    ∀ change ∈ changesOf P.session.2, ∀ p ∈ x.parts m.config, ¬ change.Adds x.table p := by
  intro change hc p hp hadds
  have hthere := hx.conforms x Relation.ReflTransGen.refl p hp
  rw [h.new change hc x.table p hadds] at hthere
  cases hthere

/-- A visit to the table of a settled model adds nothing. -/
theorem InStep.quiet (h : InStep m.dialect c P' Q) {x : Model} (hx : Settled reg m.config c x)
    {more : List Exchange} {tasks : List Task} (hv : Visit m.config x more tasks P P') :
    changesOf more = [] := by
  refine List.eq_nil_iff_forall_not_mem.mpr fun change hchange => ?_
  obtain ⟨p, hpart, hadds⟩ := hv.concerns.adds change hchange
  refine h.none_of_settled hx change ?_ p hpart hadds
  rw [changesOf_visit hv]
  exact List.mem_append_right _ hchange

/-- The run is in step with a planned one, and has the rest ahead of it. -/
def OnCourse (m : Migrator) (reg : Registry) (c : Catalog) (out rest : List ResolvedModel)
    (P : Progress (Catalog × List Exchange)) : Prop :=
  ∃ seen Q, InStep m.dialect c P Q ∧ Ahead reg m.config c out seen rest P

section

variable {rest : List ResolvedModel}
variable (hreal : m.config.dryRun = false) (hbuilt : ∀ a, Involved reg out a → a.IsBuilt)
variable (hapart : JoinsApart reg m.config c out)

include hreal hbuilt hapart

/-- The task for a join table keeps the run on course. -/
theorem joinTable_onCourse {source : Source} {flag : Bool} {queue : TaskQueue}
    (hrest : ∀ y ∈ rest, y ∈ out) (h : OnCourse m reg c out rest P)
    (hp : P.queue.tasks = .joinTable source flag :: queue.tasks)
    (hrun : m.runTask reg (Catalog.session d database).recorded (.joinTable source flag)
      { P with queue } = .ok () P') : OnCourse m reg c out rest P' := by
  obtain ⟨seen, Q, hstep, hahead⟩ := h
  have hsource : source ∈ sourcesOf P.queue.tasks := by simp [hp, sourcesOf]
  obtain ⟨j, more, tasks, hj, hv⟩ := joinTable_visit hreal (fun j hj =>
    hbuilt j (Or.inr (hahead.waiting source hsource j hj).1)) hrun
  obtain ⟨hjoined, hwait⟩ := hahead.waiting source hsource j hj
  have hmirrors : Mirrors m.dialect c (m.runTask reg (Catalog.session d database).recorded _)
      (m.planning.runTask reg (Catalog.session d database) _) :=
    Mirrors.runTask hreal reg (.joinTable source flag)
  have htaken := hahead.take hp
  by_cases hset : Settled reg m.config c j
  · obtain ⟨Q', hstep'⟩ := (hstep.take queue).visit hmirrors hrun hv (hstep.none_of_settled hset)
    exact ⟨seen, Q', hstep', htaken.pass (Or.inr hjoined) hset hv (hstep'.quiet hset hv)⟩
  · obtain ⟨⟨a, ha, i, hi⟩, hfresh⟩ := hwait.resolve_left hset
    obtain ⟨Q', hstep'⟩ := (hstep.take queue).visit hmirrors hrun hv (hahead.none_made hfresh)
    refine ⟨j :: seen, Q', hstep', Ahead.enter hapart htaken
      ⟨Or.inr hjoined, Or.inr ⟨a, ha, i, hi⟩⟩ hfresh (fun s hs k hk => ?_) (fun y hy => ?_) hv⟩
    · -- The first of those that waited is not settled and apart from the others.
      have hsources : sourcesOf P.queue.tasks = source :: sourcesOf queue.tasks := by
        rw [hp]
        rfl
      have hapart' := hahead.apart
      rw [hsources] at hapart'
      exact ((List.pairwise_cons.mp hapart').1 s hs j k hj hk).resolve_left hset
    · obtain ⟨b, rfl, -⟩ := hahead.rest y hy a ha
      exact ⟨b, rfl, (hapart.unlisted j hjoined).resolve_left hset b (hrest _ hy)⟩

omit hapart hbuilt in
/-- The task for an index keeps the run on course: its table was visited. -/
theorem createIndex_onCourse {table : String} {index : Index} {queue : TaskQueue}
    (h : OnCourse m reg c out rest P)
    (hp : P.queue.tasks = .createIndex table index :: queue.tasks)
    (hrun : m.runTask reg (Catalog.session d database).recorded (.createIndex table index)
      { P with queue } = .ok () P') : OnCourse m reg c out rest P' := by
  obtain ⟨seen, Q, hstep, hahead⟩ := h
  have hmirrors : Mirrors m.dialect c (m.runTask reg (Catalog.session d database).recorded _)
      (m.planning.runTask reg (Catalog.session d database) _) :=
    Mirrors.runTask hreal reg (.createIndex table index)
  have htaken := hahead.take hp
  obtain ⟨c', -, rfl⟩ := carryOut_recorded hreal hrun
  rcases hmirrors.follows _ _ _ _ (hstep.take queue) hrun with ⟨Q', -, hstep'⟩ | ⟨hold, -⟩
  · refine ⟨seen, Q', hstep', htaken.visited, fun change hchange t p hadds => ?_, htaken.indexes,
      htaken.waiting, htaken.apart, htaken.rest⟩
    rw [changesOf_append, List.mem_append] at hchange
    rcases hchange with hchange | hchange
    · exact hahead.made change hchange t p hadds
    · cases List.mem_singleton.mp hchange
      obtain ⟨parts, hparts, -⟩ := hadds
      cases hparts
      exact hahead.indexes table index (by simp [hp])
  · exact absurd (hstep.anew.execute _ _) hold

/-- The deferred work keeps the run on course if none of it fails. -/
theorem drain_onCourse {n : Nat} (hrest : ∀ y ∈ rest, y ∈ out) (h : OnCourse m reg c out rest P)
    (hrun : m.drain reg (Catalog.session d database).recorded n P = some P')
    (hclean : P'.report.failures = []) : OnCourse m reg c out rest P' := by
  refine drain_inv (I := OnCourse m reg c out rest) hclean (fun t p queue q hp h hq => ?_) n hrun h
  cases t with
  | createIndex table index => exact createIndex_onCourse hreal h hp hq
  | joinTable source flag => exact joinTable_onCourse hreal hbuilt hapart hrest h hp hq

/-- The step for the first model that is left keeps the run on course. -/
theorem updateStep_onCourse {x : ResolvedModel} (hx : x ∈ out)
    (hfirst : ∀ y ∈ rest, ∀ a, x = .model a → ∃ b, y = .model b ∧ b.table ≠ a.table)
    (h : OnCourse m reg c out (x :: rest) P) (hp : P.queue.tasks = [])
    (hrun : m.updateStep (Catalog.session d database).recorded x P = .ok () P') :
    OnCourse m reg c out rest P' := by
  obtain ⟨seen, Q, hstep, hahead⟩ := h
  have hlater : Ahead reg m.config c out seen rest P :=
    ⟨hahead.visited, hahead.made, hahead.indexes, hahead.waiting, hahead.apart,
      fun y hy => hahead.rest y (List.mem_cons_of_mem x hy)⟩
  cases x with
  | table name =>
    -- Literal names come first, when nothing has been visited.
    have hnil : seen = [] := List.eq_nil_iff_forall_not_mem.mpr fun a ha => by
      obtain ⟨b, hb, -⟩ := hahead.rest (.table name) List.mem_cons_self a ha
      cases hb
    subst hnil
    obtain ⟨there, P₁, hask, hcheck⟩ := bind_ok.mp hrun
    cases (ask_recorded m d database name .table P).symm.trans hask
    split at hcheck
    · cases hcheck
      refine ⟨[], Q, hstep.asked database fun change hchange hadds => ?_, hlater.visited, ?_,
        hlater.indexes, hlater.waiting, hlater.apart, hlater.rest⟩
      · obtain ⟨a, ha, -⟩ := hahead.made change hchange name .table hadds
        exact absurd ha List.not_mem_nil
      · rw [changesOf_append, changesOf_asked, List.append_nil]
        exact hlater.made
    · cases hcheck
  | model a =>
    obtain ⟨more, tasks, hv⟩ := updateStep_visit hreal (hbuilt a (Or.inl hx)) hrun
    have hfresh : ∀ b ∈ seen, b.table ≠ a.table := by
      intro b hb
      obtain ⟨a', ha', hne⟩ := hahead.rest (.model a) List.mem_cons_self b hb
      cases ha'
      exact hne.symm
    obtain ⟨Q', hstep'⟩ := hstep.visit (Mirrors.updateStep hreal (.model a)) hrun hv
      (hahead.none_made hfresh)
    refine ⟨a :: seen, Q', hstep', Ahead.enter hapart hlater ⟨Or.inl hx, Or.inl hx⟩ hfresh
      (fun s hs => ?_) (fun y hy => hfirst y hy a rfl) hv⟩
    rw [hp] at hs
    exact absurd hs List.not_mem_nil

/-- So does the whole run. -/
theorem forEachModel_onCourse {n : Nat} :
    ∀ {models : List ResolvedModel} {P : Progress (Catalog × List Exchange)},
      (∀ y ∈ models, y ∈ out) → OrderedApart models → OnCourse m reg c out models P →
      P.queue.tasks = [] →
      m.forEachModel reg (Catalog.session d database).recorded n
        (m.updateStep (Catalog.session d database).recorded) models P = some (.ok () P') →
      P'.report.failures = [] → OnCourse m reg c out [] P' := by
  intro models
  induction models with
  | nil =>
    intro P _ _ h _ hrun _
    cases hrun
    exact h
  | cons x models ih =>
    intro P hout hordered h hp hrun hclean
    obtain ⟨P₁, P₂, hstep, hdrain, hrest⟩ := forEachModel_cons hrun
    obtain ⟨hfirst, hordered⟩ := List.pairwise_cons.mp hordered
    have hout' : ∀ y ∈ models, y ∈ out := fun y hy => hout y (List.mem_cons_of_mem x hy)
    have hclean₂ := forEachModel_clean hrest hclean
    have h₁ := updateStep_onCourse hreal hbuilt hapart (hout x List.mem_cons_self) hfirst h hp hstep
    have h₂ := drain_onCourse hreal hbuilt hapart hout' h₁ hdrain hclean₂
    exact ih hout' hordered h₂ (drain_empty n hdrain) hrest hclean

end

/-! ## The theorem -/

/-- **A dry run plans the real run**, as long as the real run asks for nothing that it has made:
then it succeeds without failures and with the same statements.  This is so when the models are
accepted ones and their join tables are apart.  Otherwise a dry run that ends without failures plans
something that it has planned already. -/
theorem autoMigrate_dryRun (m : Migrator) (reg : Registry) (d : Dialect) (database : String)
    (allowance : Nat) (refs : List ModelRef) (c c' : Catalog) (report : Report)
    (hreal : m.config.dryRun = false)
    (hrun : m.autoMigrate reg (Catalog.session d database) allowance refs c =
      some (.ok report c'))
    (hclean : report.failures = []) :
    ∃ history, m.autoMigrate reg (Catalog.session d database).recorded allowance refs (c, []) =
        some (.ok report (c', history)) ∧
      (AsksAnew history →
        m.planning.autoMigrate reg (Catalog.session d database) allowance refs c =
          some (.ok { report with dryRun := true } c)) ∧
      (¬ AsksAnew history → ∀ n plan c'',
        m.planning.autoMigrate reg (Catalog.session d database) n refs c = some (.ok plan c'') →
        plan.failures = [] → Repeats m.dialect (changesOf history) plan.executed) ∧
      ∀ out, order reg true refs = .ok out → (∀ a, Involved reg out a → a.IsBuilt) →
        JoinsApart reg m.config c out → AsksAnew history := by
  obtain ⟨history, hrecorded⟩ := exists_history hrun
  obtain ⟨hsame, hrepeats⟩ := autoMigrate_follows hreal hrecorded hclean
  refine ⟨history, hrecorded, hsame, fun hold n plan c'' hplan hfine => ?_,
    fun out ho hbuilt hapart => ?_⟩
  · exact (hrepeats hold n plan c'' hplan).resolve_left fun hfail => hfail hfine
  · obtain ⟨out', P', ho', hP', rfl, hsession⟩ := autoMigrate_ok.mp hrecorded
    cases ho.symm.trans ho'
    have hstart : OnCourse m reg c out out (m.start (c, [])) :=
      ⟨[], m.planning.start c, inStep_start m c, ahead_start m reg c out⟩
    obtain ⟨_, _, hstep, -⟩ := forEachModel_onCourse hreal hbuilt hapart (fun _ hy => hy)
      (orderedApart_of_order ho) hstart rfl hP' hclean
    have hhistory : P'.session.2 = history := congrArg Prod.snd hsession
    exact hhistory ▸ hstep.anew

/-! ## A join table with one turn, and one with two -/

theorem mem_of_involved {a : Model}
    (ha : Involved spokenRegistry [.model languages, .model speakers] a) :
    a ∈ [languages, speakers, spoken] := by
  rcases ha with ha | ha
  · exact mem_of_ordered ha
  · simp [eq_spoken_of_joined ha]

/-- The speakers are the only ones to name the join table. -/
theorem joinsApart_speakers (c : Catalog) :
    JoinsApart spokenRegistry {} c [.model languages, .model speakers] where
  unlisted j hj := by
    cases eq_spoken_of_joined hj
    refine Or.inr fun a ha => ?_
    rcases List.mem_cons.mp ha with ha | ha
    · cases ha
      decide
    · cases List.mem_singleton.mp ha
      decide
  once a b i k x y ha hb hx hy _ := by
    have hnames : ∀ {a j : Model} {i : Nat},
        Involved spokenRegistry [.model languages, .model speakers] a →
        NamesAt spokenRegistry a i j → a = speakers ∧ i = 0 := by
      intro a j i ha ⟨s, hs, hsj⟩
      obtain ⟨rfl, -⟩ := eq_spoken_of_joins (mem_of_involved ha) ⟨s, List.mem_of_getElem? hs, hsj⟩
      obtain ⟨hi, -⟩ := List.getElem?_eq_some_iff.mp hs
      exact ⟨rfl, Nat.lt_one_iff.mp hi⟩
    obtain ⟨rfl, rfl⟩ := hnames ha hx
    obtain ⟨rfl, rfl⟩ := hnames hb hy
    exact Or.inr ⟨rfl, rfl⟩

theorem isBuilt_of_involved {a : Model}
    (ha : Involved spokenRegistry [.model languages, .model speakers] a) : a.IsBuilt := by
  have hmem := mem_of_involved ha
  simp only [List.mem_cons, List.not_mem_nil, or_false] at hmem
  rcases hmem with rfl | rfl | rfl
  · exact ⟨languages, rfl⟩
  · exact ⟨speakers, rfl⟩
  · exact ⟨spoken, rfl⟩

/-- Where nothing is there, a dry run plans the three tables that a real run creates. -/
theorem autoMigrate_dryRun_speakers :
    migrateSpeakers {} = some (.ok speakersReport speakersAfter) ∧
      plainMigrator.planning.autoMigrate spokenRegistry (Catalog.session Mysql.dialect "app") 1
        [.model languages, .model speakers] {} =
        some (.ok { speakersReport with dryRun := true } {}) := by
  have hrun : migrateSpeakers {} = some (.ok speakersReport speakersAfter) :=
    arrival_eq_some.mp (by decide +kernel)
  obtain ⟨history, -, hsame, -, hanew⟩ :=
    autoMigrate_dryRun plainMigrator spokenRegistry Mysql.dialect "app" 1
      [.model languages, .model speakers] {} speakersAfter speakersReport rfl hrun rfl
  exact ⟨hrun, hsame (hanew _ order_speakers (fun _ => isBuilt_of_involved)
    (joinsApart_speakers {}))⟩

/-- Languages that name the join table from their side. -/
def spokenLanguages : Model :=
  { languages with
    relationships := [
      { name := "Speakers", kind := .manyToMany, targetTable := "speakers",
        joinTable := some ⟨"speaker_languages", 0⟩ }] }

/-- Languages and speakers are there, and the join table is missing. -/
def unspoken : Catalog :=
  ⟨[("languages", { columns := ["id"] }), ("speakers", { columns := ["id"] })]⟩

/-- With a join table that both sides name a real run creates it once, and a dry run plans it
twice. -/
theorem autoMigrate_dryRun_twice :
    (spokenLanguages.IsBuilt ∧ speakers.IsBuilt ∧ spoken.IsBuilt) ∧
      arrival (plainMigrator.autoMigrate spokenRegistry (Catalog.session Mysql.dialect "app") 2
        [.model spokenLanguages, .model speakers] unspoken) =
          some ({ executed := speakersReport.executed.drop 2 }, speakersAfter) ∧
      ∃ plan, arrival (plainMigrator.planning.autoMigrate spokenRegistry
          (Catalog.session Mysql.dialect "app") 2 [.model spokenLanguages, .model speakers]
          unspoken) = some (plan, unspoken) ∧
        plan.failures = [] ∧
        plan.executed = speakersReport.executed.drop 2 ++ speakersReport.executed.drop 2 ∧
        plan.executed ≠ speakersReport.executed.drop 2 := by
  refine ⟨⟨⟨spokenLanguages, rfl⟩, ⟨speakers, rfl⟩, ⟨spoken, rfl⟩⟩, by decide +kernel,
    { executed := speakersReport.executed.drop 2 ++ speakersReport.executed.drop 2,
      dryRun := true }, by decide +kernel, rfl, rfl, fun h => ?_⟩
  exact absurd (congrArg List.length h) (by decide)

end Migrator

end SchemaMigration
