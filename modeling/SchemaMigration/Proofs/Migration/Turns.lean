import SchemaMigration.Proofs.Migration.ExistenceChecks
import SchemaMigration.Proofs.Migration.SideBySide

/-!
# Every waiting task has its turn

The deferred work takes tasks off a queue to which they add more, and goes on when one of them
fails, be it halfway.  Its history is a list of turns, one for each task that was taken
(`TakesTurns`), and the work comes to an end exactly when there is such a list
(`drain_iff_takesTurns`).  What the turns add up to follows from what a single one does: it leaves
the tasks that wait in their places and schedules others behind them (`Turn.Fair.waiting`), and it
leaves the failures of the report alone, its own one excepted, which is noted behind it.  So no task
is lost or taken twice, and no failure is lost or noted twice (`drain_turns`).
-/

namespace SchemaMigration

/-- A turn of a task: the stage on which it is run, when it has been taken off the queue, and how
this ends. -/
structure Turn (σ : Type) where
  task : Task
  before : Progress σ
  outcome : Outcome (Progress σ) Unit

namespace Turn

variable {σ : Type}

/-- The stage that the task leaves behind. -/
def after (turn : Turn σ) : Progress σ := turn.outcome.state

/-- The tasks that were scheduled in the turn. -/
def scheduled (turn : Turn σ) : List Task :=
  turn.after.queue.tasks.drop turn.before.queue.tasks.length

/-- The failure of the task, with its title and the message of the error. -/
def failure? (turn : Turn σ) : Option Failure :=
  match turn.outcome with
  | .ok _ _ => none
  | .error e _ => some ⟨turn.task.title, e.message⟩

/-- The stage with which the work goes on: a failure has been noted. -/
def settled (turn : Turn σ) : Progress σ :=
  { turn.after with
    report := { turn.after.report with
      failures := turn.after.report.failures ++ turn.failure?.toList } }

/-- The turn takes no task and no failure from where it was, and adds tasks behind the others only.
-/
structure Fair (turn : Turn σ) : Prop where
  waiting : turn.after.queue.tasks = turn.before.queue.tasks ++ turn.scheduled
  failures : turn.after.report.failures = turn.before.report.failures

end Turn

namespace Migrator

open SchemaMigration.Action (Moves after)

variable {σ : Type} {m : Migrator} {reg : Registry} {s : Session σ}
variable {n : Nat} {p q : Progress σ} {turns : List (Turn σ)}

/-! ## A single turn -/

/-- The turn of a task on this stage. -/
def turn (m : Migrator) (reg : Registry) (s : Session σ) (t : Task) (p : Progress σ) : Turn σ :=
  ⟨t, p, m.runTask reg s t p⟩

theorem after_turn (t : Task) (p : Progress σ) :
    (m.turn reg s t p).after = after (m.runTask reg s t) p := by
  unfold Turn.after turn Outcome.state after
  cases m.runTask reg s t p <;> rfl

/-- A turn settles where the attempt at its task does. -/
theorem settled_turn (t : Task) (p : Progress σ) :
    (m.turn reg s t p).settled = m.attempt reg s t p := by
  unfold Turn.settled Turn.after Turn.failure? turn attempt
  cases m.runTask reg s t p with
  | ok _ q => simp [Outcome.state]
  | error e q => rfl

/-- The stages have the same failures in their reports. -/
abbrev SameFailures (p q : Progress σ) : Prop := q.report.failures = p.report.failures

/-- No step of a migration touches the failures in the report: only what attempts a task does. -/
theorem sameFailures_relates (m : Migrator) (s : Session σ) :
    m.Relates m s s fun _ a _ => Moves SameFailures a where
  plan _ := rfl
  additions _ := rfl
  pure _ _ := rfl
  throw _ _ := rfl
  bind ha hf := Moves.bind (fun _ _ _ h h' => h'.trans h) ha hf
  asking _ _ := rfl
  carrying change p := by
    rw [carryOut_after]
    cases m.perform s change p.session <;> rfl
  scheduling _ _ := rfl

theorem fair_turn (m : Migrator) (reg : Registry) (s : Session σ) (t : Task) (p : Progress σ) :
    (m.turn reg s t p).Fair where
  waiting := by
    have hprefix := (queue_respects m s).runTask reg t p
    rw [← after_turn] at hprefix
    exact (List.prefix_iff_eq_append.mp hprefix).symm
  failures := by
    rw [after_turn]
    exact (sameFailures_relates m s).runTask reg t p

/-! ## All turns -/

/-- From stage `p` on, the tasks have these turns, always the first one that waits, until none waits
on stage `q`. -/
inductive TakesTurns (m : Migrator) (reg : Registry) (s : Session σ) :
    Progress σ → List (Turn σ) → Progress σ → Prop
  | nil {p : Progress σ} : p.queue.tasks = [] → TakesTurns m reg s p [] p
  | cons {p q : Progress σ} {t : Task} {rest : TaskQueue} {turns : List (Turn σ)} :
      p.queue.tasks = t :: rest.tasks →
      TakesTurns m reg s (m.turn reg s t { p with queue := rest }).settled turns q →
      TakesTurns m reg s p (m.turn reg s t { p with queue := rest } :: turns) q

/-- The deferred work comes to an end if the turns do, and the allowance suffices for them. -/
theorem drain_iff_takesTurns :
    m.drain reg s n p = some q ↔ ∃ turns, m.TakesTurns reg s p turns q ∧ turns.length ≤ n := by
  constructor
  · intro h
    induction n generalizing p with
    | zero =>
      rcases drain_some h with ⟨hp, rfl⟩ | ⟨k, t, rest, hk, -⟩
      · exact ⟨[], .nil hp, Nat.le_refl 0⟩
      · cases hk
    | succ n ih =>
      rcases drain_some h with ⟨hp, rfl⟩ | ⟨k, t, rest, hk, hp, h⟩
      · exact ⟨[], .nil hp, Nat.zero_le _⟩
      · cases hk
        rw [← settled_turn] at h
        obtain ⟨turns, hturns, hlen⟩ := ih h
        exact ⟨_, .cons hp hturns, Nat.succ_le_succ hlen⟩
  · rintro ⟨turns, h, hlen⟩
    induction h generalizing n with
    | @nil p hp =>
      unfold drain
      rw [(TaskQueue.pop?_eq_none_iff _).mpr hp]
    | @cons p q t rest turns hp _ ih =>
      obtain ⟨k, rfl⟩ := Nat.exists_eq_add_one_of_ne_zero (Nat.ne_zero_of_lt hlen)
      rw [drain_cons hp, ← settled_turn]
      exact ih (Nat.le_of_succ_le_succ hlen)

theorem TakesTurns.empty (h : m.TakesTurns reg s p turns q) : q.queue.tasks = [] := by
  induction h with
  | nil hp => exact hp
  | cons _ _ ih => exact ih

theorem TakesTurns.fair (h : m.TakesTurns reg s p turns q) : ∀ turn ∈ turns, turn.Fair := by
  induction h with
  | nil _ => simp
  | cons _ _ ih => exact List.forall_mem_cons.mpr ⟨fair_turn m reg s _ _, ih⟩

/-- In each turn the task is run on the stage of the turn. -/
theorem TakesTurns.outcomes (h : m.TakesTurns reg s p turns q) :
    ∀ turn ∈ turns, turn.outcome = m.runTask reg s turn.task turn.before := by
  induction h with
  | nil _ => simp
  | cons _ _ ih => exact List.forall_mem_cons.mpr ⟨rfl, ih⟩

/-- The tasks that have a turn are those that waited, and behind them those that were scheduled. -/
theorem TakesTurns.tasks (h : m.TakesTurns reg s p turns q) :
    turns.map (·.task) = p.queue.tasks ++ turns.flatMap (·.scheduled) := by
  induction h with
  | nil hp => simp [hp]
  | @cons p q t rest turns hp _ ih =>
    have hwaiting := (fair_turn m reg s t { p with queue := rest }).waiting
    calc t :: turns.map (·.task)
        = t :: ((m.turn reg s t { p with queue := rest }).after.queue.tasks
            ++ turns.flatMap (·.scheduled)) := congrArg _ ih
      _ = (t :: rest.tasks) ++ ((m.turn reg s t { p with queue := rest }).scheduled
            ++ turns.flatMap (·.scheduled)) := by
          rw [hwaiting, List.append_assoc]
          rfl
      _ = p.queue.tasks ++ (m.turn reg s t { p with queue := rest } :: turns).flatMap
            (·.scheduled) := by
          rw [hp, List.flatMap_cons]

/-- The failures that are noted are those of the turns. -/
theorem TakesTurns.failures (h : m.TakesTurns reg s p turns q) :
    q.report.failures = p.report.failures ++ turns.filterMap (·.failure?) := by
  induction h with
  | nil _ => simp
  | @cons p q t rest turns _ _ ih =>
    have hsame := (fair_turn m reg s t { p with queue := rest }).failures
    rw [ih, Turn.settled]
    dsimp only
    rw [hsame, List.append_assoc, List.filterMap_cons]
    cases (m.turn reg s t { p with queue := rest }).failure? <;> rfl

/-- **Deferred work is never lost and never fatal.**  Whatever the session does, when the deferred
work has come to an end, no task waits, and each task that waited before or was scheduled meanwhile
had exactly one turn, whether others failed or not: first those that waited, and then those that
were scheduled, in the order in which they were, always behind all that waited.  The report has one
more failure for each turn that failed, in the order of the turns, with the title of the task and
the message of the error. -/
theorem drain_turns (m : Migrator) (reg : Registry) (s : Session σ) (n : Nat) (p q : Progress σ)
    (h : m.drain reg s n p = some q) :
    q.queue.tasks = [] ∧ ∃ turns, m.TakesTurns reg s p turns q ∧ turns.length ≤ n ∧
      turns.map (·.task) = p.queue.tasks ++ turns.flatMap (·.scheduled) ∧
      (∀ turn ∈ turns, turn.outcome = m.runTask reg s turn.task turn.before ∧
        turn.after.queue.tasks = turn.before.queue.tasks ++ turn.scheduled) ∧
      q.report.failures = p.report.failures ++ turns.filterMap (·.failure?) := by
  obtain ⟨turns, hturns, hlen⟩ := drain_iff_takesTurns.mp h
  exact ⟨hturns.empty, turns, hturns, hlen, hturns.tasks,
    fun turn hturn => ⟨hturns.outcomes turn hturn, (hturns.fair turn hturn).waiting⟩,
    hturns.failures⟩

/-! ## Tasks that fail between others -/

/-- An index on a table that is missing, the missing links, and a join table that nothing
describes; an earlier failure is in the report. -/
def linkWork : Progress Catalog where
  session := unlinked
  report := { failures := [⟨"join table tags", "no such table"⟩] }
  queue := ⟨[.createIndex "tags" { name := "idx_tags", entries := [{ column := "tag" }] },
    .joinTable ⟨"links", 0⟩ false, .joinTable ⟨"tags", 7⟩ true]⟩

/-- The first and the third task fail, and the index of the links has its turn behind them. -/
theorem drain_turns_links :
    ∃ (q : Progress Catalog) (turns : List (Turn Catalog)),
      (indexingMigrator true).drain linkRegistry (Catalog.session Mysql.dialect "app") 4
        linkWork = some q ∧
      q.queue.tasks = [] ∧ turns.length = 4 ∧
      turns.map (·.task) = linkWork.queue.tasks ++ turns.flatMap (·.scheduled) ∧
      (turns.filterMap (·.failure?)).map (·.task) =
        ["create index idx_tags on tags", "join table tags"] ∧
      q.report.executed =
        ["CREATE TABLE `links` (`from_id` bigint,`to_id` bigint,PRIMARY KEY (`from_id`,`to_id`))",
          "CREATE INDEX `idx_links_to` ON `links`(`to_id`)"] := by
  have hrun : ((indexingMigrator true).drain linkRegistry (Catalog.session Mysql.dialect "app") 4
      linkWork).map (fun q => (q.report.failures.map (·.task), q.report.executed)) =
      some (["join table tags", "create index idx_tags on tags", "join table tags"],
        ["CREATE TABLE `links` (`from_id` bigint,`to_id` bigint,PRIMARY KEY (`from_id`,`to_id`))",
          "CREATE INDEX `idx_links_to` ON `links`(`to_id`)"]) := by decide +kernel
  have hmore : ((indexingMigrator true).drain linkRegistry (Catalog.session Mysql.dialect "app") 3
      linkWork).isSome = false := by decide +kernel
  obtain ⟨q, hq, hvalues⟩ := Option.map_eq_some_iff.mp hrun
  obtain ⟨hfailures, hexecuted⟩ := Prod.mk.inj hvalues
  obtain ⟨hempty, turns, hturns, hlen, htasks, -, hnoted⟩ := drain_turns _ _ _ _ _ _ hq
  refine ⟨q, turns, hq, hempty, ?_, htasks, ?_, hexecuted⟩
  · have hnot : ¬ turns.length ≤ 3 := fun hle => by
      rw [drain_iff_takesTurns.mpr ⟨turns, hturns, hle⟩] at hmore
      cases hmore
    omega
  · rw [hnoted, List.map_append] at hfailures
    exact (List.cons.inj hfailures).2

end Migrator

end SchemaMigration
