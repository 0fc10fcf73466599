import Mathlib.Data.List.Induction
import SchemaMigration.Proofs.Catalog.Acceptance
import SchemaMigration.Proofs.Migration.Reported

/-!
# What a history makes of a catalog

The calls of a recorded session say what the catalog was before each of them: the accepted changes
so far, applied to the catalog of the start (`Catalog.replay`).  The history of a session on a
catalog is genuine: the catalog is what the history makes of it, and a change was accepted exactly
if the catalog accepts it at that point (`Genuine`).

So what is said of a cut `before ++ x :: after` of a history is said of the database at the moment
of the call `x`.
-/

namespace SchemaMigration

/-- A longer list is cut at its last entry or before. -/
theorem cut_concat {α : Type} {xs before after : List α} {x y : α}
    (h : xs ++ [x] = before ++ y :: after) :
    before = xs ∧ y = x ∧ after = [] ∨ ∃ rest, after = rest ++ [x] ∧ xs = before ++ y :: rest := by
  rcases List.eq_nil_or_concat after with rfl | ⟨rest, z, rfl⟩
  · obtain ⟨rfl, hxy⟩ := List.append_inj' h rfl
    cases hxy
    exact Or.inl ⟨rfl, rfl, rfl⟩
  · rw [List.concat_eq_append, ← List.cons_append, ← List.append_assoc] at h
    obtain ⟨rfl, hxz⟩ := List.append_inj' h rfl
    cases hxz
    exact Or.inr ⟨rest, List.concat_eq_append, rfl⟩

namespace Catalog

variable {c : Catalog} {history : List Exchange}

/-- What becomes of a catalog by a call: a question or a refused change leaves it as it is. -/
def respond (c : Catalog) (x : Exchange) : Catalog :=
  match x.call with
  | .query _ => c
  | .execute change =>
    match c.apply change with
    | .ok changed => changed
    | .error _ => c

/-- What becomes of a catalog by all calls of a history. -/
def replay (c : Catalog) (history : List Exchange) : Catalog := history.foldl respond c

theorem replay_concat (x : Exchange) :
    c.replay (history ++ [x]) = (c.replay history).respond x :=
  List.foldl_concat ..

theorem respond_accepted {change : Change} {c' : Catalog} (h : c.apply change = .ok c')
    (succeeded : Bool) : c.respond ⟨.execute change, succeeded⟩ = c' := by
  simp only [respond, h]

theorem respond_refused {change : Change} (h : ¬ c.Accepts change) (succeeded : Bool) :
    c.respond ⟨.execute change, succeeded⟩ = c := by
  unfold respond
  dsimp only
  split
  · next c' hc => exact absurd ⟨c', hc⟩ h
  · rfl

/-- The questions for a part leave the catalog. -/
theorem replay_asked (database table : String) (p : Part) :
    c.replay (history ++ p.asked database table) = c.replay history :=
  List.foldl_append

end Catalog

/-- A catalog and a history as a session has them that started with catalog `c`. -/
structure Genuine (c : Catalog) (x : Catalog × List Exchange) : Prop where
  state : x.1 = c.replay x.2
  outcomes : ∀ before change succeeded after,
    x.2 = before ++ ⟨.execute change, succeeded⟩ :: after →
      (succeeded = true ↔ (c.replay before).Accepts change)

theorem Genuine.start (c : Catalog) : Genuine c (c, []) := by
  refine ⟨rfl, fun before change succeeded after h => ?_⟩
  exact absurd h.symm (by simp)

/-- A change is sent: it is accepted and applied, or refused. -/
inductive Sends (change : Change) (x y : Catalog × List Exchange) : Prop
  | accepted (applied : x.1.apply change = .ok y.1)
      (history : y.2 = x.2 ++ [⟨.execute change, true⟩])
  | refused (refuses : ¬ x.1.Accepts change) (same : y.1 = x.1)
      (history : y.2 = x.2 ++ [⟨.execute change, false⟩])

section

variable {c : Catalog} {x y : Catalog × List Exchange} {change : Change}

/-- Whether it was accepted or not, the change is the last call. -/
theorem Sends.history (h : Sends change x y) :
    ∃ succeeded, y.2 = x.2 ++ [⟨.execute change, succeeded⟩] := by
  cases h with
  | accepted _ hh => exact ⟨true, hh⟩
  | refused _ _ hh => exact ⟨false, hh⟩

theorem Sends.mem_acceptedOf (h : Sends change x y) {earlier : Change}
    (hmem : earlier ∈ acceptedOf x.2) : earlier ∈ acceptedOf y.2 := by
  obtain ⟨succeeded, hh⟩ := h.history
  rw [hh, acceptedOf_append]
  exact List.mem_append_left _ hmem

/-- What is there after a change was sent was there before, or the change adds it and is
accepted. -/
theorem Sends.has_iff (h : Sends change x y) {table : String} {parts : List Part}
    (ha : change.adds = some (table, parts)) (t : String) (p : Part) :
    y.1.has t p = true ↔
      x.1.has t p = true ∨ x.1.Accepts change ∧ t = table ∧ p ∈ parts := by
  cases h with
  | accepted happly _ =>
    rw [Catalog.apply_adds ha happly]
    exact or_congr_right ⟨fun h => ⟨⟨_, happly⟩, h⟩, And.right⟩
  | refused hno hsame _ =>
    rw [hsame]
    exact ⟨Or.inl, fun h => h.resolve_right fun h => hno h.1⟩

theorem Sends.grows (h : Sends change x y) {table : String} {parts : List Part}
    (ha : change.adds = some (table, parts)) : x.1.Grows y.1 :=
  fun t p ht => (h.has_iff ha t p).mpr (Or.inl ht)

theorem Genuine.sends (hx : Genuine c x) (h : Sends change x y) : Genuine c y := by
  obtain ⟨succeeded, hhistory⟩ := h.history
  have hlast : succeeded = true ↔ (c.replay x.2).Accepts change := by
    rw [← hx.state]
    cases h with
    | accepted happly hh =>
      rw [hhistory] at hh
      cases List.append_cancel_left hh
      exact ⟨fun _ => ⟨_, happly⟩, fun _ => rfl⟩
    | refused hno _ hh =>
      rw [hhistory] at hh
      cases List.append_cancel_left hh
      exact ⟨fun h => absurd h (by simp), fun h => absurd h hno⟩
  refine ⟨?_, fun before change' succeeded' after hcut => ?_⟩
  · rw [hhistory, Catalog.replay_concat, ← hx.state]
    cases h with
    | accepted happly _ => exact (Catalog.respond_accepted happly _).symm
    | refused hno hsame _ => rw [Catalog.respond_refused hno, hsame]
  · rw [hhistory] at hcut
    rcases cut_concat hcut with ⟨rfl, heq, -⟩ | ⟨rest, -, hcut'⟩
    · cases heq
      exact hlast
    · exact hx.outcomes before change' succeeded' rest hcut'

/-- A cut of a history that goes on with questions is a cut of the history. -/
theorem cut_asked {history before after : List Exchange} {database table : String} {p : Part}
    {succeeded : Bool}
    (h : history ++ p.asked database table = before ++ ⟨.execute change, succeeded⟩ :: after) :
    ∃ rest, history = before ++ ⟨.execute change, succeeded⟩ :: rest := by
  rw [Part.asked, List.append_cons] at h
  rcases cut_concat h with ⟨-, heq, -⟩ | ⟨rest, -, h'⟩
  · cases heq
  · rcases cut_concat h' with ⟨-, heq, -⟩ | ⟨rest', -, h''⟩
    · cases heq
    · exact ⟨rest', h''⟩

theorem Genuine.asked (hx : Genuine c x) (database table : String) (p : Part) :
    Genuine c (x.1, x.2 ++ p.asked database table) := by
  refine ⟨?_, fun before change succeeded after hcut => ?_⟩
  · rw [Catalog.replay_asked]
    exact hx.state
  · obtain ⟨rest, hrest⟩ := cut_asked hcut
    exact hx.outcomes before change succeeded rest hrest

/-- What changes that only add have made of a catalog: what it had, and what the accepted ones
add. -/
theorem Genuine.has_iff {history : List Exchange}
    (hadd : ∀ change ∈ changesOf history, ∃ table parts, change.adds = some (table, parts))
    (houtcomes : ∀ before change succeeded after,
      history = before ++ ⟨.execute change, succeeded⟩ :: after →
        (succeeded = true ↔ (c.replay before).Accepts change)) (t : String) (p : Part) :
    (c.replay history).has t p = true ↔
      c.has t p = true ∨ ∃ change ∈ acceptedOf history, change.Adds t p := by
  induction history using List.reverseRecOn with
  | nil => simp [Catalog.replay]
  | append_singleton history x ih =>
    have ih := ih
      (fun change hc => hadd change (by rw [changesOf_append]; exact List.mem_append_left _ hc))
      fun before change succeeded after hcut =>
        houtcomes before change succeeded (after ++ [x]) (by rw [hcut]; simp)
    obtain ⟨call, succeeded⟩ := x
    rw [Catalog.replay_concat, acceptedOf_append]
    cases call with
    | query q =>
      rw [acceptedOf_asked, List.append_nil]
      exact ih
    | execute change =>
      obtain ⟨table, parts, ha⟩ := hadd change (by rw [changesOf_append]; simp [changesOf])
      have hlast := houtcomes history change succeeded [] rfl
      cases succeeded with
      | true =>
        obtain ⟨c', happly⟩ := hlast.mp rfl
        rw [Catalog.respond_accepted happly, Catalog.apply_has_iff happly ha, ih, or_assoc,
          acceptedOf_made]
        simp only [List.mem_append, List.mem_singleton, or_and_right, exists_or, exists_eq_left]
      | false =>
        have hno : ¬ (c.replay history).Accepts change := fun h => by simpa using hlast.mpr h
        rw [Catalog.respond_refused hno, acceptedOf_refused, List.append_nil]
        exact ih

end

namespace Migrator

open SchemaMigration.Action (Moves after bind_ok bind_of_ok ofExcept_ok)

variable {σ : Type} {m : Migrator} {reg : Registry} {d : Dialect} {database : String}
variable {P : Progress (Catalog × List Exchange)}

/-- A real change is sent, and nothing is scheduled. -/
theorem carryOut_sends (d : Dialect) (database : String) (hreal : m.config.dryRun = false)
    (change : Change) :
    Sends change P.session
        (after (m.carryOut (Catalog.session d database).recorded change) P).session ∧
      (after (m.carryOut (Catalog.session d database).recorded change) P).queue = P.queue := by
  rw [after, carryOut_recorded_eq hreal]
  cases happly : P.session.1.apply change with
  | ok c' => exact ⟨.accepted happly rfl, rfl⟩
  | error refusal =>
    refine ⟨.refused ?_ rfl rfl, rfl⟩
    rintro ⟨c', hc⟩
    cases happly.symm.trans hc

/-- Tasks are scheduled behind a step, or the step has failed. -/
theorem after_schedule (a : Work σ Unit) (ts : List Task) (p : Progress σ) :
    after (a >>= fun _ => Work.schedule ts) p = after a p ∨
      after (a >>= fun _ => Work.schedule ts) p =
        { after a p with queue := (after a p).queue.pushAll ts } := by
  cases ha : a p with
  | ok _ q =>
    right
    rw [after, bind_of_ok ha, after, ha]
    rfl
  | error e q =>
    left
    rw [after, Action.bind_of_error ha, after, ha]

/-- A stage with a question about a part at the end of its history. -/
def asking (database table : String) (p : Part) (P : Progress (Catalog × List Exchange)) :
    Progress (Catalog × List Exchange) :=
  { P with session := (P.session.1, P.session.2 ++ p.asked database table) }

/-- What follows a question starts with the answer, the question being in the history. -/
theorem ask_then {α : Type} (table : String) (p : Part)
    (f : Bool → Work (Catalog × List Exchange) α) :
    (Work.onSession (.ask ((Catalog.session d database).recorded.affirms m.dialect
        fun named => p.question table named)) >>= f) P =
      f (P.session.1.has table p) (asking database table p P) :=
  bind_of_ok (ask_recorded m d database table p P)

/-- A part that is there leaves nothing to add. -/
theorem addMissing_recorded (table : String) (p : Part) (change : Except MigrationError Change) :
    m.addMissing (Catalog.session d database).recorded
        (fun named => p.question table named) change P =
      if P.session.1.has table p then .ok () (asking database table p P)
      else (Action.ofExcept change >>= m.carryOut (Catalog.session d database).recorded)
        (asking database table p P) := by
  unfold addMissing
  rw [ask_then]
  cases P.session.1.has table p <;> rfl

/-- The table of a model that has a plan is created and its later work scheduled, unless the catalog
refuses the table. -/
theorem createModel_recorded (d : Dialect) (database : String) (hreal : m.config.dryRun = false)
    {a : Model} {plan : TablePlan} (hplan : a.plan m.dialect m.config = .ok plan) :
    m.createModel (Catalog.session d database).recorded a P =
      match P.session.1.apply plan.change with
      | .ok c' => .ok ()
          { session := (c', P.session.2 ++ [⟨.execute plan.change, true⟩])
            report := { P.report with
              executed := P.report.executed ++ [plan.change.sql m.dialect] }
            queue := P.queue.pushAll (a.laterTasks m.config) }
      | .error refusal => .error (.exec (plan.change.sql d) refusal.message)
          { P with session := (P.session.1, P.session.2 ++ [⟨.execute plan.change, false⟩]) } := by
  unfold createModel
  rw [bind_of_ok (ofExcept_ok.mpr ⟨hplan, rfl⟩), ← (Model.plan_ok hplan).2]
  show EStateM.bind _ _ P = _
  rw [EStateM.bind, carryOut_recorded_eq hreal]
  cases P.session.1.apply plan.change <;> rfl

/-- The table of a model that has a plan is sent, and its later work scheduled if it is accepted. -/
theorem createModel_sends (d : Dialect) (database : String) (hreal : m.config.dryRun = false)
    {a : Model} {plan : TablePlan} (hplan : a.plan m.dialect m.config = .ok plan) :
    Sends plan.change P.session
        (after (m.createModel (Catalog.session d database).recorded a) P).session ∧
      ((after (m.createModel (Catalog.session d database).recorded a) P).queue = P.queue ∨
        P.session.1.Accepts plan.change ∧
          (after (m.createModel (Catalog.session d database).recorded a) P).queue =
            P.queue.pushAll (a.laterTasks m.config)) := by
  rw [after, createModel_recorded d database hreal hplan]
  cases happly : P.session.1.apply plan.change with
  | ok c' => exact ⟨.accepted happly rfl, Or.inr ⟨⟨c', happly⟩, rfl⟩⟩
  | error refusal =>
    refine ⟨.refused ?_ rfl rfl, Or.inl rfl⟩
    rintro ⟨c', hc⟩
    cases happly.symm.trans hc

/-- A model without a plan fails before anything is sent. -/
theorem createModel_unplanned {s : Session σ} {a : Model} {e : MigrationError}
    (hplan : a.plan m.dialect m.config = .error e) (p : Progress σ) :
    m.createModel s a p = .error e p := by
  unfold createModel
  rw [hplan]
  rfl

/-- The work of a task for a join table, after the question for the table. -/
theorem runTask_join_recorded {source : Source} {flag : Bool} {j : Model}
    (hj : reg.describe source = .ok j) :
    m.runTask reg (Catalog.session d database).recorded (.joinTable source flag) P =
      if P.session.1.hasTable j.table then
        if flag then m.updateModel (Catalog.session d database).recorded j
          (asking database j.table .table P)
        else .ok () (asking database j.table .table P)
      else m.createModel (Catalog.session d database).recorded j
        (asking database j.table .table P) := by
  rw [runTask]
  refine (bind_of_ok (ofExcept_ok.mpr ⟨mapError_ok.mpr hj, rfl⟩)).trans ?_
  refine (ask_then j.table .table _).trans ?_
  rw [Catalog.has_table]
  cases P.session.1.hasTable j.table <;> cases flag <;> rfl

/-- The step for a literal name is the question for its table. -/
theorem updateStep_table_recorded (name : String) :
    m.updateStep (Catalog.session d database).recorded (.table name) P =
      if P.session.1.hasTable name then .ok () (asking database name .table P)
      else .error (bareTable name) (asking database name .table P) := by
  unfold updateStep
  refine (ask_then name .table _).trans ?_
  rw [Catalog.has_table]
  cases P.session.1.hasTable name <;> rfl

/-- The step for a model, after the question for its table. -/
theorem updateStep_recorded (a : Model) :
    m.updateStep (Catalog.session d database).recorded (.model a) P =
      if P.session.1.hasTable a.table then
        m.updateModel (Catalog.session d database).recorded a (asking database a.table .table P)
      else m.createModel (Catalog.session d database).recorded a
        (asking database a.table .table P) := by
  unfold updateStep
  refine (ask_then a.table .table _).trans ?_
  rw [Catalog.has_table]
  cases P.session.1.hasTable a.table <;> rfl

end Migrator

end SchemaMigration
