import SchemaMigration.Proofs.Migration.Lockstep
import SchemaMigration.Proofs.Migration.Recorded

/-!
# Up to the first change

A real run and one that only plans, on the same session and from the same state, can be told apart
by nothing before the first change is sent.  What the session was asked so far is the same, and so
are the answers.  From the first change on, the real run has a change in its history, and the
planned one has a statement in its report.

> `InTune`: the two runs are in the same state, without a change and without a statement.
> `Apart`: the one has a change in its history, the other one a statement in its report.

`Tuned` says of two steps that from stages in tune they end alike and in tune, or that they end
apart.  Neither run forgets, so that two runs that are apart stay so.
-/

namespace SchemaMigration

/-! ## Asking makes no change -/

/-- A question makes no change, and the history has no part in the answer. -/
theorem Session.affirms_recorded {σ : Type} (s : Session σ) (d : Dialect)
    (question : String → CatalogQuery) (state : σ) (history : List Exchange) :
    ∃ history', changesOf history' = changesOf history ∧
      s.recorded.affirms d question (state, history) =
        ((s.affirms d question state).1, ((s.affirms d question state).2, history')) := by
  refine ⟨_, (s.onlyAsks_affirms d question (state, history)).changesOf_eq, ?_⟩
  rw [← s.recorded_affirms d question (state, history)]
  rfl

namespace Migrator

open SchemaMigration.Action (Moves after bind_of_ok bind_of_error)

variable {σ : Type} {m : Migrator} {reg : Registry} {s : Session σ} {α β : Type}
variable {P P' : Progress (σ × List Exchange)} {Q Q' : Progress σ}

/-! ## Two stages -/

/-- The stages are the same, and nothing was changed or planned so far. -/
structure InTune (P : Progress (σ × List Exchange)) (Q : Progress σ) : Prop where
  session : P.session.1 = Q.session
  queue : P.queue = Q.queue
  changes : changesOf P.session.2 = []
  executed : Q.report.executed = []

/-- Something was changed, and something was planned. -/
def Apart (P : Progress (σ × List Exchange)) (Q : Progress σ) : Prop :=
  changesOf P.session.2 ≠ [] ∧ Q.report.executed ≠ []

/-- The report of the one stage begins with the statements of the other. -/
def Notes (Q Q' : Progress σ) : Prop := Q.report.executed <+: Q'.report.executed

/-- A change that is in the history stays there. -/
theorem changesOf_remembered (h : Remembers P P') (hne : changesOf P.session.2 ≠ []) :
    changesOf P'.session.2 ≠ [] :=
  fun hnil => hne (List.prefix_nil.mp (hnil ▸ changesOf_grows h))

theorem executed_noted (h : Notes Q Q') (hne : Q.report.executed ≠ []) :
    Q'.report.executed ≠ [] :=
  fun hnil => hne (List.prefix_nil.mp (hnil ▸ h))

theorem Apart.mono (h : Apart P Q) (hP : Remembers P P') (hQ : Notes Q Q') : Apart P' Q' :=
  ⟨changesOf_remembered hP h.1, executed_noted hQ h.2⟩

/-- No step takes a statement out of the report. -/
theorem notes_respects (m : Migrator) (s : Session σ) : m.Respects s Notes where
  refl _ := List.prefix_rfl
  trans _ _ _ := List.IsPrefix.trans
  asking _ _ := List.prefix_rfl
  adding change _ p := by
    rw [carryOut_after]
    split
    · exact List.prefix_append _ _
    · exact List.prefix_rfl
  scheduling _ _ := List.prefix_rfl
  failing _ _ := List.prefix_rfl

/-- The steps end with the same value or the same error, in tune. -/
inductive EndInTune : Outcome (Progress (σ × List Exchange)) α → Outcome (Progress σ) α → Prop
  | ok {P : Progress (σ × List Exchange)} {Q : Progress σ} (x : α) :
      InTune P Q → EndInTune (.ok x P) (.ok x Q)
  | error {P : Progress (σ × List Exchange)} {Q : Progress σ} (e : MigrationError) :
      InTune P Q → EndInTune (.error e P) (.error e Q)

/-! ## Two steps -/

/-- From stages in tune, a real step and a planned one end alike and in tune, or they end apart. -/
structure Tuned (a : Work (σ × List Exchange) α) (b : Work σ α) : Prop where
  remembers : Moves Remembers a
  notes : Moves Notes b
  follows : ∀ P Q, InTune P Q → EndInTune (a P) (b Q) ∨ Apart (after a P) (after b Q)

theorem Tuned.pure (x : α) : Tuned (σ := σ) (Pure.pure x) (Pure.pure x) :=
  ⟨fun _ => List.prefix_rfl, fun _ => List.prefix_rfl, fun _ _ h => Or.inl (.ok x h)⟩

theorem Tuned.throw (e : MigrationError) :
    Tuned (MonadExcept.throw e : Work (σ × List Exchange) α) (MonadExcept.throw e) :=
  ⟨fun _ => List.prefix_rfl, fun _ => List.prefix_rfl, fun _ _ h => Or.inl (.error e h)⟩

/-- Two steps in a row are tuned if both are. -/
theorem Tuned.bind {a : Work (σ × List Exchange) α} {b : Work σ α}
    {f : α → Work (σ × List Exchange) β} {g : α → Work σ β} (h : Tuned a b)
    (hfg : ∀ x, Tuned (f x) (g x)) : Tuned (a >>= f) (b >>= g) := by
  have hremembers := Action.after_bind (R := Remembers) (fun _ => List.prefix_rfl)
    (fun x => (hfg x).remembers) a
  have hnotes := Action.after_bind (R := Notes) (fun _ => List.prefix_rfl)
    (fun x => (hfg x).notes) b
  refine ⟨fun P => List.IsPrefix.trans (h.remembers P) (hremembers P),
    fun Q => List.IsPrefix.trans (h.notes Q) (hnotes Q), fun P Q hPQ => ?_⟩
  rcases h.follows P Q hPQ with halike | hapart
  · generalize ha : a P = r at halike
    generalize hb : b Q = r' at halike
    unfold after
    cases halike with
    | ok x h₁ =>
      rw [bind_of_ok ha, bind_of_ok hb]
      exact (hfg x).follows _ _ h₁
    | error e h₁ =>
      rw [bind_of_error ha, bind_of_error hb]
      exact Or.inl (.error e h₁)
  · exact Or.inr (hapart.mono (hremembers P) (hnotes Q))

theorem Tuned.schedule (ts : List Task) : Tuned (σ := σ) (Work.schedule ts) (Work.schedule ts) := by
  refine ⟨fun _ => List.prefix_rfl, fun _ => List.prefix_rfl, fun P Q h => Or.inl (.ok () ?_)⟩
  exact ⟨h.session, congrArg (·.pushAll ts) h.queue, h.changes, h.executed⟩

/-- Questions get the same answers, and change nothing. -/
theorem Tuned.ask (m : Migrator) (s : Session σ) (question : String → CatalogQuery) :
    Tuned (Work.onSession (.ask (s.recorded.affirms m.dialect question)))
      (Work.onSession (.ask (s.affirms m.dialect question))) := by
  refine ⟨(s.remembers_respects m).asking question, (notes_respects m s).asking question,
    fun P Q h => ?_⟩
  obtain ⟨history, hsame, hanswer⟩ :=
    s.affirms_recorded m.dialect question P.session.1 P.session.2
  unfold Work.onSession Action.ask
  rw [show P.session = (P.session.1, P.session.2) from rfl, hanswer, h.session]
  exact Or.inl (.ok _ ⟨rfl, h.queue, hsame.trans h.changes, h.executed⟩)

/-- A real change is sent, whatever comes of it. -/
theorem carryOut_sent (hreal : m.config.dryRun = false) (s : Session σ) (change : Change)
    (P : Progress (σ × List Exchange)) :
    ∃ succeeded, (after (m.carryOut s.recorded change) P).session.2 =
      P.session.2 ++ [⟨.execute change, succeeded⟩] := by
  obtain ⟨succeeded, h⟩ :=
    Session.recordedAction_history (.execute change) (s.execute change) P.session
  change (after (s.recorded.execute change) P.session).2 = _ at h
  refine ⟨succeeded, ?_⟩
  rw [← h, carryOut_after, perform, if_neg (by simp [hreal])]
  unfold after
  cases s.recorded.execute change P.session <;> rfl

/-- So there is a change in the history then. -/
theorem carryOut_changes (hreal : m.config.dryRun = false) (s : Session σ) (change : Change)
    (P : Progress (σ × List Exchange)) :
    changesOf (after (m.carryOut s.recorded change) P).session.2 ≠ [] := by
  obtain ⟨succeeded, h⟩ := carryOut_sent hreal s change P
  rw [h, changesOf_append]
  exact List.append_ne_nil_of_right_ne_nil _ (List.cons_ne_nil _ _)

/-- **The first change.**  The real run sends it, and the planned one notes it. -/
theorem Tuned.carryOut (hreal : m.config.dryRun = false) (s : Session σ) (change : Change) :
    Tuned (m.carryOut s.recorded change) (m.planning.carryOut s change) := by
  have hnoted : ∀ Q, (after (m.planning.carryOut s change) Q).report.executed =
      Q.report.executed ++ [change.sql m.dialect] := by
    intro Q
    rw [carryOut_after, perform, if_pos (show m.planning.config.dryRun = true from rfl)]
    rfl
  refine ⟨fun P => ?_, fun Q => ⟨_, (hnoted Q).symm⟩,
    fun P Q _ => Or.inr ⟨carryOut_changes hreal s change P, ?_⟩⟩
  · obtain ⟨succeeded, h⟩ := carryOut_sent hreal s change P
    exact ⟨_, h.symm⟩
  · rw [hnoted]
    exact List.append_ne_nil_of_right_ne_nil _ (List.cons_ne_nil _ _)

/-- Whatever a migration does is tuned. -/
theorem tuned_relates (hreal : m.config.dryRun = false) (s : Session σ) :
    m.Relates m.planning s.recorded s fun _ => Tuned where
  plan _ := rfl
  additions _ := rfl
  pure := Tuned.pure
  throw := Tuned.throw
  bind := Tuned.bind
  asking := Tuned.ask m s
  carrying := Tuned.carryOut hreal s
  scheduling := Tuned.schedule

/-! ## The deferred work and the run over the models -/

section

variable (hreal : m.config.dryRun = false)

include hreal

/-- A failure that is noted makes no difference. -/
theorem InTune.attempt (reg : Registry) (t : Task) (h : InTune P Q) :
    InTune (m.attempt reg s.recorded t P) (m.planning.attempt reg s t Q) ∨
      Apart (m.attempt reg s.recorded t P) (m.planning.attempt reg s t Q) := by
  have htuned := ((tuned_relates hreal s).runTask reg t).follows P Q h
  unfold Migrator.attempt
  unfold after at htuned
  generalize m.runTask reg s.recorded t P = r at htuned
  generalize m.planning.runTask reg s t Q = r' at htuned
  rcases htuned with halike | hapart
  · cases halike with
    | ok x h₁ => exact Or.inl h₁
    | error e h₁ => exact Or.inl ⟨h₁.session, h₁.queue, h₁.changes, h₁.executed⟩
  · cases r <;> cases r' <;> exact Or.inr hapart

/-- The planned run does the deferred work as the real one does it; or the real one makes a change,
and the planned one, if it ends at all, has planned something. -/
theorem InTune.drain {n : Nat} (hdrain : m.drain reg s.recorded n P = some P')
    (h : InTune P Q) :
    (∃ Q', m.planning.drain reg s n Q = some Q' ∧ InTune P' Q') ∨
      changesOf P'.session.2 ≠ [] ∧
        ∀ Q', m.planning.drain reg s n Q = some Q' → Q'.report.executed ≠ [] := by
  induction n generalizing P Q with
  | zero =>
    rcases drain_some hdrain with ⟨hp, rfl⟩ | ⟨k, t, rest, hk, -⟩
    · exact Or.inl ⟨Q, by rw [Migrator.drain, (TaskQueue.pop?_eq_none_iff _).mpr (h.queue ▸ hp)], h⟩
    · cases hk
  | succ n ih =>
    rcases drain_some hdrain with ⟨hp, rfl⟩ | ⟨k, t, rest, hk, hp, hrest⟩
    · exact Or.inl ⟨Q, by rw [Migrator.drain, (TaskQueue.pop?_eq_none_iff _).mpr (h.queue ▸ hp)], h⟩
    · cases hk
      rw [drain_cons (h.queue ▸ hp)]
      have htake : InTune { P with queue := rest } { Q with queue := rest } :=
        ⟨h.session, rfl, h.changes, h.executed⟩
      rcases htake.attempt hreal reg t (s := s) with h₁ | hapart
      · exact ih hrest h₁
      · have hmore := (s.remembers_respects m).drain (fun _ _ => List.prefix_rfl) reg n hrest
        refine Or.inr ⟨changesOf_remembered hmore hapart.1, fun Q' hQ' => ?_⟩
        exact executed_noted
          ((notes_respects m.planning s).drain (fun _ _ => List.prefix_rfl) reg n hQ') hapart.2

/-- So it is with the run over the models. -/
theorem InTune.run {n : Nat} {models : List ResolvedModel}
    {r : Outcome (Progress (σ × List Exchange)) Unit}
    (hrun : m.forEachModel reg s.recorded n (m.updateStep s.recorded) models P = some r)
    (h : InTune P Q) :
    (∃ r', m.planning.forEachModel reg s n (m.planning.updateStep s) models Q = some r' ∧
        EndInTune r r') ∨
      changesOf (Outcome.state r).session.2 ≠ [] ∧
        ∀ r', m.planning.forEachModel reg s n (m.planning.updateStep s) models Q = some r' →
          (Outcome.state r').report.executed ≠ [] := by
  have hR := s.remembers_respects m
  have hN := notes_respects m.planning s
  induction models generalizing P Q with
  | nil =>
    cases hrun
    exact Or.inl ⟨_, rfl, .ok () h⟩
  | cons model models ih =>
    rcases ((tuned_relates hreal s).updateStep model).follows P Q h with halike | hapart
    · unfold forEachModel at hrun ⊢
      generalize m.updateStep s.recorded model P = u at halike hrun
      generalize m.planning.updateStep s model Q = u' at halike
      cases halike with
      | error e h₁ =>
        cases hrun
        exact Or.inl ⟨_, rfl, .error e h₁⟩
      | @ok P₁ Q₁ _ h₁ =>
        dsimp only at hrun ⊢
        cases hdrain : m.drain reg s.recorded n P₁ with
        | none =>
          rw [hdrain] at hrun
          cases hrun
        | some P₂ =>
          rw [hdrain] at hrun
          rcases h₁.drain hreal hdrain with ⟨Q₂, hQ₂, h₂⟩ | hapart
          · rw [hQ₂]
            exact ih hrun h₂
          · have hmore := hR.run_moves (fun _ _ => List.prefix_rfl) hR.updateStep hrun
            refine Or.inr ⟨changesOf_remembered hmore hapart.1, fun r' hr' => ?_⟩
            split at hr'
            · cases hr'
            · next Q₂ hQ₂ =>
              exact executed_noted (hN.run_moves (fun _ _ => List.prefix_rfl) hN.updateStep hr')
                (hapart.2 Q₂ hQ₂)
    · have hmore := hR.run_behind (fun _ _ => List.prefix_rfl) hR.updateStep hrun
      refine Or.inr ⟨changesOf_remembered hmore hapart.1, fun r' hr' => ?_⟩
      exact executed_noted (hN.run_behind (fun _ _ => List.prefix_rfl) hN.updateStep hr') hapart.2

end

end Migrator

end SchemaMigration
