import SchemaMigration.Proofs.Migration.Idempotence
import SchemaMigration.Proofs.Migration.Lockstep
import SchemaMigration.Proofs.Migration.Recorded

/-!
# The report tells what the session did

A migration of several tables sends changes at many places, some of them in deferred work that fails
halfway and is passed over.  Whatever the session accepts and refuses on the way, the report lists
the statements of the accepted changes and no others, in their order, and a run that only plans
sends no change at all (`report_accounts`).

> `Accounts`: the statements of the report are those of the accepted changes of the history.

All changes go through `carryOut`, which keeps this; nothing else touches the history of changes or
the statements of the report.
-/

namespace SchemaMigration

/-- The changes that a session accepted. -/
def acceptedOf (history : List Exchange) : List Change :=
  changesOf (history.filter (·.succeeded))

section

variable {history : List Exchange} {change : Change}

theorem acceptedOf_append (h h' : List Exchange) :
    acceptedOf (h ++ h') = acceptedOf h ++ acceptedOf h' := by
  rw [acceptedOf, List.filter_append, changesOf_append]
  rfl

@[simp] theorem acceptedOf_nil : acceptedOf [] = [] := rfl

@[simp] theorem acceptedOf_made : acceptedOf [⟨.execute change, true⟩] = [change] := rfl

@[simp] theorem acceptedOf_refused : acceptedOf [⟨.execute change, false⟩] = [] := rfl

/-- A question is no change, with an answer or without. -/
@[simp] theorem acceptedOf_asked (q : CatalogQuery) (succeeded : Bool) :
    acceptedOf [⟨.query q, succeeded⟩] = [] := by
  cases succeeded <;> rfl

theorem mem_acceptedOf : change ∈ acceptedOf history ↔ ⟨.execute change, true⟩ ∈ history := by
  rw [acceptedOf, mem_changesOf]
  constructor
  · rintro ⟨⟨call, succeeded⟩, hx, rfl⟩
    obtain ⟨hmem, rfl⟩ := List.mem_filter.mp hx
    exact hmem
  · exact fun h => ⟨_, List.mem_filter.mpr ⟨h, rfl⟩, rfl⟩

/-- Where there are only questions, nothing is accepted. -/
theorem Session.OnlyAsks.acceptedOf_eq {σ : Type} {x y : σ × List Exchange} (h : OnlyAsks x y) :
    acceptedOf y.2 = acceptedOf x.2 := by
  obtain ⟨asked, hy, hasked⟩ := h
  have hnone : acceptedOf asked = [] := by
    refine List.eq_nil_iff_forall_not_mem.mpr fun change hchange => ?_
    obtain ⟨q, hquery⟩ := hasked _ (mem_acceptedOf.mp hchange)
    cases hquery
  rw [hy, acceptedOf_append, hnone, List.append_nil]

end

namespace Migrator

open SchemaMigration.Action (Moves after)

variable {σ : Type} {m : Migrator} {reg : Registry} {s : Session σ}

/-- The report lists the statements of the accepted changes, in their order; where changes are only
planned, none was sent. -/
structure Accounts (m : Migrator) (history : List Exchange) (report : Report) : Prop where
  executed : m.config.dryRun = false →
    report.executed = (acceptedOf history).map (·.sql m.dialect)
  planned : m.config.dryRun = true → changesOf history = []

/-- The report of a stage accounts for its history. -/
def Accounted (m : Migrator) (p : Progress (σ × List Exchange)) : Prop :=
  m.Accounts p.session.2 p.report

/-- A step after which the report accounts for the history if it did so before. -/
abbrev KeepsAccounts (m : Migrator) (p q : Progress (σ × List Exchange)) : Prop :=
  m.Accounted p → m.Accounted q

/-- What only asks leaves the changes of the history and the report. -/
theorem keepsAccounts_ask (m : Migrator) (s : Session σ) (question : String → CatalogQuery) :
    Moves m.KeepsAccounts (Work.onSession (.ask (s.recorded.affirms m.dialect question))) := by
  intro p hp
  obtain ⟨hasks, hreport, -⟩ := Session.moves_onSession (s.onlyAsks_affirms m.dialect question) p
  refine ⟨fun hreal => ?_, fun hdry => ?_⟩
  · rw [hasks.acceptedOf_eq, hreport]
    exact hp.executed hreal
  · rw [hasks.changesOf_eq]
    exact hp.planned hdry

/-- A change is noted if the session accepts it, and not if it is refused; a planned one is not
sent. -/
theorem keepsAccounts_carryOut (m : Migrator) (s : Session σ) (change : Change) :
    Moves m.KeepsAccounts (m.carryOut s.recorded change) := by
  intro p hp
  rw [carryOut_after]
  unfold perform
  by_cases hdry : m.config.dryRun = true
  · rw [if_pos hdry]
    exact ⟨fun hreal => absurd hdry (by simp [hreal]), hp.planned⟩
  · rw [if_neg hdry]
    have hreal : m.config.dryRun = false := by simpa using hdry
    dsimp only [Session.recorded, Session.recordedAction]
    -- The session accepts the change, or it refuses it.
    cases s.execute change p.session.1 with
    | ok _ state =>
      refine ⟨fun _ => ?_, fun h => absurd h hdry⟩
      show p.report.executed ++ [change.sql m.dialect] = _
      rw [acceptedOf_append, List.map_append, ← hp.executed hreal]
      rfl
    | error e state =>
      refine ⟨fun _ => ?_, fun h => absurd h hdry⟩
      show p.report.executed = _
      rw [acceptedOf_append, acceptedOf_refused, List.append_nil]
      exact hp.executed hreal

theorem keepsAccounts_respects (m : Migrator) (s : Session σ) :
    m.Respects s.recorded m.KeepsAccounts where
  refl _ := id
  trans _ _ _ h h' := h' ∘ h
  asking question := keepsAccounts_ask m s question
  adding change _ := keepsAccounts_carryOut m s change
  scheduling _ _ hp := ⟨hp.executed, hp.planned⟩
  failing _ _ hp := ⟨hp.executed, hp.planned⟩

/-- Nothing is reported at the start, and nothing was sent. -/
theorem accounted_start (m : Migrator) (state : σ) : m.Accounted (m.start (state, [])) :=
  ⟨fun _ => rfl, fun _ => rfl⟩

/-- The report that a migration hands out accounts for its history, whatever the step for a model
does, as long as the step does. -/
theorem migrate_accounts {n : Nat} {discover : Bool}
    {step : ResolvedModel → Work (σ × List Exchange) Unit}
    (hstep : ∀ model, Moves m.KeepsAccounts (step model)) {refs : List ModelRef} {state : σ}
    {report : Report} {x : σ × List Exchange}
    (h : m.migrate reg s.recorded n discover step refs (state, []) = some (.ok report x)) :
    m.Accounts x.2 report := by
  unfold migrate at h
  split at h
  · cases h
  · obtain ⟨r, hr, hend⟩ := Option.map_eq_some_iff.mp h
    have hkeeps := (keepsAccounts_respects m s).run_moves
      (fun _ _ hp => ⟨hp.executed, hp.planned⟩) hstep hr (accounted_start m state)
    cases r with
    | error e p => cases hend
    | ok _ p =>
      cases hend
      exact hkeeps

/-- The report of a drop accounts for its history. -/
theorem dropTables_accounts {refs : List ModelRef} {state : σ} {report : Report}
    {x : σ × List Exchange}
    (h : m.dropTables reg s.recorded refs (state, []) = .ok report x) : m.Accounts x.2 report := by
  unfold dropTables at h
  split at h
  · cases h
  · next out _ =>
    have hR := keepsAccounts_respects m s
    have hmoves : Moves _ (out.reverse.forM fun model : ResolvedModel =>
        m.carryOut s.recorded (.dropTable model.tableName)) :=
      Action.moves_forM hR.refl hR.trans fun model _ => keepsAccounts_carryOut m s _
    have hend := hmoves (m.start (state, [])) (accounted_start m state)
    dsimp only at h
    rw [after] at hend
    split at hend
    · next _ p hp =>
      rw [hp] at h
      cases h
      exact hend
    · next e p hp =>
      rw [hp] at h
      cases h

/-- **The report tells what the session did.**  For every session, the report of a successful
`createTables`, `dropTables` or `autoMigrate` lists the statements of exactly those changes that the
session accepted, in the order in which they were sent, deferred work that failed in the end
included.  If changes are only planned, none was sent. -/
theorem report_accounts (m : Migrator) (reg : Registry) (s : Session σ) (refs : List ModelRef)
    (state : σ) :
    (∀ n report state', m.createTables reg s n refs state = some (.ok report state') →
      ∃ history, m.createTables reg s.recorded n refs (state, []) =
        some (.ok report (state', history)) ∧ m.Accounts history report) ∧
    (∀ report state', m.dropTables reg s refs state = .ok report state' →
      ∃ history, m.dropTables reg s.recorded refs (state, []) = .ok report (state', history) ∧
        m.Accounts history report) ∧
    ∀ n report state', m.autoMigrate reg s n refs state = some (.ok report state') →
      ∃ history, m.autoMigrate reg s.recorded n refs (state, []) =
        some (.ok report (state', history)) ∧ m.Accounts history report := by
  refine ⟨fun n report state' h => ?_, fun report state' h => ?_, fun n report state' h => ?_⟩
  · obtain ⟨history, hrun⟩ := exists_history_createTables h
    exact ⟨history, hrun,
      migrate_accounts (keepsAccounts_respects m s).createStep hrun⟩
  · have hsame := dropTables_recorded m reg s refs (state, [])
    rw [h] at hsame
    obtain ⟨history, hrun⟩ := exists_through hsame
    exact ⟨history, hrun, dropTables_accounts hrun⟩
  · obtain ⟨history, hrun⟩ := exists_history h
    exact ⟨history, hrun,
      migrate_accounts (keepsAccounts_respects m s).updateStep hrun⟩

/-! ## A join table that stays incomplete -/

/-- The join table has one of its columns, and the database refuses its second foreign key. -/
def spokenRefusing : Rehearsal where
  catalog := ⟨[("languages", { columns := ["id"] }), ("speakers", { columns := ["id"] }),
    ("speaker_languages", { columns := ["speaker_id"] })]⟩
  refusedChanges := ["ADD CONSTRAINT `fk_language`"]

/-- The task for the join table adds a column and a foreign key before it fails.  The run succeeds,
and both statements are in its report. -/
theorem report_accounts_refusing :
    ∃ report state' history,
      plainMigrator.autoMigrate spokenRegistry (Rehearsal.session Mysql.dialect) 1
        [.model languages, .model speakers] spokenRefusing = some (.ok report state') ∧
      report.failures.length = 1 ∧
      report.executed = ["ALTER TABLE `speaker_languages` ADD `language_id` bigint",
        "ALTER TABLE `speaker_languages` ADD CONSTRAINT `fk_speaker` "
          ++ "FOREIGN KEY (`speaker_id`) REFERENCES `speakers`(`id`)"] ∧
      plainMigrator.autoMigrate spokenRegistry (Rehearsal.session Mysql.dialect).recorded 1
        [.model languages, .model speakers] (spokenRefusing, []) =
        some (.ok report (state', history)) ∧
      report.executed = (acceptedOf history).map (·.sql Mysql.dialect) ∧
      (changesOf history).length = 3 := by
  have hrun : (arrival (plainMigrator.autoMigrate spokenRegistry
      (Rehearsal.session Mysql.dialect).recorded 1 [.model languages, .model speakers]
      (spokenRefusing, []))).map (fun r => (r.1.failures.length, r.1.executed,
        (changesOf r.2.2).length)) = some (1,
      ["ALTER TABLE `speaker_languages` ADD `language_id` bigint",
        "ALTER TABLE `speaker_languages` ADD CONSTRAINT `fk_speaker` "
          ++ "FOREIGN KEY (`speaker_id`) REFERENCES `speakers`(`id`)"], 3) := by decide +kernel
  obtain ⟨⟨report, state', history⟩, harrival, hvalues⟩ := Option.map_eq_some_iff.mp hrun
  have hrecorded := arrival_eq_some.mp harrival
  obtain ⟨hfailures, hexecuted, hsent⟩ := Prod.mk.inj hvalues |>.imp_right Prod.mk.inj
  have hplain := autoMigrate_recorded plainMigrator spokenRegistry (Rehearsal.session Mysql.dialect)
    1 [.model languages, .model speakers] (spokenRefusing, [])
  rw [hrecorded] at hplain
  obtain ⟨history', hrun', haccounts⟩ :=
    (report_accounts plainMigrator spokenRegistry (Rehearsal.session Mysql.dialect)
      [.model languages, .model speakers] spokenRefusing).2.2 1 report state' hplain.symm
  cases hrecorded.symm.trans hrun'
  exact ⟨report, state', history, hplain.symm, hfailures, hexecuted, hrecorded,
    haccounts.executed rfl, hsent⟩

end Migrator

end SchemaMigration
