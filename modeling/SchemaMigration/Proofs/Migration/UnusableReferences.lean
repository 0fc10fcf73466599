import SchemaMigration.Proofs.Migration.FirstChange
import SchemaMigration.Proofs.Migration.Idempotence
import SchemaMigration.Proofs.Order.Listing

/-!
# References that cannot be used

A reference may have no description, or be a literal name where a description is needed or where the
table must be there and is not.  Nothing looks for such references before a migration begins.  Still
each of them ends the migration before the first change, wherever it stands among good ones
(`unusable_aborts`): all references are described before the first step, and in the order the
literal names come before all models.
-/

namespace SchemaMigration

/-- A reference without a description is all that comes of ordering. -/
theorem FirstFailing.order_eq {reg : Registry} {refs : List ModelRef} {e : SchemaError}
    (h : FirstFailing reg refs e) (discover : Bool) : order reg discover refs = .error e := by
  rw [order, describeAll_error_iff.mpr h]

/-- Literal names come first. -/
theorem order_literals {reg : Registry} {discover : Bool} {refs : List ModelRef}
    {out : List ResolvedModel} (h : order reg discover refs = .ok out) :
    ∃ placed : List Model,
      out = (refs.filterMap (·.literal?)).map .table ++ placed.map .model := by
  obtain ⟨w, -, hout⟩ := order_ok h
  exact ⟨w.placed, hout⟩

namespace Session

variable {σ : Type} {s : Session σ} {d : Dialect}

/-- The first of these tables that is not found when they are asked for one after the other, and the
state of the session then. -/
def firstMissing (s : Session σ) (d : Dialect) : List String → σ → Option String × σ
  | [], state => (none, state)
  | table :: tables, state =>
    match s.hasTable d table state with
    | (true, state) => firstMissing s d tables state
    | (false, state) => (some table, state)

/-- If asking changes nothing, the first table that is not there is not found. -/
theorem firstMissing_eq_find? {state : σ} {there : String → Bool}
    (h : ∀ t, s.hasTable d t state = (there t, state)) (tables : List String) :
    s.firstMissing d tables state = (tables.find? (!there ·), state) := by
  induction tables with
  | nil => rfl
  | cons table tables ih =>
    rw [firstMissing, h table]
    cases ht : there table with
    | true =>
      rw [List.find?_cons_of_neg (by simp [ht])]
      exact ih
    | false => rw [List.find?_cons_of_pos (by simp [ht])]

/-- The history does not change what is found, and finding out changes nothing. -/
theorem firstMissing_recorded (tables : List String) :
    ∀ (state : σ) (history : List Exchange), ∃ history', changesOf history' = changesOf history ∧
      s.recorded.firstMissing d tables (state, history) =
        ((s.firstMissing d tables state).1, ((s.firstMissing d tables state).2, history')) := by
  induction tables with
  | nil => exact fun _ history => ⟨history, rfl, rfl⟩
  | cons table tables ih =>
    intro state history
    obtain ⟨asked, hasked, hanswer⟩ := s.affirms_recorded d (.table · table) state history
    unfold firstMissing
    rw [show s.recorded.hasTable d table (state, history) =
      ((s.hasTable d table state).1, ((s.hasTable d table state).2, asked)) from hanswer]
    obtain ⟨there, state'⟩ := s.hasTable d table state
    cases there with
    | true =>
      obtain ⟨history', hsame, hrest⟩ := ih state' asked
      exact ⟨history', hsame.trans hasked, hrest⟩
    | false => exact ⟨asked, hasked, rfl⟩

end Session

namespace Migrator

variable {σ : Type} {m : Migrator} {reg : Registry} {s : Session σ}

/-- The step for a literal name asks for the table. -/
theorem updateStep_literal (m : Migrator) (s : Session σ) (table : String) (p : Progress σ) :
    m.updateStep s (.table table) p =
      match s.hasTable m.dialect table p.session with
      | (true, session) => .ok () { p with session }
      | (false, session) => .error (bareTable table) { p with session } := by
  unfold updateStep
  show EStateM.bind (Work.onSession (.ask (s.hasTable m.dialect table))) _ p = _
  unfold EStateM.bind Work.onSession Action.ask
  obtain ⟨there, session⟩ := s.hasTable m.dialect table p.session
  cases there <;> rfl

/-- A run that updates tables asks for the literal names, and ends at the first one that is not
found; else it goes on behind them. -/
theorem forEachModel_literals {n : Nat} {rest : List ResolvedModel} :
    ∀ {tables : List String} {p : Progress σ}, p.queue.tasks = [] →
      m.forEachModel reg s n (m.updateStep s) (tables.map .table ++ rest) p =
        match s.firstMissing m.dialect tables p.session with
        | (some name, session) => some (.error (bareTable name) { p with session })
        | (none, session) => m.forEachModel reg s n (m.updateStep s) rest { p with session } := by
  intro tables
  induction tables with
  | nil => exact fun _ => rfl
  | cons table tables ih =>
    intro p hp
    rw [List.map_cons, List.cons_append, forEachModel, updateStep_literal, Session.firstMissing]
    obtain ⟨there, session⟩ := s.hasTable m.dialect table p.session
    cases there with
    | false => rfl
    | true =>
      have hdrain : m.drain reg s n { p with session } = some { p with session } := by
        rw [drain, (TaskQueue.pop?_eq_none_iff _).mpr hp]
      dsimp only
      rw [hdrain]
      exact ih (p := { p with session }) hp

/-- **References that cannot be used end a migration before its first change.**  For every session:
if a reference cannot be described, all three operations on several tables fail for the reason of
the first such reference, without any call.  If all can be described, `createTables` fails for the
first literal name, if there is one, without any call; and `autoMigrate`, if discovery succeeds,
fails for the first literal name whose table is not found, without a change. -/
theorem unusable_aborts (m : Migrator) (reg : Registry) (s : Session σ) (n : Nat)
    (refs : List ModelRef) (state : σ) :
    (∀ e, FirstFailing reg refs e →
      m.createTables reg s.recorded n refs (state, []) = some (.error (.parse e) (state, [])) ∧
      m.dropTables reg s.recorded refs (state, []) = .error (.parse e) (state, []) ∧
      m.autoMigrate reg s.recorded n refs (state, []) = some (.error (.parse e) (state, []))) ∧
    ((∀ ref ∈ refs, ∃ x, ref.resolve reg = .ok x) →
      (∀ name, (refs.filterMap (·.literal?)).head? = some name →
        m.createTables reg s.recorded n refs (state, []) =
          some (.error (bareTable name) (state, []))) ∧
      ∀ out, order reg true refs = .ok out → ∀ name state',
        s.firstMissing m.dialect (refs.filterMap (·.literal?)) state = (some name, state') →
          ∃ history, m.autoMigrate reg s.recorded n refs (state, []) =
            some (.error (bareTable name) (state', history)) ∧ changesOf history = []) := by
  refine ⟨fun e h => ⟨?_, ?_, ?_⟩,
    fun hall => ⟨fun name hname => ?_, fun out ho name state' h => ?_⟩⟩
  · rw [createTables, migrate, h.order_eq]
  · rw [dropTables, h.order_eq]
  · rw [autoMigrate, migrate, h.order_eq]
  · obtain ⟨listed, hlisted⟩ := describeAll_ok_iff.mpr hall
    obtain ⟨out, ho⟩ := order_total hlisted
    obtain ⟨placed, rfl⟩ := order_literals ho
    obtain ⟨others, hliterals⟩ := List.head?_eq_some_iff.mp hname
    rw [hliterals] at ho
    rw [createTables, migrate, ho]
    rfl
  · obtain ⟨placed, rfl⟩ := order_literals ho
    obtain ⟨history, hnone, hrecorded⟩ :=
      s.firstMissing_recorded (d := m.dialect) (refs.filterMap (·.literal?)) state []
    rw [h] at hrecorded
    refine ⟨history, ?_, hnone⟩
    rw [autoMigrate, migrate, ho]
    dsimp only
    rw [forEachModel_literals rfl, show (m.start (state, [])).session = (state, []) from rfl,
      hrecorded]
    rfl

/-- Behind a good reference: a handle to nothing, a literal name where a table is to be created, and
one of a table that is not there. -/
theorem unusable_aborts_speakers :
    plainMigrator.createTables spokenRegistry (Catalog.session Mysql.dialect "app").recorded 1
        [.model languages, .table "speakers", .source ⟨"Lost", 7⟩] ({}, []) =
      some (.error (.parse (.unresolvedModel "Lost" "no such definition")) ({}, [])) ∧
    plainMigrator.createTables spokenRegistry (Catalog.session Mysql.dialect "app").recorded 1
        [.model languages, .table "speakers"] ({}, []) =
      some (.error (bareTable "speakers") ({}, [])) ∧
    ∃ history, plainMigrator.autoMigrate spokenRegistry
        (Catalog.session Mysql.dialect "app").recorded 1
        [.model languages, .table "speaker_languages", .table "visits"] (speakersAfter, []) =
      some (.error (bareTable "visits") (speakersAfter, history)) ∧ changesOf history = [] := by
  have hlost : FirstFailing spokenRegistry
      [.model languages, .table "speakers", .source ⟨"Lost", 7⟩]
      (.unresolvedModel "Lost" "no such definition") := by
    refine ⟨[.model languages, .table "speakers"], .source ⟨"Lost", 7⟩, [], rfl, ?_, rfl⟩
    simp [ModelRef.resolve]
  have hasked : ∀ t, (Catalog.session Mysql.dialect "app").hasTable plainMigrator.dialect t
      speakersAfter = (speakersAfter.has t .table, speakersAfter) := fun t =>
    Catalog.session_affirms speakersAfter _ _ "app" t .table
  refine ⟨?_, ?_, ?_⟩
  · exact ((unusable_aborts plainMigrator spokenRegistry (Catalog.session Mysql.dialect "app") 1 _
      {}).1 _ hlost).1
  · refine ((unusable_aborts plainMigrator spokenRegistry (Catalog.session Mysql.dialect "app") 1
      [.model languages, .table "speakers"] {}).2 ?_).1 "speakers" rfl
    simp [ModelRef.resolve]
  · refine ((unusable_aborts plainMigrator spokenRegistry (Catalog.session Mysql.dialect "app") 1
      [.model languages, .table "speaker_languages", .table "visits"] speakersAfter).2 ?_).2
        [.table "speaker_languages", .table "visits", .model languages] ?_ "visits" speakersAfter ?_
    · simp [ModelRef.resolve]
    · with_unfolding_all rfl
    · rw [Session.firstMissing_eq_find? hasked]
      with_unfolding_all rfl

end Migrator

end SchemaMigration
