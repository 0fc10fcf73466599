import SchemaMigration.Proofs.Migration.ClientSide
import SchemaMigration.Proofs.Migration.ConstraintNames

/-!
# Failures of operations on one table

An operation resolves its reference, then its names, then the types of its columns, and calls the
session last.  So an error that is said to be the client's comes before any call
(`clientSide_untouched`), whatever the session does, as long as it does not claim to be the client
itself.

One operation seems to be different.  The constraints of a field may be created one by one and
counted, and only when none was counted are they reported as missing (`createOneByOne`).  This is
what `createFieldConstraints` does, and `createConstraint` with the name of a field: as nothing was
made where nothing is counted, the two ways cannot be told apart
(`run_createFieldConstraints`, `run_createConstraint_field`).
-/

namespace SchemaMigration

namespace Action

variable {σ α β : Type}

/-- A failure that is said to be the client's leaves the state as it was. -/
def ClientFailsFirst (a : Action σ α) : Prop :=
  ∀ x e y, a x = .error e y → e.isClientSide = true → y = x

theorem clientFailsFirst_ofExcept (x : Except MigrationError α) :
    ClientFailsFirst (σ := σ) (ofExcept x) := by
  intro s e t h _
  cases x with
  | ok a => cases h
  | error e' =>
    cases h
    rfl

theorem FailsOnly.clientFailsFirst {a : Action σ α} (h : FailsOnly (·.isClientSide = false) a) :
    ClientFailsFirst a := by
  intro x e y hx hclient
  rw [h x e y hx] at hclient
  cases hclient

/-- What may fail on the client's side comes first, and all that is behind it does not. -/
theorem clientFailsFirst_bind (x : Except MigrationError α) {f : α → Action σ β}
    (hf : ∀ a, x = .ok a → ClientFailsFirst (f a)) : ClientFailsFirst (ofExcept x >>= f) := by
  cases x with
  | error e => exact clientFailsFirst_ofExcept (.error e)
  | ok a =>
    intro s e t h hclient
    rw [bind_of_ok (ofExcept_ok.mpr ⟨rfl, rfl⟩)] at h
    exact hf a rfl s e t h hclient

end Action

open SchemaMigration.Action (FailsOnly failsOnly_pure failsOnly_forM ClientFailsFirst
  clientFailsFirst_ofExcept clientFailsFirst_bind bind_of_ok bind_of_error ofExcept_ok)

namespace Session

variable {σ : Type} {s : Session σ}

/-- What the session fails with, at a change or at a question, is not said to be the client's. -/
structure OwnsFailures (s : Session σ) : Prop where
  refusals : s.OwnsRefusals
  queries : ∀ q, FailsOnly (·.isClientSide = false) (s.query q)

theorem OwnsFailures.recorded (h : s.OwnsFailures) : s.recorded.OwnsFailures where
  refusals := Migrator.recorded_ownsRefusals h.refusals
  queries q x e y hx := by
    change Session.recordedAction _ (s.query q) x = _ at hx
    unfold Session.recordedAction at hx
    split at hx
    · cases hx
    · next e' state hfailed =>
      cases hx
      exact h.queries q _ _ _ hfailed

/-- The session on a catalog refuses changes only, and in its own name. -/
theorem catalog_ownsFailures (d : Dialect) (database : String) :
    (Catalog.session d database).OwnsFailures where
  refusals := Migrator.catalog_ownsRefusals d database
  queries q x e y hx := by cases hx

theorem OwnsFailures.currentDatabase (h : s.OwnsFailures) (d : Dialect) :
    FailsOnly (·.isClientSide = false) (s.currentDatabase d) := by
  refine (h.queries _).bind fun rows => ?_
  cases rows.head?.bind (Row.text? · 0) with
  | some name => exact failsOnly_pure name
  | none =>
    intro x e y hx
    cases hx
    rfl

theorem OwnsFailures.columnTypes (h : s.OwnsFailures) (d : Dialect) (table : String) :
    FailsOnly (·.isClientSide = false) (s.columnTypes d table) :=
  (h.currentDatabase d).bind fun _ => (h.queries _).bind fun _ => failsOnly_pure _

end Session

namespace Migrator

variable {σ : Type} {m : Migrator} {reg : Registry} {s : Session σ} {ref : ModelRef}
variable {a : Model}

/-! ## Operations on one table -/

theorem failsOnly_perform (hs : s.OwnsRefusals) (m : Migrator) (change : Change) :
    FailsOnly (·.isClientSide = false) (m.perform s change) := by
  unfold perform
  split
  · exact failsOnly_pure ()
  · exact hs change

/-- A question about a reference fails because of the reference, if it fails at all. -/
theorem clientFailsFirst_verdict (ref : ModelRef) (question : ResolvedModel → σ → Bool × σ) :
    ClientFailsFirst (do
      let r ← Action.ofExcept (Operation.resolve reg ref)
      pure (Answer.verdict (← Action.ask (question r))) : Action σ Answer) := by
  refine clientFailsFirst_bind _ fun r _ => FailsOnly.clientFailsFirst ?_
  refine FailsOnly.bind (fun x e y h => ?_) fun _ => failsOnly_pure _
  cases h

/-- Asking fails because of the reference or in the name of the session. -/
theorem clientFailsFirst_inquire (hs : s.OwnsFailures) (op : Operation) :
    ClientFailsFirst (m.inquire reg s op) := by
  cases op with
  | hasTable model => exact clientFailsFirst_verdict model fun r => s.hasTable m.dialect r.tableName
  | hasColumn model field =>
    exact clientFailsFirst_verdict model fun r =>
      s.hasColumn m.dialect r.tableName (r.columnName field)
  | hasConstraint model name =>
    exact clientFailsFirst_verdict model fun r =>
      s.hasConstraint m.dialect r.tableName (r.constraintName name)
  | hasIndex model name =>
    exact clientFailsFirst_verdict model fun r =>
      s.hasIndex m.dialect r.tableName (r.indexName name)
  | columnTypes model =>
    exact clientFailsFirst_bind _ fun r _ => FailsOnly.clientFailsFirst
      ((hs.columnTypes m.dialect r.tableName).bind fun _ => failsOnly_pure _)
  | currentDatabase =>
    exact FailsOnly.clientFailsFirst
      ((hs.currentDatabase m.dialect).bind fun _ => failsOnly_pure _)
  | _ => exact FailsOnly.clientFailsFirst (failsOnly_pure Answer.done)

/-- An operation makes changes or asks, but not both. -/
theorem changes_or_asks (d : Dialect) (op : Operation) {changes : List Change}
    (h : op.changes d reg = .ok changes) :
    changes = [] ∨ ∀ {τ : Type} (m : Migrator) (s : Session τ), m.inquire reg s op = pure .done := by
  cases op with
  | hasTable | hasColumn | columnTypes | hasConstraint | hasIndex | currentDatabase =>
    cases h
    exact Or.inl rfl
  | _ => exact Or.inr fun m s => rfl

theorem clientFailsFirst_run (hs : s.OwnsFailures) (op : Operation) :
    ClientFailsFirst (m.run reg s op) := by
  refine clientFailsFirst_bind _ fun changes hchanges => ?_
  rcases changes_or_asks m.dialect op hchanges with rfl | hdone
  · exact clientFailsFirst_inquire hs op
  · rw [hdone m s]
    exact FailsOnly.clientFailsFirst ((failsOnly_forM fun change _ =>
      failsOnly_perform hs.refusals m change).bind fun _ => failsOnly_pure Answer.done)

/-- Tables are not dropped because of a reference, before the first drop, or in the name of the
session. -/
theorem clientFailsFirst_dropTables (hs : s.OwnsRefusals) (refs : List ModelRef) :
    ClientFailsFirst (m.dropTables reg s refs) := by
  intro state e state' h hclient
  unfold dropTables at h
  cases ho : order reg false refs with
  | error cause =>
    rw [ho] at h
    cases h
    rfl
  | ok models =>
    rw [ho] at h
    have hdrops : FailsOnly (·.isClientSide = false)
        (models.reverse.forM fun model => m.carryOut s (.dropTable model.tableName)) :=
      failsOnly_forM fun model _ => failsOnly_carryOut hs m _
    dsimp only at h
    cases hrun : (models.reverse.forM fun model => m.carryOut s (.dropTable model.tableName))
        (m.start state) with
    | ok _ p =>
      rw [hrun] at h
      cases h
    | error e' p =>
      rw [hrun] at h
      cases h
      rw [hdrops _ _ _ hrun] at hclient
      cases hclient

/-! ## The constraints of a field, one by one -/

/-- Makes a change and counts it. -/
def performCounted (m : Migrator) (s : Session σ) (created : Nat) (change : Change) :
    Action σ Nat := do
  m.perform s change
  pure (created + 1)

/-- Creates the constraints of a field one by one, first its checks and then the indexes of its
foreign keys, and reports them as missing if there was none to create. -/
def createOneByOne (m : Migrator) (s : Session σ) (a : Model) (field : String) :
    Action σ Answer :=
  match a.column? field with
  | none => throw (.lookup "field" field a.table)
  | some c => do
    let isOwner (owner : Option String) : Bool := owner.any c.answersTo
    let checks ← (a.checks.filter (isOwner ·.field)).foldlM
      (fun created check => m.performCounted s created (.addCheck a.table check)) 0
    let created ← (a.foreignKeys.filter (isOwner ·.field)).foldlM
      (fun created k =>
        match a.indexes.find? (·.name = k.name) with
        | some i => m.performCounted s created (.createIndex a.table i)
        | none => pure created) checks
    if created = 0 then throw (.lookup "constraint" field a.table) else pure .done

/-- Counting what is made comes to the number of changes, once all of them are made. -/
theorem foldlM_performCounted (changes : List Change) : ∀ created : Nat,
    changes.foldlM (m.performCounted s) created =
      (do changes.forM (m.perform s); pure (created + changes.length) : Action σ Nat) := by
  induction changes with
  | nil => exact fun created => rfl
  | cons change changes ih =>
    intro created
    have hlength : created + (change :: changes).length = created + 1 + changes.length := by
      simp only [List.length_cons]
      omega
    have hforM : (change :: changes).forM (m.perform s) =
        (do m.perform s change; changes.forM (m.perform s)) := rfl
    rw [List.foldlM_cons, hlength, hforM]
    simp only [performCounted, bind_assoc, pure_bind, ih]

/-- Both loops together count the changes that create the constraints of the field. -/
theorem createOneByOne_counted (m : Migrator) (s : Session σ) {a : Model} {field : String}
    {c : Column} (hc : a.column? field = some c) :
    m.createOneByOne s a field =
      (do
        let created ← (Operation.fieldConstraints a c).foldlM (m.performCounted s) 0
        if created = 0 then throw (.lookup "constraint" field a.table) else pure .done) := by
  have hkeys : ∀ checks : Nat,
      (a.foreignKeys.filter fun k => k.field.any c.answersTo).foldlM
        (fun created k =>
          match a.indexes.find? (·.name = k.name) with
          | some i => m.performCounted s created (.createIndex a.table i)
          | none => pure created) checks =
      (((a.foreignKeys.filter fun k => k.field.any c.answersTo).filterMap fun k =>
        (a.indexes.find? (·.name = k.name)).map (.createIndex a.table)).foldlM
          (m.performCounted s) checks : Action σ Nat) := by
    intro checks
    rw [List.foldlM_filterMap]
    congr 1
    funext created k
    cases a.indexes.find? (·.name = k.name) <;> rfl
  unfold createOneByOne Operation.fieldConstraints
  rw [hc, List.foldlM_append, List.foldlM_map]
  simp only [hkeys, bind_assoc]

/-- Counting after the fact and looking first cannot be told apart. -/
theorem createOneByOne_eq (m : Migrator) (s : Session σ) (a : Model) (field : String) :
    m.createOneByOne s a field =
      (do
        let changes ← Action.ofExcept (Operation.fieldChanges a field)
        changes.forM (m.perform s)
        pure .done) := by
  unfold Operation.fieldChanges
  cases hc : a.column? field with
  | none =>
    unfold createOneByOne
    rw [hc]
    rfl
  | some c =>
    rw [createOneByOne_counted m s hc, foldlM_performCounted]
    dsimp only
    cases Operation.fieldConstraints a c with
    | nil => rfl
    | cons change changes =>
      simp only [bind_assoc, pure_bind]
      rw [if_neg (by simp)]
      rfl

/-- Creating the constraints of a field is creating them one by one. -/
theorem run_createFieldConstraints (m : Migrator) (reg : Registry) (s : Session σ)
    (ref : ModelRef) (field : String) :
    m.run reg s (.createFieldConstraints ref field) =
      (do
        let a ← Action.ofExcept (Operation.describe reg "field" field ref)
        m.createOneByOne s a field) := by
  unfold run
  rw [Operation.changes]
  cases Operation.describe reg "field" field ref with
  | error e => rfl
  | ok a => exact (createOneByOne_eq m s a field).symm

/-- So is creating a constraint by a name that only a field has. -/
theorem run_createConstraint_field {name : String} (m : Migrator) (s : Session σ)
    (ha : Operation.describe reg "constraint" name ref = .ok a) (hcheck : a.check? name = none)
    (hkey : (a.foreignKey? name).or (a.relationshipKey? name) = none)
    (hfield : (a.column? name).isSome = true) :
    m.run reg s (.createConstraint ref name) = m.createOneByOne s a name := by
  have hchanges : (Operation.createConstraint ref name).changes m.dialect reg =
      Operation.fieldChanges a name := by
    rw [Operation.changes, ha]
    show Operation.constraintChanges a name = _
    rw [Operation.constraintChanges, hcheck]
    dsimp only
    rw [hkey]
    dsimp only
    rw [if_pos hfield]
  rw [createOneByOne_eq, run, hchanges]
  rfl

theorem clientFailsFirst_createOneByOne (hs : s.OwnsRefusals) (a : Model) (field : String) :
    ClientFailsFirst (m.createOneByOne s a field) := by
  rw [createOneByOne_eq]
  exact clientFailsFirst_bind _ fun changes _ => FailsOnly.clientFailsFirst
    ((failsOnly_forM fun change _ => failsOnly_perform hs m change).bind
      fun _ => failsOnly_pure Answer.done)

/-! ## The theorem -/

/-- What fails first for the client has called nothing, if it has a history to show. -/
theorem untouched_of_clientFailsFirst {α : Type} {act : Action (σ × List Exchange) α}
    (h : ClientFailsFirst act) {state state' : σ} {e : MigrationError} {history : List Exchange}
    (hrun : act (state, []) = .error e (state', history)) (hclient : e.isClientSide = true) :
    state' = state ∧ history = [] :=
  Prod.mk.inj (h _ _ _ hrun hclient)

/-- **Errors of the client come before any call.**  Take any session that does not claim to be the
client when it fails.  If an operation on one table, or dropping several, fails with an error that
is said to be the client's, then the session was not called at all, neither for a change nor for a
question.

This holds of the constraints of a field too, where they are created one by one and reported as
missing when none was created: so do `createFieldConstraints`, and `createConstraint` with a name
that only a field has. -/
theorem clientSide_untouched (m : Migrator) (reg : Registry) (s : Session σ) (hs : s.OwnsFailures)
    (state : σ) :
    (∀ op e state' history,
      m.run reg s.recorded op (state, []) = .error e (state', history) →
      e.isClientSide = true → state' = state ∧ history = []) ∧
    (∀ refs e state' history,
      m.dropTables reg s.recorded refs (state, []) = .error e (state', history) →
      e.isClientSide = true → state' = state ∧ history = []) ∧
    (∀ a field e state' history,
      m.createOneByOne s.recorded a field (state, []) = .error e (state', history) →
      e.isClientSide = true → state' = state ∧ history = []) ∧
    (∀ ref field, m.run reg s.recorded (.createFieldConstraints ref field) =
      (do
        let a ← Action.ofExcept (Operation.describe reg "field" field ref)
        m.createOneByOne s.recorded a field)) ∧
    ∀ ref a name, Operation.describe reg "constraint" name ref = .ok a →
      a.check? name = none → (a.foreignKey? name).or (a.relationshipKey? name) = none →
      (a.column? name).isSome = true →
        m.run reg s.recorded (.createConstraint ref name) = m.createOneByOne s.recorded a name := by
  have hrecorded : s.recorded.OwnsFailures := hs.recorded
  refine ⟨fun op e state' history h hclient => ?_, fun refs e state' history h hclient => ?_,
    fun a field e state' history h hclient => ?_, fun ref field => ?_,
    fun ref a name ha hcheck hkey hfield => ?_⟩
  · exact untouched_of_clientFailsFirst (clientFailsFirst_run hrecorded op) h hclient
  · exact untouched_of_clientFailsFirst (clientFailsFirst_dropTables hrecorded.refusals refs) h
      hclient
  · exact untouched_of_clientFailsFirst
      (clientFailsFirst_createOneByOne hrecorded.refusals a field) h hclient
  · exact run_createFieldConstraints m reg s.recorded ref field
  · exact run_createConstraint_field m s.recorded ha hcheck hkey hfield

/-- A column without a type that is to be altered, a field without constraints, by its own operation
and by its name, and a handle to nothing behind a table that is there: each fails on the client's
side, and nothing is called. -/
theorem clientSide_untouched_shop :
    (∃ c history, plainMigrator.run {} (Catalog.session Mysql.dialect "app").recorded
        (.alterColumn (.model notes) "body") (shopAfter, []) =
      .error (.emptyDataType "notes" "body") (c, history) ∧ c = shopAfter ∧ history = []) ∧
    (∃ c history, plainMigrator.run {} (Catalog.session Mysql.dialect "app").recorded
        (.createFieldConstraints (.model shopOrders) "user_id") (shopAfter, []) =
      .error (.lookup "constraint" "user_id" "orders") (c, history) ∧
        c = shopAfter ∧ history = []) ∧
    (∃ c history, plainMigrator.createOneByOne (Catalog.session Mysql.dialect "app").recorded
        shopOrders "user_id" (shopAfter, []) =
      .error (.lookup "constraint" "user_id" "orders") (c, history) ∧
        c = shopAfter ∧ history = []) ∧
    ∃ c history, plainMigrator.dropTables {} (Catalog.session Mysql.dialect "app").recorded
        [.model shopOrders, .source ⟨"Lost", 7⟩] (shopAfter, []) =
      .error (.parse (.unresolvedModel "Lost" "no such definition")) (c, history) ∧
        c = shopAfter ∧ history = [] := by
  obtain ⟨hrun, hdrop, hcount, -, -⟩ := clientSide_untouched plainMigrator {}
    (Catalog.session Mysql.dialect "app") (Session.catalog_ownsFailures _ _) shopAfter
  have halter : plainMigrator.run {} (Catalog.session Mysql.dialect "app").recorded
      (.alterColumn (.model notes) "body") (shopAfter, []) =
      .error (.emptyDataType "notes" "body") (shopAfter, []) := by with_unfolding_all rfl
  have hfield : plainMigrator.run {} (Catalog.session Mysql.dialect "app").recorded
      (.createFieldConstraints (.model shopOrders) "user_id") (shopAfter, []) =
      .error (.lookup "constraint" "user_id" "orders") (shopAfter, []) := by with_unfolding_all rfl
  have hone : plainMigrator.createOneByOne (Catalog.session Mysql.dialect "app").recorded
      shopOrders "user_id" (shopAfter, []) =
      .error (.lookup "constraint" "user_id" "orders") (shopAfter, []) := by with_unfolding_all rfl
  have hlost : plainMigrator.dropTables {} (Catalog.session Mysql.dialect "app").recorded
      [.model shopOrders, .source ⟨"Lost", 7⟩] (shopAfter, []) =
      .error (.parse (.unresolvedModel "Lost" "no such definition")) (shopAfter, []) := by
    with_unfolding_all rfl
  exact ⟨⟨_, _, halter, hrun _ _ _ _ halter rfl⟩, ⟨_, _, hfield, hrun _ _ _ _ hfield rfl⟩,
    ⟨_, _, hone, hcount _ _ _ _ _ hone rfl⟩, ⟨_, _, hlost, hdrop _ _ _ _ hlost rfl⟩⟩

end Migrator

end SchemaMigration
