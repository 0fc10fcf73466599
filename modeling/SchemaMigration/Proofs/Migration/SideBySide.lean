import SchemaMigration.Proofs.Migration.Steps

/-!
# Two migrations side by side

What relates the steps of two migrations often goes up from what these do one at a time: from a
question and from a change, and along two steps in a row.  `Relates` collects this, as `Respects`
does for one migration, and the lemmas below it go up from there, one for each function.  The
migrations may be on different sessions, and one of them may only plan its changes; but they plan
the same.
-/

namespace SchemaMigration

namespace Migrator

variable {σ τ : Type} {m m' : Migrator} {s : Session σ} {s' : Session τ}
variable {T : ∀ α : Type, Work σ α → Work τ α → Prop}

/-- A relation between the steps of two migrations that plan the same.  Whatever these do one at a
time is related, and so are related steps in a row. -/
structure Relates (m m' : Migrator) (s : Session σ) (s' : Session τ)
    (T : ∀ α : Type, Work σ α → Work τ α → Prop) : Prop where
  plan : ∀ a : Model, a.plan m'.dialect m'.config = a.plan m.dialect m.config
  additions : ∀ a : Model, a.additions m'.dialect m'.config = a.additions m.dialect m.config
  pure : ∀ {α : Type} (x : α), T α (Pure.pure x) (Pure.pure x)
  throw : ∀ {α : Type} (e : MigrationError), T α (MonadExcept.throw e) (MonadExcept.throw e)
  bind : ∀ {α β : Type} {a : Work σ α} {b : Work τ α} {f : α → Work σ β} {g : α → Work τ β},
    T α a b → (∀ x, T β (f x) (g x)) → T β (a >>= f) (b >>= g)
  asking : ∀ question, T Bool (Work.onSession (.ask (s.affirms m.dialect question)))
    (Work.onSession (.ask (s'.affirms m'.dialect question)))
  carrying : ∀ change, T Unit (m.carryOut s change) (m'.carryOut s' change)
  scheduling : ∀ ts, T Unit (Work.schedule ts) (Work.schedule ts)

namespace Relates

theorem ofExcept (h : Relates m m' s s' T) {α : Type} (x : Except MigrationError α) :
    T α (Action.ofExcept x) (Action.ofExcept x) := by
  cases x with
  | ok x => exact h.pure x
  | error e => exact h.throw e

theorem forM (h : Relates m m' s s' T) {β : Type} {f : β → Work σ Unit} {g : β → Work τ Unit}
    (hfg : ∀ x, T Unit (f x) (g x)) (xs : List β) : T Unit (xs.forM f) (xs.forM g) := by
  induction xs with
  | nil => exact h.pure ()
  | cons x xs ih => exact h.bind (hfg x) fun _ => ih

theorem addMissing (h : Relates m m' s s' T) (question : String → CatalogQuery)
    (change : Except MigrationError Change) :
    T Unit (m.addMissing s question change) (m'.addMissing s' question change) := by
  refine h.bind (h.asking question) fun there => ?_
  cases there with
  | true => exact h.pure ()
  | false => exact h.bind (h.ofExcept change) h.carrying

theorem updateModel (h : Relates m m' s s' T) (model : Model) :
    T Unit (m.updateModel s model) (m'.updateModel s' model) := by
  rw [updateModel_eq, updateModel_eq, h.additions]
  exact h.bind (h.forM (fun _ => h.addMissing _ _) _) fun _ => h.scheduling _

theorem createModel (h : Relates m m' s s' T) (model : Model) :
    T Unit (m.createModel s model) (m'.createModel s' model) := by
  unfold Migrator.createModel
  rw [h.plan]
  refine h.bind (h.ofExcept _) fun plan => ?_
  exact h.bind (h.carrying plan.change) fun _ => h.scheduling _

theorem updateStep (h : Relates m m' s s' T) (model : ResolvedModel) :
    T Unit (m.updateStep s model) (m'.updateStep s' model) := by
  cases model with
  | table name =>
    refine h.bind (h.asking _) fun there => ?_
    cases there with
    | true => exact h.pure ()
    | false => exact h.throw (bareTable name)
  | model model =>
    refine h.bind (h.asking _) fun there => ?_
    cases there with
    | true => exact h.updateModel model
    | false => exact h.createModel model

theorem createStep (h : Relates m m' s s' T) (model : ResolvedModel) :
    T Unit (m.createStep s model) (m'.createStep s' model) := by
  cases model with
  | table name => exact h.throw (bareTable name)
  | model model => exact h.createModel model

theorem runTask (h : Relates m m' s s' T) (reg : Registry) (t : Task) :
    T Unit (m.runTask reg s t) (m'.runTask reg s' t) := by
  cases t with
  | createIndex table i => exact h.carrying _
  | joinTable source migrateExisting =>
    refine h.bind (h.ofExcept _) fun model => ?_
    refine h.bind (h.asking _) fun there => ?_
    cases there with
    | false => exact h.createModel model
    | true =>
      cases migrateExisting with
      | true => exact h.updateModel model
      | false => exact h.pure ()

end Relates

end Migrator

end SchemaMigration
