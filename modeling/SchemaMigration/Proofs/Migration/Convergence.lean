import SchemaMigration.Proofs.Catalog.Reader
import SchemaMigration.Proofs.Migration.OnCatalog

/-!
# A migration arrives where it should

When `autoMigrate` has succeeded on a database that answers truthfully, and no deferred work has
failed, then every model that it ordered is there with all that it declares
(`autoMigrate_converges`), whatever the database had before.

A table may have been missing, may have been there in part, or may have been made on the way as the
join table of another model, from another description.  None of this matters: the step for a model
updates a table that is there, or creates it and leaves just indexes to the deferred work, which
creates them (`drain_done`).  Either way the table conforms then (`updateStep_conforms`), and the
catalog only grows.
-/

namespace SchemaMigration

namespace Migrator

open SchemaMigration.Action (Moves after bind_ok ofExcept_ok)

variable {m : Migrator} {reg : Registry} {d : Dialect} {database : String}
variable {p q r : Progress Catalog}

section

variable (hreal : m.config.dryRun = false)

include hreal

/-- The step for a model and the deferred work after it leave a table that conforms to it. -/
theorem updateStep_conforms {model : Model} {n : Nat}
    (hstep : m.updateStep (Catalog.session d database) (.model model) p = .ok () q)
    (hdrain : m.drain reg (Catalog.session d database) n q = some r)
    (hclean : r.report.failures = []) : r.session.Conforms m.config model := by
  have hmove := (advances_respects m d database).drain advances_take reg n hdrain
  rcases updateStep_ok hstep with ⟨hp, hupdate⟩ | ⟨-, hcreate⟩
  · exact (updateModel_conforms hreal hp hupdate).grows hmove.grows
  · obtain ⟨hparts, hqueue⟩ := createModel_ok hreal hcreate
    refine conforms_of_created reg
      (fun part hpart => hmove.grows _ _ ((hparts _ _).mpr (Or.inr ⟨rfl, hpart⟩)))
      fun t ht => drain_done hreal hdrain hclean t ?_
    rw [hqueue]
    exact List.mem_append_right _ ht

/-- At the end of a run without failures the catalog conforms to every model of the run. -/
theorem forEachModel_conforms {n : Nat} {models : List ResolvedModel}
    (h : m.forEachModel reg (Catalog.session d database) n
      (m.updateStep (Catalog.session d database)) models p = some (.ok () q))
    (hclean : q.report.failures = []) {model : Model} (hm : .model model ∈ models) :
    q.session.Conforms m.config model :=
  (advances_respects m d database).run_establishes advances_take
    (advances_respects m d database).updateStep
    (Q := fun model r => r.report.failures = [] →
      ∀ n, model = .model n → r.session.Conforms m.config n)
    (fun _ _ _ hmove hq hr n hn => (hq (hmove.clean hr) n hn).grows hmove.grows)
    (fun _ _ p q r hstep hdrain hr n hn => by
      subst hn
      exact updateStep_conforms hreal hstep hdrain hr)
    h _ hm hclean model rfl

end

/-! ## The theorem -/

/-- The catalog of the session ends up with all that the ordered models declare, and the session says
so: for each of them the table is there, with every column, every foreign key, every check and, where
indexes are migrated, every index.  This is so for every dialect. -/
theorem autoMigrate_arrives (m : Migrator) (reg : Registry) (d : Dialect) (database : String)
    (allowance : Nat) (refs : List ModelRef) (c c' : Catalog) (report : Report)
    (hreal : m.config.dryRun = false)
    (hrun : m.autoMigrate reg (Catalog.session d database) allowance refs c =
      some (.ok report c'))
    (hclean : report.failures = []) :
    ∃ out, order reg true refs = .ok out ∧ ∀ model, .model model ∈ out →
      c'.Conforms m.config model ∧
      (Catalog.session d database).hasTable m.dialect model.table c' = (true, c') ∧
      (∀ x ∈ model.columns,
        (Catalog.session d database).hasColumn m.dialect model.table x.name c' = (true, c')) ∧
      (∀ k ∈ model.foreignKeys,
        (Catalog.session d database).hasConstraint m.dialect model.table k.name c' = (true, c')) ∧
      (∀ k ∈ model.checks,
        (Catalog.session d database).hasConstraint m.dialect model.table k.name c' = (true, c')) ∧
      (m.config.migrateIndexes = true → ∀ i ∈ model.indexes,
        (Catalog.session d database).hasIndex m.dialect model.table i.name c' = (true, c')) := by
  obtain ⟨out, q, ho, hall, rfl, rfl⟩ := autoMigrate_ok.mp hrun
  refine ⟨out, ho, fun model hm => ?_⟩
  have hconf := forEachModel_conforms hreal hall hclean hm
  have answers : ∀ part, part ∈ model.parts m.config →
      (Catalog.session d database).affirms m.dialect
        (fun named => part.question model.table named) q.session = (true, q.session) := by
    intro part hpart
    rw [Catalog.session_affirms, hconf part hpart]
  refine ⟨hconf, answers .table ?_, fun x hx => answers (.column x.name) ?_,
    fun k hk => answers (.constraint k.name) ?_, fun k hk => answers (.constraint k.name) ?_,
    fun hi i hmem => answers (.index i.name) ?_⟩
  · simp [Model.parts]
  · simpa [Model.parts] using ⟨x, hx, rfl⟩
  · simpa [Model.parts] using Or.inl ⟨k, hk, rfl⟩
  · simpa [Model.parts] using Or.inr ⟨k, hk, rfl⟩
  · simpa [Model.parts, hi] using ⟨i, hmem, rfl⟩

/-- **Migration converges.**  If `autoMigrate` succeeds on a database that reads the statements that it
is sent, and no deferred work fails, the database ends up with all that the ordered models declare,
and its answers to the queries of the inspection say so: for each of the models the table is there,
with every column, every foreign key, every check and, where indexes are migrated, every index. -/
theorem autoMigrate_converges (m : Migrator) (reg : Registry) (d : Dialect) (hd : d.Understood)
    (database : String) (allowance : Nat) (refs : List ModelRef) (c c' : Catalog) (report : Report)
    (hreal : m.config.dryRun = false)
    (hrun : m.autoMigrate reg ((Catalog.reader d database).session d) allowance refs c =
      some (.ok report c'))
    (hclean : report.failures = []) :
    ∃ out, order reg true refs = .ok out ∧ ∀ model, .model model ∈ out →
      c'.Conforms m.config model ∧
      ((Catalog.reader d database).session d).hasTable m.dialect model.table c' = (true, c') ∧
      (∀ x ∈ model.columns, ((Catalog.reader d database).session d).hasColumn
        m.dialect model.table x.name c' = (true, c')) ∧
      (∀ k ∈ model.foreignKeys, ((Catalog.reader d database).session d).hasConstraint
        m.dialect model.table k.name c' = (true, c')) ∧
      (∀ k ∈ model.checks, ((Catalog.reader d database).session d).hasConstraint
        m.dialect model.table k.name c' = (true, c')) ∧
      (m.config.migrateIndexes = true → ∀ i ∈ model.indexes,
        ((Catalog.reader d database).session d).hasIndex
          m.dialect model.table i.name c' = (true, c')) := by
  rw [Catalog.reader_session hd] at hrun ⊢
  exact autoMigrate_arrives m reg d database allowance refs c c' report hreal hrun hclean

/-! ## A table that is there in part -/

/-- The report and the state at the end of a run that succeeded. -/
def arrival {σ : Type} : Option (Outcome σ Report) → Option (Report × σ)
  | some (.ok report state) => some (report, state)
  | _ => none

theorem arrival_eq_some {σ : Type} {run : Option (Outcome σ Report)} {report : Report} {state : σ} :
    arrival run = some (report, state) ↔ run = some (.ok report state) := by
  unfold arrival
  split <;> simp_all

/-- A column for numbers. -/
def idColumn (name : String) (primary : Bool) : Column where
  field := name
  name := name
  dataType := .int
  primaryKey := primary

/-- Users, known by their number. -/
def shopUsers : Model where
  table := "users"
  columns := [idColumn "id" true]

/-- A key to the users, with a handle that describes them. -/
def shopKey : ForeignKey :=
  { name := "fk_orders_user", table := "orders", columns := ["user_id"],
    referencedTable := "users", referencedColumns := ["id"],
    referencedModel := some ⟨"User", 0⟩ }

def shopIndex : Index := { name := "idx_orders_user", entries := [{ column := "user_id" }] }

/-- Orders of users: a foreign key, a check and an index. -/
def shopOrders : Model where
  table := "orders"
  columns := [idColumn "id" true, idColumn "user_id" false]
  relationships := [.belongsTo "User" shopKey]
  indexes := [shopIndex]
  checks := [{ name := "ck_orders_id", expression := "id > 0" }]

/-- Migrates indexes too. -/
def shopMigrator : Migrator := ⟨Mysql.dialect, { migrateIndexes := true }⟩

/-- Only the orders are there, and only with their number. -/
def shopBefore : Catalog := ⟨[("orders", { columns := ["id"] })]⟩

/-- Both tables with all that their models declare. -/
def shopAfter : Catalog :=
  ⟨[("orders",
      { columns := ["id", "user_id"], constraints := ⟨["ck_orders_id", "fk_orders_user"]⟩,
        indexes := ⟨["idx_orders_user"]⟩ }),
    ("users", { columns := ["id"] })]⟩

/-- What is executed in between. -/
def shopReport : Report where
  executed := [
    "CREATE TABLE `users` (`id` bigint,PRIMARY KEY (`id`))",
    "ALTER TABLE `orders` ADD `user_id` bigint",
    "ALTER TABLE `orders` ADD CONSTRAINT `fk_orders_user` FOREIGN KEY (`user_id`) "
      ++ "REFERENCES `users`(`id`)",
    "ALTER TABLE `orders` ADD CONSTRAINT `ck_orders_id` CHECK (id > 0)",
    "CREATE INDEX `idx_orders_user` ON `orders`(`user_id`)"]

/-- The users are discovered and created, and the orders get what they lack.  The database is asked
for all of it and finds it. -/
theorem autoMigrate_converges_shop :
    shopMigrator.autoMigrate ⟨#[.ok shopUsers]⟩ ((Catalog.reader Mysql.dialect "app").session
        Mysql.dialect) 0 [.model shopOrders] shopBefore = some (.ok shopReport shopAfter) ∧
      shopAfter.Conforms shopMigrator.config shopUsers ∧
      shopAfter.Conforms shopMigrator.config shopOrders ∧
      ((Catalog.reader Mysql.dialect "app").session Mysql.dialect).hasConstraint Mysql.dialect
        "orders" shopKey.name shopAfter = (true, shopAfter) ∧
      ((Catalog.reader Mysql.dialect "app").session Mysql.dialect).hasIndex Mysql.dialect
        "orders" shopIndex.name shopAfter = (true, shopAfter) := by
  have hrun : shopMigrator.autoMigrate ⟨#[.ok shopUsers]⟩ ((Catalog.reader Mysql.dialect
      "app").session Mysql.dialect) 0 [.model shopOrders] shopBefore =
        some (.ok shopReport shopAfter) := by
    rw [Catalog.reader_session Mysql.understood]
    exact arrival_eq_some.mp (by decide +kernel)
  have horder : order ⟨#[.ok shopUsers]⟩ true [.model shopOrders] =
      .ok [.model shopUsers, .model shopOrders] := by with_unfolding_all rfl
  obtain ⟨out, ho, hall⟩ :=
    autoMigrate_converges _ _ _ Mysql.understood _ _ _ _ _ _ rfl hrun rfl
  cases horder.symm.trans ho
  obtain ⟨hconforms, -, -, hkeys, -, hindexes⟩ := hall shopOrders (by simp)
  have hkey : shopKey ∈ shopOrders.foreignKeys :=
    List.mem_filterMap.mpr ⟨_, List.mem_singleton_self _, rfl⟩
  exact ⟨hrun, (hall shopUsers (by simp)).1, hconforms, hkeys shopKey hkey,
    hindexes rfl shopIndex (List.mem_singleton_self _)⟩

end Migrator

end SchemaMigration
