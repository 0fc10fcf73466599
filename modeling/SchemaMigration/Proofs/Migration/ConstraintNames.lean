import SchemaMigration.Migration.Operation
import SchemaMigration.Proofs.Migration.Convergence
import SchemaMigration.Proofs.Schema.Validation

/-!
# What a name means when a constraint is created, and afterwards

Creating a constraint reads a name as that of a check, then as that of a foreign key, and then as
that of a relationship that holds one (`Model.constraintNamed?`).  Asking for a constraint and
dropping one read it as that of a relationship only, and otherwise as it stands.

> The two readings of a name agree unless it clashes: it names a check or a foreign key, and a
> relationship of the same name holds a foreign key of another name (`constraintName_eq_iff`).

Where they agree, dropping undoes creating, to the letter: the catalog is what it was.  Where they
do not, asking and dropping are about the relationship's foreign key, and what was created stays
(`createConstraint_then`).
-/

namespace SchemaMigration

/-! ## Undoing an addition -/

theorem NameSet.filter_insertSorted {name : String} {names : List String} (h : name ∉ names) :
    (insertSorted name names).filter (· ≠ name) = names := by
  have hself : ∀ {xs : List String}, name ∉ xs → xs.filter (· ≠ name) = xs := by
    intro xs hxs
    rw [List.filter_eq_self]
    intro x hx
    simpa using fun heq : x = name => hxs (heq ▸ hx)
  induction names with
  | nil => simp [insertSorted]
  | cons x xs ih =>
    obtain ⟨hx, hxs⟩ := not_or.mp (fun hor => h (List.mem_cons.mpr hor))
    rw [insertSorted, if_neg hx]
    split
    · rw [List.filter_cons_of_neg (by simp), hself h]
    · rw [List.filter_cons_of_pos (by simpa using Ne.symm hx), ih hxs]

/-- A name that is added to a set and removed again leaves no trace. -/
theorem NameSet.erase_insert {s : NameSet} {name : String} (h : s.contains name = false) :
    (s.insert name).erase name = s :=
  congrArg NameSet.mk (filter_insertSorted (by simpa [contains] using h))

namespace Catalog

variable {c c' : Catalog} {table name : String}

/-- Setting a table back to what it was leaves no trace. -/
theorem set_back {t : TableEntry} (u : TableEntry) (h : c.table? table = some t) :
    (c.set table u).set table t = c := by
  unfold set
  rw [setEntry_setEntry, setEntry_self h]

/-- A constraint is dropped exactly if it is there, and then nothing else changes. -/
theorem dropConstraint_ok_iff :
    c.apply (.dropConstraint table name) = .ok c' ↔
      ∃ t, c.table? table = some t ∧ t.constraints.contains name = true ∧
        c' = c.set table { t with constraints := t.constraints.erase name } := by
  constructor
  · intro h
    obtain ⟨t, u, ht, hu, rfl⟩ := update_ok h
    split at hu
    · next hin =>
      cases hu
      exact ⟨t, ht, hin, rfl⟩
    · cases hu
  · rintro ⟨t, ht, hin, rfl⟩
    show c.update table _ = _
    unfold update
    rw [ht]
    dsimp only
    rw [if_pos hin]
    rfl

/-- Dropping the constraint that was just added leads back to the catalog before. -/
theorem drop_addConstraint (h : c.addConstraint table name = .ok c') :
    c'.apply (.dropConstraint table name) = .ok c := by
  obtain ⟨t, ht, hnew, rfl⟩ := addConstraint_ok h
  refine dropConstraint_ok_iff.mpr ⟨_, by rw [table?_set, if_pos rfl], by simp, ?_⟩
  dsimp only
  rw [NameSet.erase_insert hnew, set_back _ ht]

/-- Dropping another constraint than the one that was just added leaves this one. -/
theorem drop_other {c'' : Catalog} {k other : String}
    (hadd : c.addConstraint table k = .ok c') (hne : other ≠ k)
    (hdrop : c'.apply (.dropConstraint table other) = .ok c'') :
    c.has table (.constraint other) = true ∧ c''.has table (.constraint other) = false ∧
      c''.has table (.constraint k) = true := by
  obtain ⟨t, ht, -, rfl⟩ := addConstraint_ok hadd
  obtain ⟨u, hu, hin, rfl⟩ := dropConstraint_ok_iff.mp hdrop
  rw [table?_set, if_pos rfl] at hu
  cases hu
  dsimp only at hin
  rw [NameSet.contains_insert] at hin
  refine ⟨?_, ?_, ?_⟩
  · simpa [has, ht, TableEntry.has] using hin.resolve_left hne
  · rw [Bool.eq_false_iff]
    simp [has, TableEntry.has]
  · simp [has, TableEntry.has, Ne.symm hne]

end Catalog

/-! ## The two readings of a name -/

namespace Model

variable {m : Model} {name k : String}

/-- The constraint that is created by a name: the check of this name, or else the foreign key of
this name, or else the one of the relationship of this name. -/
def constraintNamed? (m : Model) (name : String) : Option String :=
  ((m.check? name).map (·.name)).or
    (((m.foreignKey? name).or (m.relationshipKey? name)).map (·.name))

/-- The name is that of a check or a foreign key, and a relationship of the same name holds a
foreign key of another name. -/
def Clashes (m : Model) (name : String) : Prop :=
  ((∃ c ∈ m.checks, c.name = name) ∨ ∃ k ∈ m.foreignKeys, k.name = name) ∧
    ∃ k, m.relationshipKey? name = some k ∧ k.name ≠ name

theorem check?_isSome : (m.check? name).isSome = true ↔ ∃ c ∈ m.checks, c.name = name := by
  simp [check?]

theorem foreignKey?_isSome :
    (m.foreignKey? name).isSome = true ↔ ∃ k ∈ m.foreignKeys, k.name = name := by
  simp [foreignKey?]

/-- A name that is not only that of a relationship is created as it stands. -/
theorem constraintNamed?_of_declared
    (h : (∃ c ∈ m.checks, c.name = name) ∨ ∃ k ∈ m.foreignKeys, k.name = name) :
    m.constraintNamed? name = some name := by
  unfold constraintNamed?
  cases hc : m.check? name with
  | some c => simpa using List.find?_some hc
  | none =>
    rw [← check?_isSome, ← foreignKey?_isSome, hc] at h
    obtain ⟨key, hkey⟩ := Option.isSome_iff_exists.mp (h.resolve_left (by simp))
    rw [hkey]
    simpa using List.find?_some hkey

/-- Any other name is created as the foreign key of its relationship. -/
theorem constraintNamed?_of_undeclared
    (h : ¬ ((∃ c ∈ m.checks, c.name = name) ∨ ∃ k ∈ m.foreignKeys, k.name = name)) :
    m.constraintNamed? name = (m.relationshipKey? name).map (·.name) := by
  obtain ⟨hc, hk⟩ := not_or.mp h
  rw [← check?_isSome, Option.not_isSome_iff_eq_none] at hc
  rw [← foreignKey?_isSome, Option.not_isSome_iff_eq_none] at hk
  rw [constraintNamed?, hc, hk]
  rfl

/-- What a name means afterwards: the foreign key of its relationship, or what it says. -/
theorem constraintName_eq (m : Model) (name : String) :
    (ResolvedModel.model m).constraintName name =
      ((m.relationshipKey? name).map (·.name)).getD name := by
  have hkey : (ResolvedModel.model m).description?.bind (·.relationshipKey? name) =
      m.relationshipKey? name := rfl
  unfold ResolvedModel.constraintName
  rw [hkey]
  cases m.relationshipKey? name with
  | none => rfl
  | some key => rfl

/-- Afterwards a name means what was created by it unless it clashes. -/
theorem constraintName_eq_iff (h : m.constraintNamed? name = some k) :
    (ResolvedModel.model m).constraintName name = k ↔ ¬ m.Clashes name := by
  rw [constraintName_eq]
  by_cases hd : (∃ c ∈ m.checks, c.name = name) ∨ ∃ k ∈ m.foreignKeys, k.name = name
  · cases (constraintNamed?_of_declared hd).symm.trans h
    cases hr : m.relationshipKey? name with
    | none => simp [Clashes, hr]
    | some key => simp [Clashes, hr, hd]
  · rw [constraintNamed?_of_undeclared hd] at h
    rw [h]
    exact ⟨fun _ hclash => hd hclash.1, fun _ => rfl⟩

/-- Creating by a name is one change, which adds the constraint. -/
theorem constraintChanges_of_named (h : m.constraintNamed? name = some k) :
    ∃ change, Operation.constraintChanges m name = .ok [change] ∧
      ∀ c c' : Catalog, c.apply change = .ok c' → c.addConstraint m.table k = .ok c' := by
  unfold constraintNamed? at h
  unfold Operation.constraintChanges
  cases hc : m.check? name with
  | some check =>
    rw [hc] at h
    cases h
    exact ⟨_, rfl, fun c c' happly => happly⟩
  | none =>
    rw [hc] at h
    cases hk : (m.foreignKey? name).or (m.relationshipKey? name) with
    | none =>
      rw [hk] at h
      cases h
    | some key =>
      rw [hk] at h
      cases h
      refine ⟨_, rfl, fun c c' happly => ?_⟩
      rw [Catalog.apply, Catalog.addForeignKey] at happly
      split at happly
      · cases happly
      · exact happly

end Model

/-! ## Running the operations -/

namespace Migrator

open SchemaMigration.Action (bind_of_ok ofExcept_ok)

variable {m : Migrator} {reg : Registry} {d : Dialect} {database : String} {ref : ModelRef}
variable {c c' : Catalog} {name : String}

/-- An operation that makes one change and asks nothing does what the catalog does. -/
theorem run_change (hreal : m.config.dryRun = false) {op : Operation} {change : Change}
    (hop : op.changes m.dialect reg = .ok [change])
    (hask : m.inquire reg (Catalog.session d database) op = pure .done) :
    m.run reg (Catalog.session d database) op c =
      match c.apply change with
      | .ok c' => .ok .done c'
      | .error refusal => .error (.exec (change.sql d) refusal.message) c := by
  unfold run
  rw [hop, hask]
  show EStateM.bind (EStateM.bind (m.perform _ change) _) _ c = _
  unfold EStateM.bind
  rw [perform_eq, performed, if_neg (by simp [hreal])]
  cases c.apply change <;> rfl

theorem resolve_of_ok {r : ResolvedModel} (hr : ref.resolve reg = .ok r) :
    Operation.resolve reg ref = .ok r := by
  rw [Operation.resolve, hr]
  rfl

/-- Such an operation succeeds exactly if the catalog accepts its change. -/
theorem run_change_ok_iff (hreal : m.config.dryRun = false) {op : Operation} {change : Change}
    (hop : op.changes m.dialect reg = .ok [change])
    (hask : m.inquire reg (Catalog.session d database) op = pure .done) {answer : Answer} :
    m.run reg (Catalog.session d database) op c = .ok answer c' ↔
      answer = .done ∧ c.apply change = .ok c' := by
  rw [run_change hreal hop hask]
  cases c.apply change with
  | error refusal => simp
  | ok c₁ => simp [eq_comm]

/-- A question about a part of a table is answered from the catalog. -/
theorem ask_part (c : Catalog) (e : Dialect) (table : String) (p : Part) :
    Action.ask ((Catalog.session d database).affirms e fun named => p.question table named) c =
      .ok (c.has table p) c :=
  congrArg (fun x : Bool × Catalog => (EStateM.Result.ok x.1 x.2 : Outcome Catalog Bool))
    (Catalog.session_affirms c d e database table p)

/-- Asking for a constraint is answered from the catalog, by what the name means. -/
theorem run_hasConstraint {a : Model} {k : String} (ha : ref.resolve reg = .ok (.model a))
    (hk : (ResolvedModel.model a).constraintName name = k) :
    m.run reg (Catalog.session d database) (.hasConstraint ref name) c =
      .ok (.verdict (c.has a.table (.constraint k))) c := by
  subst hk
  show m.inquire reg _ (.hasConstraint ref name) c = _
  rw [inquire, bind_of_ok (ofExcept_ok.mpr ⟨resolve_of_ok ha, rfl⟩)]
  exact bind_of_ok (ask_part c m.dialect a.table (.constraint _))

/-- Dropping a constraint drops what the name means, if that is there. -/
theorem run_dropConstraint_ok_iff (hreal : m.config.dryRun = false) {a : Model} {k : String}
    {answer : Answer} (ha : ref.resolve reg = .ok (.model a))
    (hk : (ResolvedModel.model a).constraintName name = k) :
    m.run reg (Catalog.session d database) (.dropConstraint ref name) c = .ok answer c' ↔
      answer = .done ∧ c.apply (.dropConstraint a.table k) = .ok c' := by
  have hop : (Operation.dropConstraint ref name).changes m.dialect reg =
      .ok [.dropConstraint a.table k] := by
    rw [Operation.changes, resolve_of_ok ha, ← hk]
    rfl
  exact run_change_ok_iff hreal hop rfl

/-- Creating a constraint by a name that denotes one adds it. -/
theorem run_createConstraint (hreal : m.config.dryRun = false) {a : Model} {k : String}
    {answer : Answer} (ha : ref.resolve reg = .ok (.model a))
    (hk : a.constraintNamed? name = some k)
    (h : m.run reg (Catalog.session d database) (.createConstraint ref name) c = .ok answer c') :
    c.addConstraint a.table k = .ok c' := by
  obtain ⟨change, hchange, hadds⟩ := Model.constraintChanges_of_named hk
  have hop : (Operation.createConstraint ref name).changes m.dialect reg = .ok [change] := by
    rw [Operation.changes, Operation.describe, resolve_of_ok ha, ← hchange]
    rfl
  rw [run_change hreal hop rfl] at h
  split at h
  · next happly =>
    cases h
    exact hadds _ _ happly
  · cases h

/-! ## The theorem -/

/-- **What a name means afterwards.**  When a constraint has been created by a name, the name means
this constraint in what follows unless it clashes.  If it does not clash, the constraint is there,
and dropping it by the same name leads back to the catalog before.  If it clashes, the answer is
about the foreign key of the relationship of this name, and so is dropping: the foreign key must
have been there, and it goes while the constraint that was created stays. -/
theorem createConstraint_then {a : Model} {k : String} {answer : Answer}
    (hreal : m.config.dryRun = false) (ha : ref.resolve reg = .ok (.model a))
    (hk : a.constraintNamed? name = some k)
    (hrun : m.run reg (Catalog.session d database) (.createConstraint ref name) c =
      .ok answer c') :
    ((ResolvedModel.model a).constraintName name = k ↔ ¬ a.Clashes name) ∧
    (¬ a.Clashes name →
      m.run reg (Catalog.session d database) (.hasConstraint ref name) c' =
          .ok (.verdict true) c' ∧
        m.run reg (Catalog.session d database) (.dropConstraint ref name) c' = .ok .done c) ∧
    (a.Clashes name → ∃ key, a.relationshipKey? name = some key ∧ key.name ≠ k ∧
      m.run reg (Catalog.session d database) (.hasConstraint ref name) c' =
          .ok (.verdict (c.has a.table (.constraint key.name))) c' ∧
        ∀ answer' c'', m.run reg (Catalog.session d database) (.dropConstraint ref name) c' =
            .ok answer' c'' →
          c.has a.table (.constraint key.name) = true ∧
            c''.has a.table (.constraint key.name) = false ∧
            c''.has a.table (.constraint k) = true) := by
  have hadd := run_createConstraint hreal ha hk hrun
  have hiff := Model.constraintName_eq_iff hk
  refine ⟨hiff, fun hno => ?_, fun hclash => ?_⟩
  · have hthere : c'.has a.table (.constraint k) = true :=
      (Catalog.addConstraint_has hadd a.table (.constraint k)).mpr (Or.inr ⟨rfl, by simp⟩)
    have hmeans := hiff.mpr hno
    rw [run_hasConstraint ha hmeans, hthere,
      run_dropConstraint_ok_iff hreal ha hmeans]
    exact ⟨rfl, rfl, Catalog.drop_addConstraint hadd⟩
  · obtain ⟨hdeclared, key, hkey, hne⟩ := hclash
    cases (Model.constraintNamed?_of_declared hdeclared).symm.trans hk
    have hmeans : (ResolvedModel.model a).constraintName name = key.name := by
      rw [Model.constraintName_eq, hkey]
      rfl
    refine ⟨key, hkey, hne, ?_, fun answer' c'' h => ?_⟩
    · -- What was created is another constraint, so that the answer is the one before.
      have hsame :
          c'.has a.table (.constraint key.name) = c.has a.table (.constraint key.name) := by
        rw [Bool.eq_iff_iff, Catalog.addConstraint_has hadd]
        simp [hne]
      rw [run_hasConstraint ha hmeans, hsame]
    · obtain ⟨-, hdrop⟩ := (run_dropConstraint_ok_iff hreal ha hmeans).mp h
      exact Catalog.drop_other hadd hne hdrop

/-! ## Orders with and without a clash -/

/-- Users, and orders with the given constraints. -/
def shopWith (constraints : List String) : Catalog :=
  ⟨[("users", { columns := ["id"] }),
    ("orders", { columns := ["id", "user_id"], constraints := ⟨constraints⟩ })]⟩

/-- The foreign key of the orders is created by the name of its relationship, found by it, and
dropped by it again. -/
theorem createConstraint_then_shop :
    shopMigrator.run {} (Catalog.session Mysql.dialect "app")
        (.createConstraint (.model shopOrders) "User") (shopWith []) =
        .ok .done (shopWith ["fk_orders_user"]) ∧
      shopMigrator.run {} (Catalog.session Mysql.dialect "app")
        (.hasConstraint (.model shopOrders) "User") (shopWith ["fk_orders_user"]) =
        .ok (.verdict true) (shopWith ["fk_orders_user"]) ∧
      shopMigrator.run {} (Catalog.session Mysql.dialect "app")
        (.dropConstraint (.model shopOrders) "User") (shopWith ["fk_orders_user"]) =
        .ok .done (shopWith []) := by
  have hrun : shopMigrator.run {} (Catalog.session Mysql.dialect "app")
      (.createConstraint (.model shopOrders) "User") (shopWith []) =
      .ok .done (shopWith ["fk_orders_user"]) := by
    with_unfolding_all rfl
  have hno : ¬ shopOrders.Clashes "User" := by
    rintro ⟨⟨c, hc, hname⟩ | ⟨k, hk, hname⟩, -⟩
    · cases List.mem_singleton.mp hc
      exact absurd hname (by decide)
    · cases List.mem_singleton.mp hk
      exact absurd hname (by decide)
  obtain ⟨-, hagree, -⟩ := createConstraint_then rfl (a := shopOrders) (k := "fk_orders_user") rfl
    (by with_unfolding_all rfl) hrun
  exact ⟨hrun, hagree hno⟩

/-- Orders with a check that is named like the relationship. -/
def shopClashing : Model :=
  { shopOrders with checks := [{ name := "User", expression := "id > 0" }] }

/-- The check is created by its name; asked for by the same name it is not there, and when the
foreign key of the relationship is, this is dropped and the check stays. -/
theorem createConstraint_clashing :
    shopClashing.IsBuilt ∧ shopClashing.constraintNamed? "User" = some "User" ∧
      (ResolvedModel.model shopClashing).constraintName "User" ≠ "User" ∧
      shopMigrator.run {} (Catalog.session Mysql.dialect "app")
        (.createConstraint (.model shopClashing) "User") (shopWith []) =
        .ok .done (shopWith ["User"]) ∧
      shopMigrator.run {} (Catalog.session Mysql.dialect "app")
        (.hasConstraint (.model shopClashing) "User") (shopWith ["User"]) =
        .ok (.verdict false) (shopWith ["User"]) ∧
      shopMigrator.run {} (Catalog.session Mysql.dialect "app")
        (.createConstraint (.model shopClashing) "User") (shopWith ["fk_orders_user"]) =
        .ok .done (shopWith ["User", "fk_orders_user"]) ∧
      shopMigrator.run {} (Catalog.session Mysql.dialect "app")
        (.dropConstraint (.model shopClashing) "User") (shopWith ["User", "fk_orders_user"]) =
        .ok .done (shopWith ["User"]) := by
  refine ⟨⟨shopClashing, ?_⟩, ?_, ?_, ?_, ?_, ?_, ?_⟩
  · with_unfolding_all rfl
  · with_unfolding_all rfl
  · decide
  · with_unfolding_all rfl
  · with_unfolding_all rfl
  · with_unfolding_all rfl
  · with_unfolding_all rfl

end Migrator

end SchemaMigration
