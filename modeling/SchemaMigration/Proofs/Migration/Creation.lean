import SchemaMigration.Proofs.Catalog.Acceptance
import SchemaMigration.Proofs.Migration.Steps
import SchemaMigration.Proofs.Order.Acyclic

/-!
# The tables of models can be created

A model whose column types are not blank has a plan, and a catalog accepts it unless the table is
there or refers to another one that is not (`accepts_plan`).  Where no model refers to a later one,
all tables are created one after the other, each with the indexes that are left for later
(`creations_accepted`).
-/

namespace SchemaMigration

/-! ## The table of a model -/

section

variable {d : Dialect} {config : Config} {m : Model} {plan : TablePlan}

/-- A model whose column types are not blank has a plan. -/
theorem Model.plan_of_typed (config : Config)
    (h : ∀ x ∈ m.columns, Text.isBlank (d.typeText x) = false) :
    ∃ plan, m.plan d config = .ok plan := by
  have htyped : ∀ x ∈ m.columns, ∃ type, d.columnType m.table x = .ok type := by
    intro x hx
    exact ⟨d.typeText x, by rw [Dialect.columnType, if_neg (by simp [h x hx])]⟩
  obtain ⟨typed, ht⟩ := exists_typedColumns_iff.mpr htyped
  exact ⟨_, by rw [plan, ht]⟩

/-- The foreign keys in the plan for a table are those of the model. -/
theorem Model.mem_clauses {columns : List (Column × String)} {k : ForeignKey} :
    .foreignKey k ∈ m.clauses config columns ↔ k ∈ m.foreignKeys := by
  have hkey : .foreignKey k ∉ m.primaryKeyClause (columns.map (·.2)) := by
    unfold primaryKeyClause
    split <;> simp
  unfold clauses
  split <;> simp [hkey]

/-- The table of a model is created unless it is there or refers to another one that is not. -/
theorem Catalog.accepts_plan {c : Catalog} (h : m.plan d config = .ok plan) :
    c.Accepts plan.change ↔ c.hasTable m.table = false ∧
      ∀ k ∈ m.foreignKeys, m.table = k.referencedTable ∨ c.hasTable k.referencedTable = true := by
  unfold Model.plan at h
  split at h
  · cases h
  · cases h
    simp only [accepts_createTable, Model.mem_clauses]

/-- The changes that create the table of a model, with the indexes that are left for later. -/
def TablePlan.changes (plan : TablePlan) (table : String) : List Change :=
  plan.change :: plan.laterIndexes.map (.createIndex table)

/-- The changes that create the table of a model, if its columns have types. -/
def Model.creation (d : Dialect) (config : Config) (m : Model) : List Change :=
  match m.plan d config with
  | .ok plan => plan.changes m.table
  | .error _ => []

theorem Model.creation_eq (h : m.plan d config = .ok plan) :
    m.creation d config = plan.changes m.table := by
  rw [creation, h]

theorem Model.laterIndexes_eq (h : m.plan d config = .ok plan) :
    plan.laterIndexes = if config.separateIndexes then m.indexes else [] := by
  unfold Model.plan at h
  split at h
  · cases h
  · cases h
    rfl

/-- The table of an accepted model is created with all of its indexes, if it is not there and the
tables that it refers to are. -/
theorem Model.creation_accepted {c : Catalog} (hplan : m.plan d config = .ok plan)
    (hbuilt : m.IsBuilt) (hnew : c.hasTable m.table = false)
    (hrefs : ∀ k ∈ m.foreignKeys, m.table = k.referencedTable ∨
      c.hasTable k.referencedTable = true) :
    ∃ c', (m.creation d config).foldlM Catalog.apply c = .ok c' ∧
      ∀ t, c'.hasTable t = true ↔ c.hasTable t = true ∨ t = m.table := by
  obtain ⟨c₁, hc₁⟩ := (Catalog.accepts_plan hplan).mpr ⟨hnew, hrefs⟩
  have hadds := (plan_ok hplan).1
  have htables : ∀ t, c₁.hasTable t = true ↔ c.hasTable t = true ∨ t = m.table := fun t => by
    rw [Catalog.hasTable_of_adds hadds hc₁]
    simp [createdParts]
  obtain ⟨c₂, hc₂, hsame⟩ := Catalog.createIndexes_accepted m.table plan.laterIndexes
    ((htables m.table).mpr (Or.inr rfl))
    (by
      rw [laterIndexes_eq hplan]
      split
      · exact hbuilt.nodup_indexes
      · simp)
    fun i hi => by
      -- The indexes that are left for later are not created with the table.
      rw [laterIndexes_eq hplan] at hi
      split at hi
      · next hsep =>
        rw [Bool.eq_false_iff, Ne, Catalog.apply_adds hadds hc₁, Catalog.not_has_of_fresh hnew]
        simp [createdParts, hsep]
      · exact absurd hi (by simp)
  refine ⟨c₂, ?_, fun t => by rw [hsame, htables]⟩
  rw [creation_eq hplan, TablePlan.changes, foldlM_cons_ok]
  exact ⟨c₁, hc₁, hc₂⟩

end

/-! ## Several models -/

/-- The tables of the models are not there, and whatever they refer to is there or among them, and
not among those behind. -/
structure Catalog.Admits (c : Catalog) (models : List Model) : Prop where
  fresh : ∀ a ∈ models, c.hasTable a.table = false
  distinct : (models.map (·.table)).Nodup
  back : ReferencesBack models
  refers : ∀ a ∈ models, ∀ k ∈ a.foreignKeys,
    k.referencedTable ∈ models.map (·.table) ∨ c.hasTable k.referencedTable = true

/-- What the first of the models refers to is itself or there. -/
theorem Catalog.Admits.head {c : Catalog} {a : Model} {models : List Model}
    (h : c.Admits (a :: models)) {k : ForeignKey} (hk : k ∈ a.foreignKeys) :
    a.table = k.referencedTable ∨ c.hasTable k.referencedTable = true := by
  rcases h.refers a (by simp) k hk with hin | hthere
  · rcases List.mem_cons.mp hin with heq | hin
    · exact Or.inl heq.symm
    · obtain ⟨b, hb, hbk⟩ := List.mem_map.mp hin
      exact absurd hbk.symm ((List.pairwise_cons.mp h.back).1 b hb k hk)
  · exact Or.inr hthere

/-- Once the first table is there, the catalog admits the others. -/
theorem Catalog.Admits.tail {c c' : Catalog} {a : Model} {models : List Model}
    (h : c.Admits (a :: models))
    (hc : ∀ t, c'.hasTable t = true ↔ c.hasTable t = true ∨ t = a.table) : c'.Admits models := by
  have hnodup := h.distinct
  rw [List.map_cons, List.nodup_cons] at hnodup
  refine ⟨fun b hb => ?_, hnodup.2, (List.pairwise_cons.mp h.back).2, fun b hb k hk => ?_⟩
  · rw [Bool.eq_false_iff, Ne, hc, h.fresh b (List.mem_cons_of_mem a hb)]
    rintro (hf | heq)
    · cases hf
    · exact hnodup.1 (heq ▸ List.mem_map_of_mem hb)
  · rw [hc]
    rcases h.refers b (List.mem_cons_of_mem a hb) k hk with hin | hthere
    · rw [List.map_cons, List.mem_cons] at hin
      exact hin.elim (fun heq => Or.inr (Or.inr heq)) Or.inl
    · exact Or.inr (Or.inl hthere)

/-- The tables of models that the catalog admits are created one after the other. -/
theorem Catalog.creations_accepted {d : Dialect} {config : Config} :
    ∀ {models : List Model} {c : Catalog}, c.Admits models → (∀ a ∈ models, a.IsBuilt) →
      (∀ a ∈ models, ∃ plan, a.plan d config = .ok plan) →
      ∃ c', (models.flatMap (·.creation d config)).foldlM Catalog.apply c = .ok c' ∧
        ∀ t, c'.hasTable t = true ↔ c.hasTable t = true ∨ t ∈ models.map (·.table) := by
  intro models
  induction models with
  | nil => exact fun _ _ _ => ⟨_, rfl, fun t => by simp⟩
  | cons a models ih =>
    intro c h hbuilt hplan
    obtain ⟨plan, hp⟩ := hplan a (by simp)
    obtain ⟨c₁, hc₁, ht₁⟩ := a.creation_accepted hp (hbuilt a (by simp)) (h.fresh a (by simp))
      fun k hk => h.head hk
    obtain ⟨c₂, hc₂, ht₂⟩ := ih (h.tail ht₁) (fun b hb => hbuilt b (List.mem_cons_of_mem a hb))
      fun b hb => hplan b (List.mem_cons_of_mem a hb)
    refine ⟨c₂, ?_, fun t => ?_⟩
    · rw [List.flatMap_cons, foldlM_append_ok]
      exact ⟨c₁, hc₁, hc₂⟩
    · rw [ht₂, ht₁, List.map_cons, List.mem_cons, or_assoc]

end SchemaMigration
