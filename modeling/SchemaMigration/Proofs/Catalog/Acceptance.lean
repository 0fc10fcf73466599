import SchemaMigration.Proofs.Catalog.Growth

/-!
# What a catalog accepts

A table is created unless it is there or refers to another one that is not (`accepts_createTable`).
An index is created on a table that is there, unless the table has it (`accepts_createIndex`).
-/

namespace SchemaMigration

namespace Catalog

variable {c c' : Catalog}

/-- The catalog applies the change and does not refuse it. -/
def Accepts (c : Catalog) (change : Change) : Prop := ∃ c', c.apply change = .ok c'

/-- The tables that are there after a change that only adds. -/
theorem hasTable_of_adds {change : Change} {name : String} {parts : List Part}
    (ha : change.adds = some (name, parts)) (h : c.apply change = .ok c') (t : String) :
    c'.hasTable t = true ↔ c.hasTable t = true ∨ t = name ∧ .table ∈ parts := by
  rw [← has_table, ← has_table]
  exact apply_adds ha h t .table

theorem checkReference_ok {owner referenced : String} :
    c.checkReference owner referenced = .ok () ↔
      owner = referenced ∨ c.hasTable referenced = true := by
  unfold checkReference
  split
  · next h => simpa using h
  · next h => simpa using h

/-- A clause is refused only if it is a foreign key to a table that is not there. -/
theorem addClause_ok_iff {owner : String} {t : TableEntry} {clause : Clause} :
    (∃ u, c.addClause owner t clause = .ok u) ↔
      ∀ k, clause = .foreignKey k → owner = k.referencedTable ∨
        c.hasTable k.referencedTable = true := by
  cases clause with
  | foreignKey k =>
    simp only [addClause, Clause.foreignKey.injEq, forall_eq']
    rw [exists_map_ok, ← checkReference_ok]
    exact ⟨fun ⟨_, h⟩ => h, fun h => ⟨_, h⟩⟩
  | _ => simp [addClause]

theorem addClauses_ok_iff {owner : String} {clauses : List Clause} :
    ∀ {t : TableEntry}, (∃ u, clauses.foldlM (c.addClause owner) t = .ok u) ↔
      ∀ k, .foreignKey k ∈ clauses → owner = k.referencedTable ∨
        c.hasTable k.referencedTable = true := by
  induction clauses with
  | nil =>
    intro t
    exact ⟨fun _ k hk => absurd hk (by simp), fun _ => ⟨t, rfl⟩⟩
  | cons clause clauses ih =>
    intro t
    simp only [List.mem_cons]
    constructor
    · rintro ⟨u, hu⟩ k (hk | hk)
      · obtain ⟨v, hv, -⟩ := foldlM_cons_ok.mp hu
        exact addClause_ok_iff.mp ⟨v, hv⟩ k hk.symm
      · obtain ⟨v, -, hu⟩ := foldlM_cons_ok.mp hu
        exact ih.mp ⟨u, hu⟩ k hk
    · intro h
      obtain ⟨v, hv⟩ := addClause_ok_iff.mpr fun k hk => h k (Or.inl hk.symm)
      obtain ⟨u, hu⟩ := (ih (t := v)).mpr fun k hk => h k (Or.inr hk)
      exact ⟨u, foldlM_cons_ok.mpr ⟨v, hv, hu⟩⟩

theorem accepts_createTable {table : String} {clauses : List Clause} {options : Option String} :
    c.Accepts (.createTable table clauses options) ↔ c.hasTable table = false ∧
      ∀ k, .foreignKey k ∈ clauses → table = k.referencedTable ∨
        c.hasTable k.referencedTable = true := by
  rw [← addClauses_ok_iff (t := {}), ← exists_map_ok (f := c.set table)]
  unfold Accepts
  simp only [apply]
  cases c.hasTable table <;> simp

theorem accepts_createIndex {table : String} {i : Index} :
    c.Accepts (.createIndex table i) ↔
      c.hasTable table = true ∧ c.has table (.index i.name) = false := by
  unfold Accepts
  simp only [apply, createIndex, update, hasTable, has]
  cases c.table? table with
  | none => simp
  | some t =>
    simp only [exists_map_ok, Option.isSome_some, Option.any_some, true_and, TableEntry.has]
    cases t.indexes.contains i.name <;> simp

/-- Indexes with distinct names that a table lacks are created on it one after the other. -/
theorem createIndexes_accepted (table : String) :
    ∀ (is : List Index) {c : Catalog}, c.hasTable table = true → (is.map (·.name)).Nodup →
      (∀ i ∈ is, c.has table (.index i.name) = false) →
      ∃ c', (is.map (.createIndex table)).foldlM apply c = .ok c' ∧
        ∀ t, c'.hasTable t = c.hasTable t := by
  intro is
  induction is with
  | nil => exact fun _ _ _ => ⟨_, rfl, fun _ => rfl⟩
  | cons i is ih =>
    intro c ht hnodup hnew
    rw [List.map_cons, List.nodup_cons] at hnodup
    obtain ⟨c₁, hc₁⟩ := accepts_createIndex.mpr ⟨ht, hnew i (by simp)⟩
    have hsame : ∀ t, c₁.hasTable t = c.hasTable t := fun t => by
      rw [Bool.eq_iff_iff, hasTable_of_adds rfl hc₁]
      simp
    obtain ⟨c₂, hc₂, hsame₂⟩ := ih ((hsame table).trans ht) hnodup.2 fun j hj => by
      rw [Bool.eq_false_iff, Ne, apply_adds rfl hc₁, hnew j (List.mem_cons_of_mem i hj)]
      rintro (h | ⟨-, h⟩)
      · cases h
      · have hname : j.name = i.name := by simpa using h
        exact hnodup.1 (hname ▸ List.mem_map_of_mem hj)
    exact ⟨c₂, foldlM_cons_ok.mpr ⟨c₁, hc₁, hc₂⟩, fun t => (hsame₂ t).trans (hsame t)⟩

end Catalog

end SchemaMigration
