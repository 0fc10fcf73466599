import Mathlib.Data.List.Nodup
import Mathlib.Tactic.MkIffOfInductiveProp
import SchemaMigration.Schema.Validation

/-!
# What validation guarantees

Validation accepts exactly the well-formed models (`Model.fault?_eq_none_iff`) and changes nothing
about them but the table that their foreign keys are assigned to (`Model.build_exact`).  In
particular a model that came out of `Model.build` holds its own foreign keys, and no two of its
columns, of its constraints or of its indexes have the same name.

Each kind of part is searched for faults in the order of declaration.  The four searches have one
invariant, "all entries so far are sound, and `seen` holds their names", so that one induction
serves them all (`Model.search_eq_none_iff`).
-/

namespace SchemaMigration

/-! ## Well-formed models -/

/-- A foreign key that has a name and pairs its columns with those it refers to. -/
@[mk_iff]
structure ForeignKey.Sound (k : ForeignKey) : Prop where
  named : k.name ≠ ""
  nonempty : k.columns ≠ []
  paired : k.columns.length = k.referencedColumns.length

/-- A check that has a name and says something. -/
@[mk_iff]
structure Check.Sound (c : Check) : Prop where
  named : c.name ≠ ""
  expression : Text.isBlank c.expression = false

/-- An index that has a name and entries, each with a column or an expression. -/
@[mk_iff]
structure Index.Sound (i : Index) : Prop where
  named : i.name ≠ ""
  nonempty : i.entries ≠ []
  entries : ∀ e ∈ i.entries, e.column ≠ "" ∨ e.expression.isSome

namespace Model

/-- Names are there and distinct, and every part says something.  Foreign keys and checks share one
space of names. -/
structure WellFormed (m : Model) : Prop where
  table : Text.isBlank m.table = false
  columns : ∀ c ∈ m.columns, c.name ≠ ""
  columnNames : (m.columns.map (·.name)).Nodup
  foreignKeys : ∀ k ∈ m.foreignKeys, k.Sound
  checks : ∀ c ∈ m.checks, c.Sound
  constraintNames : (m.foreignKeys.map (·.name) ++ m.checks.map (·.name)).Nodup
  indexes : ∀ i ∈ m.indexes, i.Sound
  indexNames : (m.indexes.map (·.name)).Nodup

variable {a draft m : Model}

/-! ## Searching for faults -/

/-- A search `g` for faults that stops at an entry that is not `sound`, and at one with the name `f`
of an earlier entry (`seen`), finds nothing when all entries are sound and their names are new and
distinct.  Entries without a name do not count. -/
theorem search_eq_none_iff {α ε : Type} (f : α → Option String) (sound : α → Prop)
    (g : List String → List α → Option ε) (hnil : ∀ seen, g seen [] = none)
    (hcons : ∀ seen x xs, g seen (x :: xs) = none ↔ sound x ∧
      match f x with
      | none => g seen xs = none
      | some n => n ∉ seen ∧ g (n :: seen) xs = none) (xs : List α) :
    ∀ seen, g seen xs = none ↔
      (∀ x ∈ xs, sound x) ∧ (xs.filterMap f).Nodup ∧ ∀ n ∈ xs.filterMap f, n ∉ seen := by
  -- `seen` grows along the list, so the claim for the rest is needed for all of them
  induction xs with
  | nil => simp [hnil]
  | cons x xs ih =>
    intro seen
    rw [hcons, List.forall_mem_cons]
    cases hn : f x with
    | none =>
      rw [List.filterMap_cons_none hn]
      dsimp only
      rw [ih, and_assoc]
    | some n =>
      have hnew : (∀ k ∈ xs.filterMap f, k ∉ n :: seen) ↔
          n ∉ xs.filterMap f ∧ ∀ k ∈ xs.filterMap f, k ∉ seen := by
        simp only [List.mem_cons, not_or, forall_and]
        refine and_congr_left' ⟨fun h hmem => h n hmem rfl, ?_⟩
        intro h k hk hkn
        exact h (hkn ▸ hk)
      rw [List.filterMap_cons_some hn, List.nodup_cons, List.forall_mem_cons]
      dsimp only
      rw [ih, hnew]
      tauto

theorem columnFault?_eq_none_iff {table : String} {cs : List Column} :
    columnFault? table [] cs = none ↔ (∀ c ∈ cs, c.name ≠ "") ∧ (cs.map (·.name)).Nodup := by
  have hsearch := search_eq_none_iff (fun c => some c.name) (fun c => c.name ≠ "")
    (columnFault? table) (fun _ => rfl) (fun seen c cs => ?_) cs []
  · simpa using hsearch
  · rw [columnFault?]
    split
    · next hname => simp [hname]
    · next hname => split <;> simp_all

theorem foreignKeyFault?_eq_none_iff {table : String} {rs : List Relationship} :
    foreignKeyFault? table [] rs = none ↔
      (∀ k ∈ rs.filterMap (·.foreignKey), k.Sound) ∧
        ((rs.filterMap (·.foreignKey)).map (·.name)).Nodup := by
  have hsearch := search_eq_none_iff (fun r => r.foreignKey.map (·.name))
    (fun r => ∀ k ∈ r.foreignKey, k.Sound) (foreignKeyFault? table) (fun _ => rfl)
    (fun seen r rs => ?_) rs []
  · rw [List.map_filterMap]
    simpa [List.mem_filterMap, forall_comm (α := ForeignKey)] using hsearch
  · rw [foreignKeyFault?]
    cases r.foreignKey with
    | none => simp
    | some k =>
      simp only [Option.mem_some_iff, forall_eq', Option.map_some, ForeignKey.sound_iff]
      split
      · next hname => simp [hname]
      · next hname =>
        split
        · next hpaired => grind
        · next hpaired => split <;> grind

/-- Of sound foreign keys the first one with the name of an earlier one is at fault. -/
theorem foreignKeyFault?_of_sound {table : String} {e : SchemaError} {rs : List Relationship}
    (hsound : ∀ k ∈ rs.filterMap (·.foreignKey), k.Sound) :
    ∀ {seen : List String}, foreignKeyFault? table seen rs = some e →
      ∃ before k after, rs.filterMap (·.foreignKey) = before ++ k :: after ∧
        (before.map (·.name)).Nodup ∧ (∀ n ∈ before.map (·.name), n ∉ seen) ∧
        (k.name ∈ before.map (·.name) ∨ k.name ∈ seen) ∧
        e = .duplicate table "constraint" k.name := by
  induction rs with
  | nil =>
    intro seen h
    cases h
  | cons r rs ih =>
    intro seen h
    rw [foreignKeyFault?] at h
    cases hr : r.foreignKey with
    | none =>
      rw [List.filterMap_cons_none hr] at hsound ⊢
      rw [hr] at h
      exact ih hsound h
    | some first =>
      rw [List.filterMap_cons_some hr] at hsound ⊢
      obtain ⟨⟨hnamed, hnonempty, hpaired⟩, hrest⟩ := List.forall_mem_cons.mp hsound
      rw [hr] at h
      dsimp only at h
      rw [if_neg hnamed, if_neg (by simp [hnonempty, hpaired])] at h
      split at h
      · next hmem =>
        exact ⟨[], first, _, rfl, by simp, by simp, .inr hmem, (Option.some.inj h).symm⟩
      · next hnew =>
        -- the rest is searched with the name of `first` in `seen`
        obtain ⟨before, k, after, hcut, hnodup, hlater, hk, he⟩ := ih hrest h
        refine ⟨first :: before, k, after, by rw [hcut, List.cons_append], ?_, ?_, ?_, he⟩
        · exact List.nodup_cons.mpr ⟨fun hmem => hlater _ hmem List.mem_cons_self, hnodup⟩
        · exact List.forall_mem_cons.mpr
            ⟨hnew, fun n hn hmem => hlater n hn (List.mem_cons_of_mem _ hmem)⟩
        · rw [List.map_cons, List.mem_cons]
          rw [List.mem_cons] at hk
          tauto

/-- Checks must not have the name of an earlier constraint either. -/
theorem checkFault?_eq_none_iff {table : String} {seen : List String} {cs : List Check} :
    checkFault? table seen cs = none ↔
      (∀ c ∈ cs, c.Sound) ∧ (cs.map (·.name)).Nodup ∧ ∀ n ∈ cs.map (·.name), n ∉ seen := by
  have hsearch := search_eq_none_iff (fun c => some c.name) Check.Sound (checkFault? table)
    (fun _ => rfl) (fun seen c cs => ?_) cs seen
  · simpa using hsearch
  · rw [checkFault?, Check.sound_iff]
    split
    · next hempty => grind
    · next hempty => split <;> grind

theorem indexFault?_eq_none_iff {table : String} {is : List Index} :
    indexFault? table [] is = none ↔ (∀ i ∈ is, i.Sound) ∧ (is.map (·.name)).Nodup := by
  have hsearch := search_eq_none_iff (fun i => some i.name) Index.Sound (indexFault? table)
    (fun _ => rfl) (fun seen i is => ?_) is []
  · simpa using hsearch
  · have hentries : i.entries.any (fun e => e.column = "" && e.expression.isNone) = true ↔
        ¬ ∀ e ∈ i.entries, e.column ≠ "" ∨ e.expression.isSome := by
      simp
    rw [indexFault?, Index.sound_iff]
    split
    · next hname => grind
    · next hname =>
      split
      · next hnonempty => grind
      · next hnonempty =>
        split
        · next hany => grind
        · next hany => split <;> grind

/-- A description has no fault exactly when it is well formed. -/
theorem fault?_eq_none_iff : m.fault? = none ↔ m.WellFormed := by
  rw [fault?]
  split
  · next hblank => exact iff_of_false (by simp) fun h => by simp [h.table] at hblank
  · next hblank =>
    simp only [Option.or_eq_none_iff, columnFault?_eq_none_iff, foreignKeyFault?_eq_none_iff,
      checkFault?_eq_none_iff, indexFault?_eq_none_iff]
    constructor
    · intro ⟨⟨⟨hcolumns, hcolumnNames⟩, hkeys, hkeyNames⟩,
        ⟨hchecks, hcheckNames, hnew⟩, hindexes, hindexNames⟩
      exact {
        table := Bool.eq_false_iff.mpr hblank
        columns := hcolumns
        columnNames := hcolumnNames
        foreignKeys := hkeys
        checks := hchecks
        constraintNames := List.nodup_append'.mpr
          ⟨hkeyNames, hcheckNames, fun n hn hcheck => hnew n hcheck hn⟩
        indexes := hindexes
        indexNames := hindexNames }
    · intro h
      obtain ⟨hkeyNames, hcheckNames, hdisjoint⟩ := List.nodup_append'.mp h.constraintNames
      exact ⟨⟨⟨h.columns, h.columnNames⟩, h.foreignKeys, hkeyNames⟩,
        ⟨h.checks, hcheckNames, fun n hn hkey => hdisjoint hkey hn⟩, h.indexes, h.indexNames⟩

/-! ## Accepted models -/

theorem build_ok : draft.build = .ok a ↔ draft.WellFormed ∧ draft.ownForeignKeys = a := by
  rw [← fault?_eq_none_iff]
  unfold build
  split
  · next e he => simp [he]
  · next he => simp [he]

/-- A fault of the foreign keys counts when the name of the table and the columns have none. -/
theorem build_of_foreignKeyFault? {e : SchemaError} (htable : Text.isBlank draft.table = false)
    (hcolumns : columnFault? draft.table [] draft.columns = none)
    (hkeys : foreignKeyFault? draft.table [] draft.relationships = some e) :
    draft.build = .error e := by
  have hfault : draft.fault? = some e := by
    rw [fault?, if_neg (by simp [htable]), hcolumns, hkeys]
    rfl
  rw [build, hfault]

theorem foreignKeys_ownForeignKeys :
    m.ownForeignKeys.foreignKeys = m.foreignKeys.map fun k => { k with table := m.table } := by
  simp [foreignKeys, ownForeignKeys, List.filterMap_map, List.map_filterMap]

/-- Foreign keys are assigned once. -/
theorem ownForeignKeys_ownForeignKeys : m.ownForeignKeys.ownForeignKeys = m.ownForeignKeys := by
  simp [ownForeignKeys, Function.comp_def]

/-- The names and columns of foreign keys do not depend on the table that holds them. -/
theorem WellFormed.ownForeignKeys (h : m.WellFormed) : m.ownForeignKeys.WellFormed where
  table := h.table
  columns := h.columns
  columnNames := h.columnNames
  foreignKeys := by
    rw [foreignKeys_ownForeignKeys]
    intro k hk
    obtain ⟨k₀, hk₀, rfl⟩ := List.mem_map.mp hk
    obtain ⟨hnamed, hnonempty, hpaired⟩ := h.foreignKeys k₀ hk₀
    exact ⟨hnamed, hnonempty, hpaired⟩
  checks := h.checks
  constraintNames := by
    rw [foreignKeys_ownForeignKeys, List.map_map]
    exact h.constraintNames
  indexes := h.indexes
  indexNames := h.indexNames

/-- The model is an accepted description. -/
def IsBuilt (a : Model) : Prop := ∃ draft : Model, draft.build = .ok a

theorem IsBuilt.wellFormed (h : a.IsBuilt) : a.WellFormed := by
  obtain ⟨draft, hb⟩ := h
  obtain ⟨hdraft, rfl⟩ := build_ok.mp hb
  exact hdraft.ownForeignKeys

theorem IsBuilt.table_of_mem_foreignKeys (h : a.IsBuilt) {k : ForeignKey}
    (hk : k ∈ a.foreignKeys) : k.table = a.table := by
  obtain ⟨draft, hb⟩ := h
  obtain ⟨-, rfl⟩ := build_ok.mp hb
  rw [foreignKeys_ownForeignKeys] at hk
  obtain ⟨k₀, -, rfl⟩ := List.mem_map.mp hk
  rfl

/-- A foreign key of an accepted model to another table is a dependency. -/
theorem IsBuilt.mem_dependencies (h : a.IsBuilt) {k : ForeignKey} (hk : k ∈ a.foreignKeys)
    (hother : k.referencedTable ≠ a.table) : k ∈ a.dependencies := by
  refine List.mem_filter.mpr ⟨hk, ?_⟩
  simp [ForeignKey.isSelfReference, h.table_of_mem_foreignKeys hk, hother.symm]

theorem IsBuilt.nodup_columns (h : a.IsBuilt) : (a.columns.map (·.name)).Nodup :=
  h.wellFormed.columnNames

/-- Foreign keys and checks share one space of names, in which they are distinct. -/
theorem IsBuilt.nodup_constraints (h : a.IsBuilt) :
    (a.foreignKeys.map (·.name) ++ a.checks.map (·.name)).Nodup :=
  h.wellFormed.constraintNames

theorem IsBuilt.nodup_indexes (h : a.IsBuilt) : (a.indexes.map (·.name)).Nodup :=
  h.wellFormed.indexNames

/-- **Validation is exact.**  A description is accepted exactly when it is well formed.  The
accepted model is the description with every foreign key assigned to the model's table, and with
nothing else changed, so that it is accepted as it is. -/
theorem build_exact (draft : Model) :
    ((∃ a, draft.build = .ok a) ↔ draft.WellFormed) ∧
    ∀ a, draft.build = .ok a →
      a = { draft with
        relationships := draft.relationships.map fun r =>
          { r with foreignKey := r.foreignKey.map fun k => { k with table := draft.table } } } ∧
      a.build = .ok a := by
  refine ⟨⟨?_, fun h => ⟨_, build_ok.mpr ⟨h, rfl⟩⟩⟩, ?_⟩
  · intro ⟨a, ha⟩
    exact (build_ok.mp ha).1
  · intro a ha
    obtain ⟨hdraft, rfl⟩ := build_ok.mp ha
    exact ⟨rfl, build_ok.mpr ⟨hdraft.ownForeignKeys, ownForeignKeys_ownForeignKeys⟩⟩

/-- Deliveries of orders, with a part of every kind.  One index entry is an expression, and one
relationship holds no foreign key. -/
def deliveries : Model where
  table := "deliveries"
  columns := [
    { field := "ID", name := "id", dataType := .int, primaryKey := true },
    { field := "OrderID", name := "order_id", dataType := .int },
    { field := "Address", name := "address", dataType := .string }]
  relationships := [
    .belongsTo "Order"
      { name := "fk_deliveries_order", table := "", columns := ["order_id"],
        referencedTable := "orders", referencedColumns := ["id"] },
    { name := "Parcels", kind := .hasMany, targetTable := "parcels" }]
  indexes := [
    { name := "idx_deliveries_address",
      entries := [{ column := "order_id" }, { expression := some "(lower(address))" }] }]
  checks := [{ name := "ck_deliveries_order", expression := "order_id > 0" }]

theorem build_exact_deliveries :
    ∃ a, deliveries.build = .ok a ∧ deliveries.WellFormed ∧
      a.foreignKeys.map (·.table) = ["deliveries"] ∧ a.build = .ok a := by
  have hbuild : deliveries.build = .ok deliveries.ownForeignKeys := by rfl
  obtain ⟨hiff, hall⟩ := build_exact deliveries
  exact ⟨_, hbuild, hiff.mp ⟨_, hbuild⟩, rfl, (hall _ hbuild).2⟩

end Model

end SchemaMigration
