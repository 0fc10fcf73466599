import SchemaMigration.Proofs.Catalog.Acceptance

/-!
# Indexes in a table and after it

A table can be created with its indexes, or without them, each by a change of its own afterwards.
Both lead to the same catalog (`apply_createTable_indexed`), and it does not matter what other
tables are created before the last of these indexes is (`apply_createTable_addIndexes`).  Together
this is what a table that is created while indexes of others wait comes to
(`apply_createTable_late`).
-/

namespace SchemaMigration

/-- The entry with these indexes besides its own. -/
def TableEntry.withIndexes (t : TableEntry) (names : List String) : TableEntry :=
  { t with indexes := names.foldl NameSet.insert t.indexes }

theorem TableEntry.withIndexes_withIndexes (t : TableEntry) (names more : List String) :
    (t.withIndexes names).withIndexes more = t.withIndexes (names ++ more) := by
  unfold withIndexes
  rw [List.foldl_append]

namespace Catalog

variable {c : Catalog} {table : String}

/-- Tables that are set one after the other are there in any order, if one was there before. -/
theorem setEntry_comm {name other : String} (hne : name ≠ other) (t u : TableEntry) :
    ∀ {entries : List (String × TableEntry)}, (entries.lookup name).isSome = true →
      setEntry name t (setEntry other u entries) = setEntry other u (setEntry name t entries) := by
  intro entries
  induction entries with
  | nil => exact fun h => absurd h (by simp)
  | cons e rest ih =>
    obtain ⟨key, v⟩ := e
    intro h
    by_cases hkey : key = name
    · subst hkey
      simp [setEntry, hne]
    · rw [lookup_cons_ite, if_neg (Ne.symm hkey)] at h
      by_cases hother : key = other
      · subst hother
        simp [setEntry, hkey]
      · simp [setEntry, hkey, hother, ih h]

/-- The catalog with one index more, given by its table and its name, if the table is there. -/
def addIndex (c : Catalog) (x : String × String) : Catalog :=
  match c.table? x.1 with
  | none => c
  | some t => c.set x.1 (t.withIndexes [x.2])

/-- The catalog with more indexes. -/
def addIndexes (c : Catalog) (xs : List (String × String)) : Catalog := xs.foldl addIndex c

theorem addIndexes_append (c : Catalog) (xs ys : List (String × String)) :
    c.addIndexes (xs ++ ys) = (c.addIndexes xs).addIndexes ys :=
  List.foldl_append

@[simp] theorem hasTable_addIndex (c : Catalog) (x : String × String) (t : String) :
    (c.addIndex x).hasTable t = c.hasTable t := by
  unfold addIndex
  split
  · rfl
  · next u hu =>
    unfold hasTable
    rw [table?_set]
    split
    · next ht => rw [ht, hu]; rfl
    · rfl

@[simp] theorem hasTable_addIndexes (xs : List (String × String)) (t : String) :
    ∀ c : Catalog, (c.addIndexes xs).hasTable t = c.hasTable t := by
  induction xs with
  | nil => exact fun _ => rfl
  | cons x xs ih => exact fun c => (ih (c.addIndex x)).trans (hasTable_addIndex c x t)

/-- An index that a table lacks is created. -/
theorem apply_createIndex {i : Index} (ht : c.hasTable table = true)
    (hi : c.has table (.index i.name) = false) :
    c.apply (.createIndex table i) = .ok (c.addIndex (table, i.name)) := by
  obtain ⟨t, htable⟩ := Option.isSome_iff_exists.mp ht
  rw [has, htable] at hi
  have hnew : t.indexes.contains i.name = false := hi
  rw [apply, createIndex, update, addIndex, htable]
  dsimp only
  rw [hnew]
  rfl

/-- An index of a table that was there can be added before or after another table is set. -/
theorem addIndex_set {x : String × String} (hx : c.hasTable x.1 = true) (hne : x.1 ≠ table)
    (t : TableEntry) : (c.set table t).addIndex x = (c.addIndex x).set table t := by
  obtain ⟨u, hu⟩ := Option.isSome_iff_exists.mp hx
  unfold addIndex
  rw [table?_set, if_neg hne, hu]
  exact congrArg Catalog.mk (setEntry_comm hne _ _ hx)

theorem addIndexes_set (t : TableEntry) (xs : List (String × String)) :
    ∀ {c : Catalog}, (∀ x ∈ xs, c.hasTable x.1 = true ∧ x.1 ≠ table) →
      (c.set table t).addIndexes xs = (c.addIndexes xs).set table t := by
  induction xs with
  | nil => exact fun _ => rfl
  | cons x xs ih =>
    intro c h
    obtain ⟨hx, hne⟩ := h x List.mem_cons_self
    show ((c.set table t).addIndex x).addIndexes xs = ((c.addIndex x).addIndexes xs).set table t
    rw [addIndex_set hx hne, ih]
    intro y hy
    rw [hasTable_addIndex]
    exact h y (List.mem_cons_of_mem x hy)

/-- Indexes that are added to a table that has just been set are indexes of its entry. -/
theorem addIndexes_own (table : String) (names : List String) :
    ∀ (c : Catalog) (t : TableEntry), (c.set table t).addIndexes (names.map fun n => (table, n)) =
      c.set table (t.withIndexes names) := by
  induction names with
  | nil => exact fun _ _ => rfl
  | cons name names ih =>
    intro c t
    show ((c.set table t).addIndex (table, name)).addIndexes _ = _
    have hfirst : (c.set table t).addIndex (table, name) = c.set table (t.withIndexes [name]) := by
      unfold addIndex
      rw [table?_set, if_pos rfl]
      exact congrArg Catalog.mk (setEntry_setEntry _ _ _)
    rw [hfirst, ih, TableEntry.withIndexes_withIndexes]
    rfl

/-! ## Clauses -/

/-- What a clause does to the entry of the new table depends on the tables that are there only. -/
theorem addClause_congr {c' : Catalog} (h : ∀ t, c.hasTable t = c'.hasTable t) (owner : String) :
    c.addClause owner = c'.addClause owner := by
  funext t clause
  cases clause <;> simp only [addClause, checkReference, h]

/-- The clauses for indexes add these indexes. -/
theorem addClauses_indexes (owner : String) (is : List Index) :
    ∀ t : TableEntry, (is.map Clause.index).foldlM (c.addClause owner) t =
      .ok (t.withIndexes (is.map (·.name))) := by
  induction is with
  | nil => exact fun _ => rfl
  | cons i is ih => exact fun t => ih (t.withIndexes [i.name])

/-- Any other clause leaves the indexes alone. -/
theorem addClause_withIndexes (owner : String) (t : TableEntry) (names : List String)
    {clause : Clause} (h : ∀ i, clause ≠ .index i) :
    c.addClause owner (t.withIndexes names) clause =
      (c.addClause owner t clause).map (·.withIndexes names) := by
  cases clause with
  | index i => exact absurd rfl (h i)
  | foreignKey k =>
    show Except.map _ (c.checkReference owner k.referencedTable) =
      Except.map _ (Except.map _ (c.checkReference owner k.referencedTable))
    cases c.checkReference owner k.referencedTable <;> rfl
  | column name type => rfl
  | primaryKey columns => rfl
  | check k => rfl

theorem addClauses_withIndexes (owner : String) (names : List String) {clauses : List Clause}
    (h : ∀ clause ∈ clauses, ∀ i, clause ≠ .index i) :
    ∀ t : TableEntry, clauses.foldlM (c.addClause owner) (t.withIndexes names) =
      (clauses.foldlM (c.addClause owner) t).map (·.withIndexes names) := by
  induction clauses with
  | nil => exact fun _ => rfl
  | cons clause clauses ih =>
    intro t
    rw [List.foldlM_cons, List.foldlM_cons,
      addClause_withIndexes owner t names (h clause List.mem_cons_self)]
    cases c.addClause owner t clause with
    | error e => rfl
    | ok u => exact ih (fun clause hc => h clause (List.mem_cons_of_mem _ hc)) u

/-! ## The table -/

/-- A table with clauses for indexes is the table without them, with the indexes created
afterwards. -/
theorem apply_createTable_indexed (c : Catalog) (table : String) (before after : List Clause)
    (is : List Index) (options : Option String) (h : ∀ clause ∈ after, ∀ i, clause ≠ .index i) :
    c.apply (.createTable table (before ++ is.map Clause.index ++ after) options) =
      (c.apply (.createTable table (before ++ after) options)).map
        (·.addIndexes (is.map fun i => (table, i.name))) := by
  have hclauses : (before ++ is.map Clause.index ++ after).foldlM (c.addClause table) {} =
      ((before ++ after).foldlM (c.addClause table) {}).map
        (·.withIndexes (is.map (·.name))) := by
    rw [List.append_assoc, List.foldlM_append, List.foldlM_append]
    cases before.foldlM (c.addClause table) {} with
    | error e => rfl
    | ok t =>
      show (is.map Clause.index ++ after).foldlM (c.addClause table) t = _
      rw [List.foldlM_append, addClauses_indexes]
      exact addClauses_withIndexes table _ h t
  rw [apply, apply, hclauses]
  split
  · rfl
  · cases (before ++ after).foldlM (c.addClause table) {} with
    | error e => rfl
    | ok t =>
      refine congrArg Except.ok ?_
      rw [← addIndexes_own table (is.map (·.name)) c t, List.map_map]
      rfl

/-- Indexes of tables that are there can be created before or after another table. -/
theorem apply_createTable_addIndexes {xs : List (String × String)}
    (h : ∀ x ∈ xs, c.hasTable x.1 = true) (table : String) (clauses : List Clause)
    (options : Option String) :
    (c.addIndexes xs).apply (.createTable table clauses options) =
      (c.apply (.createTable table clauses options)).map (·.addIndexes xs) := by
  rw [apply, apply, hasTable_addIndexes, addClause_congr fun t => hasTable_addIndexes xs t c]
  split
  · rfl
  · next hnew =>
    cases clauses.foldlM (c.addClause table) {} with
    | error e => rfl
    | ok t =>
      refine congrArg Except.ok (addIndexes_set t xs fun x hx => ⟨h x hx, ?_⟩).symm
      rintro rfl
      exact hnew (h x hx)

/-- So a table with its indexes leads to the catalog to which the table without them leads, with
these indexes besides those that were added before. -/
theorem apply_createTable_late {xs : List (String × String)} (hxs : ∀ x ∈ xs, c.hasTable x.1 = true)
    (table : String) (before after : List Clause) (is : List Index) (options : Option String)
    (h : ∀ clause ∈ after, ∀ i, clause ≠ .index i) :
    (c.addIndexes xs).apply
        (.createTable table (before ++ is.map Clause.index ++ after) options) =
      (c.apply (.createTable table (before ++ after) options)).map
        (·.addIndexes (xs ++ is.map fun i => (table, i.name))) := by
  rw [apply_createTable_indexed _ table before after is options h, apply_createTable_addIndexes hxs]
  cases c.apply (.createTable table (before ++ after) options) with
  | error refusal => rfl
  | ok c' => exact congrArg Except.ok (c'.addIndexes_append xs _).symm

end Catalog

end SchemaMigration
