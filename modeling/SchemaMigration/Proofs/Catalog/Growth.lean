import SchemaMigration.Catalog.Rehearsal
import SchemaMigration.Migration.Inspection
import SchemaMigration.Proofs.Except

/-!
# Catalogs that grow

What a catalog knows of a table comes in parts: that the table is there, its columns, its
constraints, its indexes.  `Catalog.has` asks for one of them, and every question that counts is
such a question (`session_affirms`).

Five kinds of change only add parts.  `apply_adds` says what becomes of the catalog when one of them
is made: it has the parts that it had and those that the change adds, and no others.  That it grows
and that it has what was added are the two directions of this one fact.
-/

namespace SchemaMigration

/-- A part of what the catalog knows of a table: that it is there, or a name that belongs to it. -/
inductive Part
  | table
  | column (name : String)
  | constraint (name : String)
  | index (name : String)
deriving DecidableEq, Repr

/-- The question whether a table has a part. -/
def Part.question (table database : String) : Part → CatalogQuery
  | .table => .table database table
  | .column name => .column database table name
  | .constraint name => .constraint database table name
  | .index name => .index database table name

/-- Whether an entry has a part; every entry says that its table is there. -/
def TableEntry.has (t : TableEntry) : Part → Bool
  | .table => true
  | .column name => t.columns.contains name
  | .constraint name => t.constraints.contains name
  | .index name => t.indexes.contains name

theorem TableEntry.has_addColumn (t : TableEntry) (name : String) (p : Part) :
    ({ t with columns := t.columns ++ [name] } : TableEntry).has p = true ↔
      t.has p = true ∨ p = .column name := by
  cases p <;> simp [has]

theorem TableEntry.has_addConstraint (t : TableEntry) (name : String) (p : Part) :
    ({ t with constraints := t.constraints.insert name } : TableEntry).has p = true ↔
      t.has p = true ∨ p = .constraint name := by
  cases p <;> simp [has, or_comm]

theorem TableEntry.has_addIndex (t : TableEntry) (name : String) (p : Part) :
    ({ t with indexes := t.indexes.insert name } : TableEntry).has p = true ↔
      t.has p = true ∨ p = .index name := by
  cases p <;> simp [has, or_comm]

/-- The part that a clause of `CREATE TABLE` declares; the primary key is none. -/
def Clause.part? : Clause → Option Part
  | .column name _ => some (.column name)
  | .primaryKey _ => none
  | .index i => some (.index i.name)
  | .foreignKey k => some (.constraint k.name)
  | .check c => some (.constraint c.name)

/-- The table and its parts that a change adds, if adding is all that it does. -/
def Change.adds : Change → Option (String × List Part)
  | .createTable table clauses _ => some (table, .table :: clauses.filterMap (·.part?))
  | .addColumn table column _ => some (table, [.column column])
  | .addForeignKey table k => some (table, [.constraint k.name])
  | .addCheck table c => some (table, [.constraint c.name])
  | .createIndex table i => some (table, [.index i.name])
  | _ => none

/-- The change adds this part to this table. -/
def Change.Adds (change : Change) (table : String) (p : Part) : Prop :=
  ∃ parts, change.adds = some (table, parts) ∧ p ∈ parts

namespace Catalog

/-- Whether the catalog has a part of a table. -/
def has (c : Catalog) (table : String) (p : Part) : Bool := (c.table? table).any (·.has p)

/-- Catalog `c'` has every part that catalog `c` has. -/
def Grows (c c' : Catalog) : Prop := ∀ table p, c.has table p = true → c'.has table p = true

theorem Grows.refl (c : Catalog) : c.Grows c := fun _ _ h => h

theorem Grows.trans {a b c : Catalog} (hab : a.Grows b) (hbc : b.Grows c) : a.Grows c :=
  fun table p h => hbc table p (hab table p h)

theorem has_table (c : Catalog) (table : String) : c.has table .table = c.hasTable table := by
  rw [has, hasTable]
  cases c.table? table <;> rfl

theorem Grows.hasTable {c c' : Catalog} {table : String} (h : c.Grows c')
    (ht : c.hasTable table = true) : c'.hasTable table = true := by
  rw [← has_table] at ht ⊢
  exact h table .table ht

/-- Only a table that is there has parts. -/
theorem has_of_has {c : Catalog} {table : String} {p : Part} (h : c.has table p = true) :
    c.has table .table = true := by
  unfold has at h ⊢
  cases hc : c.table? table with
  | none => simp [hc] at h
  | some t => rfl

theorem not_has_of_fresh {c : Catalog} {table : String} (h : c.hasTable table = false) (p : Part) :
    c.has table p = false := by
  rw [← has_table] at h
  exact Bool.eq_false_iff.mpr fun hp => absurd (has_of_has hp) (by simp [h])

/-- A table that is set twice is what it was set to last. -/
theorem setEntry_setEntry {table : String} (t u : TableEntry)
    (entries : List (String × TableEntry)) :
    setEntry table u (setEntry table t entries) = setEntry table u entries := by
  induction entries with
  | nil => simp [setEntry]
  | cons e rest ih =>
    obtain ⟨key, v⟩ := e
    rw [setEntry, setEntry]
    split
    · rw [setEntry, if_pos rfl]
    · next h => rw [setEntry, if_neg h, ih]

/-- A table that is set to what it is stays as it is. -/
theorem setEntry_self {table : String} {t : TableEntry} {entries : List (String × TableEntry)}
    (h : entries.lookup table = some t) : setEntry table t entries = entries := by
  induction entries with
  | nil => cases h
  | cons e rest ih =>
    obtain ⟨key, u⟩ := e
    rw [lookup_cons_ite] at h
    rw [setEntry]
    split at h
    · next hk =>
      cases h
      rw [if_pos hk.symm, hk]
    · next hk => rw [if_neg (Ne.symm hk), ih h]

/-- Setting the entry of one table leaves the parts of all others. -/
theorem has_set {c : Catalog} {name : String} {t : TableEntry} (table : String) (p : Part) :
    (c.set name t).has table p = if table = name then t.has p else c.has table p := by
  rw [has, table?_set]
  split
  · rfl
  · rfl

/-! ## What a change adds -/

/-- An entry that a table gets in place of an old one, with some more parts. -/
theorem has_set_iff {c : Catalog} {name : String} {t : TableEntry} {parts : List Part}
    (ht : ∀ p, t.has p = true ↔ c.has name p = true ∨ p ∈ parts) (table : String) (p : Part) :
    (c.set name t).has table p = true ↔
      c.has table p = true ∨ table = name ∧ p ∈ parts := by
  rw [has_set]
  split
  · next h =>
    subst h
    rw [ht p]
    simp
  · next h => simp [h]

/-- A clause adds its part to the entry of the new table. -/
theorem addClause_has {c : Catalog} {owner : String} {t u : TableEntry} {clause : Clause}
    (h : c.addClause owner t clause = .ok u) (p : Part) :
    u.has p = true ↔ t.has p = true ∨ clause.part? = some p := by
  cases clause with
  | column name type =>
    cases h
    rw [t.has_addColumn, Clause.part?, Option.some_inj, @eq_comm _ p]
  | primaryKey columns =>
    cases h
    simp [Clause.part?]
  | index i =>
    cases h
    rw [t.has_addIndex, Clause.part?, Option.some_inj, @eq_comm _ p]
  | foreignKey k =>
    obtain ⟨_, -, h⟩ := bind_eq_ok.mp h
    cases h
    rw [t.has_addConstraint, Clause.part?, Option.some_inj, @eq_comm _ p]
  | check k =>
    cases h
    rw [t.has_addConstraint, Clause.part?, Option.some_inj, @eq_comm _ p]

/-- All clauses together add their parts. -/
theorem addClauses_has {c : Catalog} {owner : String} {clauses : List Clause} :
    ∀ {t u : TableEntry}, clauses.foldlM (c.addClause owner) t = .ok u → ∀ p,
      u.has p = true ↔ t.has p = true ∨ p ∈ clauses.filterMap (·.part?) := by
  induction clauses with
  | nil =>
    intro t u h p
    cases h
    simp
  | cons clause clauses ih =>
    intro t u h p
    obtain ⟨v, hc, h⟩ := foldlM_cons_ok.mp h
    rw [ih h p, addClause_has hc p, or_assoc]
    simp [List.mem_filterMap]

/-- A table that is updated was there, and gets the entry that the update makes of the old one. -/
theorem update_ok {c c' : Catalog} {name : String} {f : TableEntry → Except Refusal TableEntry}
    (h : c.update name f = .ok c') :
    ∃ t u, c.table? name = some t ∧ f t = .ok u ∧ c' = c.set name u := by
  unfold update at h
  split at h
  · cases h
  · next t ht =>
    obtain ⟨u, hf, h⟩ := bind_eq_ok.mp h
    cases h
    exact ⟨t, u, ht, hf, rfl⟩

/-- An update that adds one part to the entry adds this part to the catalog. -/
theorem update_has {c c' : Catalog} {name : String} {f : TableEntry → Except Refusal TableEntry}
    {part : Part} (hf : ∀ t u, f t = .ok u → ∀ p, u.has p = true ↔ t.has p = true ∨ p = part)
    (h : c.update name f = .ok c') (table : String) (p : Part) :
    c'.has table p = true ↔ c.has table p = true ∨ table = name ∧ p ∈ [part] := by
  obtain ⟨t, u, ht, hu, rfl⟩ := update_ok h
  refine has_set_iff (fun q => ?_) table p
  rw [hf t u hu q, has, ht, List.mem_singleton]
  rfl

/-- A table to which a constraint is added was there, without it. -/
theorem addConstraint_ok {c c' : Catalog} {table name : String}
    (h : c.addConstraint table name = .ok c') :
    ∃ t, c.table? table = some t ∧ t.constraints.contains name = false ∧
      c' = c.set table { t with constraints := t.constraints.insert name } := by
  obtain ⟨t, u, ht, hu, rfl⟩ := update_ok h
  split at hu
  · cases hu
  · next hnew =>
    cases hu
    exact ⟨t, ht, by simpa using hnew, rfl⟩

theorem addConstraint_has {c c' : Catalog} {name constraint : String}
    (h : c.addConstraint name constraint = .ok c') (table : String) (p : Part) :
    c'.has table p = true ↔ c.has table p = true ∨ table = name ∧ p ∈ [.constraint constraint] := by
  refine update_has (fun t u hu q => ?_) h table p
  split at hu
  · cases hu
  · cases hu
    exact t.has_addConstraint constraint q

/-- **What adding does.**  A change that only adds, when it is accepted, leaves every part that was
there and brings the parts that it adds, and no others. -/
theorem apply_adds {c c' : Catalog} {change : Change} {name : String} {parts : List Part}
    (ha : change.adds = some (name, parts)) (h : c.apply change = .ok c') (table : String)
    (p : Part) :
    c'.has table p = true ↔ c.has table p = true ∨ table = name ∧ p ∈ parts := by
  cases change with
  | createTable name' clauses options =>
    cases ha
    rw [apply] at h
    split at h
    · cases h
    · next hnew =>
      obtain ⟨t, hc, h⟩ := bind_eq_ok.mp h
      cases h
      refine has_set_iff (fun q => ?_) table p
      -- Nothing is known of the table before, and the empty entry has just its own existence.
      rw [addClauses_has hc q, not_has_of_fresh (by simpa using hnew) q, List.mem_cons]
      cases q <;> simp [TableEntry.has, NameSet.contains]
  | addColumn name' column type =>
    cases ha
    refine update_has (fun t u hu q => ?_) h table p
    split at hu
    · cases hu
    · cases hu
      exact t.has_addColumn column q
  | addForeignKey name' k =>
    cases ha
    rw [apply, addForeignKey] at h
    split at h
    · cases h
    · exact addConstraint_has h table p
  | addCheck name' k =>
    cases ha
    exact addConstraint_has h table p
  | createIndex name' i =>
    cases ha
    refine update_has (fun t u hu q => ?_) h table p
    split at hu
    · cases hu
    · cases hu
      exact t.has_addIndex i.name q
  | _ => cases ha

theorem apply_grows {c c' : Catalog} {change : Change} {name : String} {parts : List Part}
    (ha : change.adds = some (name, parts)) (h : c.apply change = .ok c') : c.Grows c' :=
  fun table p hp => (apply_adds ha h table p).mpr (Or.inl hp)

theorem apply_has {c c' : Catalog} {change : Change} {name : String} {parts : List Part}
    (ha : change.adds = some (name, parts)) (h : c.apply change = .ok c') {p : Part}
    (hp : p ∈ parts) : c'.has name p = true :=
  (apply_adds ha h name p).mpr (Or.inr ⟨rfl, hp⟩)

/-- A change is accepted only if what it adds is not there. -/
theorem apply_new {c c' : Catalog} {change : Change} (h : c.apply change = .ok c')
    {table : String} {p : Part} (ha : change.Adds table p) : c.has table p = false := by
  obtain ⟨parts, ha, hp⟩ := ha
  cases change with
  | createTable name clauses options =>
    cases ha
    rw [apply] at h
    split at h
    · cases h
    · next hnew => exact not_has_of_fresh (by simpa using hnew) p
  | addColumn name column type =>
    cases ha
    cases List.mem_singleton.mp hp
    obtain ⟨t, u, ht, hu, -⟩ := update_ok h
    split at hu
    · cases hu
    · next hnew => simpa [has, ht, TableEntry.has] using hnew
  | addForeignKey name k =>
    cases ha
    cases List.mem_singleton.mp hp
    rw [apply, addForeignKey] at h
    split at h
    · cases h
    · obtain ⟨t, ht, hnew, -⟩ := addConstraint_ok h
      simpa [has, ht, TableEntry.has] using hnew
  | addCheck name k =>
    cases ha
    cases List.mem_singleton.mp hp
    obtain ⟨t, ht, hnew, -⟩ := addConstraint_ok h
    simpa [has, ht, TableEntry.has] using hnew
  | createIndex name i =>
    cases ha
    cases List.mem_singleton.mp hp
    obtain ⟨t, u, ht, hu, -⟩ := update_ok h
    split at hu
    · cases hu
    · next hnew => simpa [has, ht, TableEntry.has] using hnew
  | _ => cases ha

/-- What is there after an accepted change was there before, or the change adds it. -/
theorem apply_has_iff {c c' : Catalog} {change : Change} (h : c.apply change = .ok c')
    {table : String} {parts : List Part} (ha : change.adds = some (table, parts)) (t : String)
    (p : Part) :
    c'.has t p = true ↔ c.has t p = true ∨ change.Adds t p := by
  rw [apply_adds ha h]
  refine or_congr_right ?_
  constructor
  · rintro ⟨rfl, hp⟩
    exact ⟨parts, ha, hp⟩
  · rintro ⟨parts', ha', hp⟩
    cases ha.symm.trans ha'
    exact ⟨rfl, hp⟩

/-! ## What the session answers -/

theorem countsAny_countRow (b : Bool) : countsAny (countRow b) = b := by
  cases b <;> decide

theorem answer_question (c : Catalog) (database table named : String) (p : Part) :
    c.answer database (p.question table named) = countRow (c.has table p) := by
  cases p with
  | table => rw [has_table]; rfl
  | column name => rfl
  | constraint name => rfl
  | index name => rfl

/-- The session on a catalog answers truthfully, and asking changes nothing. -/
theorem session_affirms (c : Catalog) (d e : Dialect) (database table : String) (p : Part) :
    (Catalog.session d database).affirms e (fun named => p.question table named) c =
      (c.has table p, c) := by
  show (countsAny (c.answer database (p.question table database)), c) = (c.has table p, c)
  rw [answer_question, countsAny_countRow]

end Catalog

end SchemaMigration
