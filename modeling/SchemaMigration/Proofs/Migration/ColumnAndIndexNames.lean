import SchemaMigration.Proofs.Migration.ConstraintNames

/-!
# What a name means to the operations on columns and indexes

A caller names a column by its own name or by that of its field, and an index by its own name or by
a field that it covers.  The own names come first (`Model.column?_name`, `Model.index?_name`), so
that a name that was looked up means the same when it is looked up again, also where the field of
one column is called like another column.

Eight operations look names up, and all of them look them up in the same way.  What one of them adds,
renames or drops is therefore what the others find or miss under this name (`names_agree`), and it
is the only part of the catalog that changes.
-/

namespace SchemaMigration

/-! ## Own names come first -/

namespace Model

variable {m : Model} {c : Column} {i : Index} {name : String}

/-- A column whose name no other column has is what its name denotes, whatever field has this name
too. -/
theorem column?_name (hnodup : (m.columns.map (·.name)).Nodup) (hc : c ∈ m.columns) :
    m.column? c.name = some c := by
  have hfind : m.columns.find? (·.name = c.name) = some c := by
    cases hf : m.columns.find? (·.name = c.name) with
    | none => exact absurd (List.find?_eq_none.mp hf c hc) (by simp)
    | some other =>
      have hname : other.name = c.name := by simpa using List.find?_some hf
      rw [List.inj_on_of_nodup_map hnodup (List.mem_of_find?_eq_some hf) hc hname]
  rw [column?, hfind, Option.some_or]

/-- What a name denotes is denoted by its own name, or a column of the same name is. -/
theorem exists_column?_name (h : m.column? name = some c) :
    ∃ c', m.column? c.name = some c' ∧ c'.name = c.name := by
  have hc : c ∈ m.columns := by
    rcases Option.or_eq_some_iff.mp h with hown | ⟨-, hfield⟩
    · exact List.mem_of_find?_eq_some hown
    · exact List.mem_of_find?_eq_some hfield
  cases hf : m.columns.find? (·.name = c.name) with
  | none => exact absurd (List.find?_eq_none.mp hf c hc) (by simp)
  | some c' => exact ⟨c', by rw [column?, hf, Option.some_or], by simpa using List.find?_some hf⟩

/-- The same of indexes: their own names come before the columns that they cover. -/
theorem exists_index?_name (h : m.index? name = some i) :
    ∃ i', m.index? i.name = some i' ∧ i'.name = i.name := by
  have hi : i ∈ m.indexes := by
    unfold index? at h
    split at h
    · next j hown =>
      cases h
      exact List.mem_of_find?_eq_some hown
    · split at h
      · exact List.mem_of_find?_eq_some h
      · cases h
  cases hf : m.indexes.find? (·.name = i.name) with
  | none => exact absurd (List.find?_eq_none.mp hf i hi) (by simp)
  | some i' => exact ⟨i', by rw [index?, hf], by simpa using List.find?_some hf⟩

end Model

namespace ResolvedModel

variable {a : Model} {c : Column} {i : Index} {name : String}

theorem columnName_of_some (h : a.column? name = some c) :
    (ResolvedModel.model a).columnName name = c.name := by
  simp [columnName, description?, h]

theorem columnName_of_none (h : a.column? name = none) :
    (ResolvedModel.model a).columnName name = name := by
  simp [columnName, description?, h]

theorem indexName_of_some (h : a.index? name = some i) :
    (ResolvedModel.model a).indexName name = i.name := by
  simp [indexName, description?, h]

theorem indexName_of_none (h : a.index? name = none) :
    (ResolvedModel.model a).indexName name = name := by
  simp [indexName, description?, h]

/-- What a name denotes among the columns denotes itself. -/
theorem columnName_columnName (r : ResolvedModel) (name : String) :
    r.columnName (r.columnName name) = r.columnName name := by
  cases r with
  | table table => rfl
  | model a =>
    cases hc : a.column? name with
    | none => rw [columnName_of_none hc, columnName_of_none hc]
    | some c =>
      obtain ⟨c', hc', hname⟩ := Model.exists_column?_name hc
      rw [columnName_of_some hc, columnName_of_some hc', hname]

/-- What a name denotes among the indexes denotes itself. -/
theorem indexName_indexName (r : ResolvedModel) (name : String) :
    r.indexName (r.indexName name) = r.indexName name := by
  cases r with
  | table table => rfl
  | model a =>
    cases hi : a.index? name with
    | none => rw [indexName_of_none hi, indexName_of_none hi]
    | some i =>
      obtain ⟨i', hi', hname⟩ := Model.exists_index?_name hi
      rw [indexName_of_some hi, indexName_of_some hi', hname]

end ResolvedModel

/-! ## What is taken away, and what is renamed -/

theorem TableEntry.has_dropColumn (t : TableEntry) (name : String) (p : Part) :
    ({ t with columns := t.columns.filter (· ≠ name) } : TableEntry).has p = true ↔
      t.has p = true ∧ p ≠ .column name := by
  cases p <;> simp [has]

theorem TableEntry.has_dropIndex (t : TableEntry) (name : String) (p : Part) :
    ({ t with indexes := t.indexes.erase name } : TableEntry).has p = true ↔
      t.has p = true ∧ p ≠ .index name := by
  cases p <;> simp [has]

theorem TableEntry.has_renameColumn (t : TableEntry) (old new : String) (p : Part) :
    ({ t with columns := t.columns.map fun x => if x = old then new else x } : TableEntry).has p =
        true ↔
      t.has p = true ∧ p ≠ .column old ∨ t.has (.column old) = true ∧ p = .column new := by
  cases p with
  | column name =>
    simp only [has, List.contains_iff_mem, List.mem_map, ne_eq, Part.column.injEq]
    constructor
    · rintro ⟨x, hx, heq⟩
      by_cases hold : x = old
      · rw [if_pos hold] at heq
        exact Or.inr ⟨hold ▸ hx, heq.symm⟩
      · rw [if_neg hold] at heq
        subst heq
        exact Or.inl ⟨hx, hold⟩
    · intro h
      rcases h with ⟨hname, hne⟩ | ⟨hold, rfl⟩
      · exact ⟨name, hname, if_neg hne⟩
      · exact ⟨old, hold, if_pos rfl⟩
  | _ => simp [has]

namespace Catalog

variable {c c' : Catalog} {table name : String} {p : Part}

/-- Catalog `c'` has what `c` has and this part of the table, which `c` lacks, and nothing else. -/
def GainsPart (c c' : Catalog) (table : String) (p : Part) : Prop :=
  c.has table p = false ∧
    ∀ t q, c'.has t q = true ↔ c.has t q = true ∨ t = table ∧ q = p

/-- Catalog `c'` has what `c` has except for this part of the table, and nothing else. -/
def LosesPart (c c' : Catalog) (table : String) (p : Part) : Prop :=
  ∀ t q, c'.has t q = true ↔ c.has t q = true ∧ ¬ (t = table ∧ q = p)

/-- Catalog `c'` has what `c` has, with one part of the table in place of another one, if this was
there. -/
def RenamesPart (c c' : Catalog) (table : String) (old new : Part) : Prop :=
  ∀ t q, c'.has t q = true ↔
    c.has t q = true ∧ ¬ (t = table ∧ q = old) ∨ c.has table old = true ∧ t = table ∧ q = new

theorem GainsPart.has (h : c.GainsPart c' table p) : c'.has table p = true :=
  (h.2 table p).mpr (Or.inr ⟨rfl, rfl⟩)

theorem LosesPart.not_has (h : c.LosesPart c' table p) : c'.has table p = false :=
  Bool.eq_false_iff.mpr fun hp => ((h table p).mp hp).2 ⟨rfl, rfl⟩

theorem RenamesPart.has {old new : Part} (h : c.RenamesPart c' table old new)
    (hold : c.has table old = true) : c'.has table new = true :=
  (h table new).mpr (Or.inr ⟨hold, rfl, rfl⟩)

/-- A change that adds one part is accepted only where this part is missing. -/
theorem gainsPart_of_apply {change : Change} (ha : change.adds = some (table, [p]))
    (h : c.apply change = .ok c') : c.GainsPart c' table p := by
  refine ⟨apply_new h ⟨[p], ha, List.mem_singleton_self p⟩, fun t q => ?_⟩
  rw [apply_adds ha h, List.mem_singleton]

/-- An update that takes one part from the entry takes it from the catalog. -/
theorem losesPart_of_update {f : TableEntry → Except Refusal TableEntry}
    (hf : ∀ t u, f t = .ok u → ∀ q, u.has q = true ↔ t.has q = true ∧ q ≠ p)
    (h : c.update table f = .ok c') : c.LosesPart c' table p := by
  obtain ⟨t, u, ht, hu, rfl⟩ := update_ok h
  intro other q
  rw [has_set]
  by_cases hother : other = table
  · subst hother
    rw [if_pos rfl, hf t u hu q, Catalog.has, ht]
    simp
  · simp [hother]

theorem losesPart_of_dropColumn (h : c.apply (.dropColumn table name) = .ok c') :
    c.LosesPart c' table (.column name) := by
  refine losesPart_of_update (fun t u hu q => ?_) h
  cases hu
  exact t.has_dropColumn name q

theorem losesPart_of_dropIndex (h : c.apply (.dropIndex table name) = .ok c') :
    c.LosesPart c' table (.index name) := by
  refine losesPart_of_update (fun t u hu q => ?_) h
  split at hu
  · cases hu
    exact t.has_dropIndex name q
  · cases hu

theorem renamesPart_of_renameColumn {old new : String}
    (h : c.apply (.renameColumn table old new) = .ok c') :
    c.RenamesPart c' table (.column old) (.column new) := by
  obtain ⟨t, u, ht, hu, rfl⟩ := update_ok h
  cases hu
  intro other q
  rw [has_set]
  by_cases hother : other = table
  · subst hother
    rw [if_pos rfl, t.has_renameColumn, Catalog.has, Catalog.has, ht]
    simp
  · simp [hother]

end Catalog

/-! ## Running the operations -/

namespace Migrator

open SchemaMigration.Action (bind_ok bind_of_ok ofExcept_ok)

variable {m : Migrator} {reg : Registry} {d : Dialect} {database : String} {ref : ModelRef}
variable {r : ResolvedModel} {a : Model} {c c' : Catalog} {name : String} {answer : Answer}

/-- Asking for a column is answered from the catalog, by what the name means. -/
theorem run_hasColumn (hr : ref.resolve reg = .ok r) :
    m.run reg (Catalog.session d database) (.hasColumn ref name) c =
      .ok (.verdict (c.has r.tableName (.column (r.columnName name)))) c := by
  show m.inquire reg _ (.hasColumn ref name) c = _
  rw [inquire, bind_of_ok (ofExcept_ok.mpr ⟨resolve_of_ok hr, rfl⟩)]
  exact bind_of_ok (ask_part c m.dialect r.tableName (.column _))

/-- Asking for an index is answered from the catalog, by what the name means. -/
theorem run_hasIndex (hr : ref.resolve reg = .ok r) :
    m.run reg (Catalog.session d database) (.hasIndex ref name) c =
      .ok (.verdict (c.has r.tableName (.index (r.indexName name)))) c := by
  show m.inquire reg _ (.hasIndex ref name) c = _
  rw [inquire, bind_of_ok (ofExcept_ok.mpr ⟨resolve_of_ok hr, rfl⟩)]
  exact bind_of_ok (ask_part c m.dialect r.tableName (.index _))

/-- An operation that succeeds has found all that it looks up. -/
theorem changes_of_run_ok {op : Operation}
    (h : m.run reg (Catalog.session d database) op c = .ok answer c') :
    ∃ changes, op.changes m.dialect reg = .ok changes := by
  obtain ⟨changes, _, hchanges, -⟩ := bind_ok.mp h
  exact ⟨changes, (ofExcept_ok.mp hchanges).1⟩

theorem describe_of_ok {kind : String} (ha : ref.resolve reg = .ok (.model a)) :
    Operation.describe reg kind name ref = .ok a := by
  rw [Operation.describe, resolve_of_ok ha]

/-- A column is added under the name that the field name means. -/
theorem changes_addColumn (ha : ref.resolve reg = .ok (.model a)) {changes : List Change}
    (h : (Operation.addColumn ref name).changes m.dialect reg = .ok changes) :
    ∃ type, changes =
      [.addColumn a.table ((ResolvedModel.model a).columnName name) type] := by
  obtain ⟨⟨b, col⟩, hcol, h⟩ := bind_eq_ok.mp h
  obtain ⟨change, hchange, h⟩ := bind_eq_ok.mp h
  rw [Operation.declaredColumn, describe_of_ok ha] at hcol
  dsimp only at hcol
  cases hfound : a.column? name with
  | none =>
    rw [hfound] at hcol
    cases hcol
  | some found =>
    rw [hfound] at hcol
    cases hcol
    obtain ⟨type, -, htype⟩ := bind_eq_ok.mp hchange
    cases htype
    cases h
    rw [ResolvedModel.columnName_of_some hfound]
    exact ⟨type, rfl⟩

/-- An index is created under the name that the given name means. -/
theorem changes_createIndex (ha : ref.resolve reg = .ok (.model a)) {changes : List Change}
    (h : (Operation.createIndex ref name).changes m.dialect reg = .ok changes) :
    ∃ i : Index, i.name = (ResolvedModel.model a).indexName name ∧
      changes = [.createIndex a.table i] := by
  obtain ⟨b, hb, h⟩ := bind_eq_ok.mp h
  obtain ⟨i, hi, h⟩ := bind_eq_ok.mp h
  cases (describe_of_ok ha).symm.trans hb
  cases hfound : a.index? name with
  | none =>
    rw [hfound] at hi
    cases hi
  | some found =>
    rw [hfound] at hi
    cases hi
    cases h
    exact ⟨i, (ResolvedModel.indexName_of_some hfound).symm, rfl⟩

theorem run_addColumn (hreal : m.config.dryRun = false) (ha : ref.resolve reg = .ok (.model a))
    (h : m.run reg (Catalog.session d database) (.addColumn ref name) c = .ok answer c') :
    c.GainsPart c' a.table (.column ((ResolvedModel.model a).columnName name)) := by
  obtain ⟨changes, hchanges⟩ := changes_of_run_ok h
  obtain ⟨type, rfl⟩ := changes_addColumn ha hchanges
  exact Catalog.gainsPart_of_apply rfl ((run_change_ok_iff hreal hchanges rfl).mp h).2

theorem run_createIndex (hreal : m.config.dryRun = false) (ha : ref.resolve reg = .ok (.model a))
    (h : m.run reg (Catalog.session d database) (.createIndex ref name) c = .ok answer c') :
    c.GainsPart c' a.table (.index ((ResolvedModel.model a).indexName name)) := by
  obtain ⟨changes, hchanges⟩ := changes_of_run_ok h
  obtain ⟨i, hname, rfl⟩ := changes_createIndex ha hchanges
  rw [← hname]
  exact Catalog.gainsPart_of_apply rfl ((run_change_ok_iff hreal hchanges rfl).mp h).2

theorem run_dropColumn (hreal : m.config.dryRun = false) (hr : ref.resolve reg = .ok r)
    (h : m.run reg (Catalog.session d database) (.dropColumn ref name) c = .ok answer c') :
    c.LosesPart c' r.tableName (.column (r.columnName name)) := by
  have hop : (Operation.dropColumn ref name).changes m.dialect reg =
      .ok [.dropColumn r.tableName (r.columnName name)] := by
    rw [Operation.changes, resolve_of_ok hr]
    rfl
  exact Catalog.losesPart_of_dropColumn ((run_change_ok_iff hreal hop rfl).mp h).2

theorem run_dropIndex (hreal : m.config.dryRun = false) (hr : ref.resolve reg = .ok r)
    (h : m.run reg (Catalog.session d database) (.dropIndex ref name) c = .ok answer c') :
    c.LosesPart c' r.tableName (.index (r.indexName name)) := by
  have hop : (Operation.dropIndex ref name).changes m.dialect reg =
      .ok [.dropIndex r.tableName (r.indexName name)] := by
    rw [Operation.changes, resolve_of_ok hr]
    rfl
  exact Catalog.losesPart_of_dropIndex ((run_change_ok_iff hreal hop rfl).mp h).2

theorem run_renameColumn (hreal : m.config.dryRun = false) (hr : ref.resolve reg = .ok r)
    {new : String}
    (h : m.run reg (Catalog.session d database) (.renameColumn ref name new) c =
      .ok answer c') :
    c.RenamesPart c' r.tableName (.column (r.columnName name)) (.column (r.columnName new)) := by
  have hop : (Operation.renameColumn ref name new).changes m.dialect reg =
      .ok [.renameColumn r.tableName (r.columnName name) (r.columnName new)] := by
    rw [Operation.changes, resolve_of_ok hr]
    rfl
  exact Catalog.renamesPart_of_renameColumn ((run_change_ok_iff hreal hop rfl).mp h).2

/-! ## The theorem -/

/-- On the session `s` whose catalog is `c`, the operations on columns and indexes of the model `a`
mean the same part of the catalog by a name. -/
structure AgreeOn (m : Migrator) (reg : Registry) (s : Session Catalog) (ref : ModelRef)
    (a : Model) (c : Catalog) (name : String) : Prop where
  /-- A column that was added is found. -/
  addColumn : ∀ answer c', m.run reg s (.addColumn ref name) c = .ok answer c' →
    c.GainsPart c' a.table (.column ((ResolvedModel.model a).columnName name)) ∧
      m.run reg s (.hasColumn ref name) c' = .ok (.verdict true) c'
  /-- A column that was dropped is missed. -/
  dropColumn : ∀ answer c', m.run reg s (.dropColumn ref name) c = .ok answer c' →
    c.LosesPart c' a.table (.column ((ResolvedModel.model a).columnName name)) ∧
      m.run reg s (.hasColumn ref name) c' = .ok (.verdict false) c'
  /-- A column that was there and was renamed is found by its new name. -/
  renameColumn : ∀ new answer c', m.run reg s (.renameColumn ref name new) c = .ok answer c' →
    c.RenamesPart c' a.table (.column ((ResolvedModel.model a).columnName name))
        (.column ((ResolvedModel.model a).columnName new)) ∧
      (c.has a.table (.column ((ResolvedModel.model a).columnName name)) = true →
        m.run reg s (.hasColumn ref new) c' = .ok (.verdict true) c')
  /-- An index that was created is found. -/
  createIndex : ∀ answer c', m.run reg s (.createIndex ref name) c = .ok answer c' →
    c.GainsPart c' a.table (.index ((ResolvedModel.model a).indexName name)) ∧
      m.run reg s (.hasIndex ref name) c' = .ok (.verdict true) c'
  /-- An index that was dropped is missed. -/
  dropIndex : ∀ answer c', m.run reg s (.dropIndex ref name) c = .ok answer c' →
    c.LosesPart c' a.table (.index ((ResolvedModel.model a).indexName name)) ∧
      m.run reg s (.hasIndex ref name) c' = .ok (.verdict false) c'

theorem agreeOn (hreal : m.config.dryRun = false) (ha : ref.resolve reg = .ok (.model a))
    (c : Catalog) (name : String) :
    m.AgreeOn reg (Catalog.session d database) ref a c name where
  addColumn answer c' h := by
    have hgains := run_addColumn hreal ha h
    exact ⟨hgains, by rw [run_hasColumn ha, ResolvedModel.tableName, hgains.has]⟩
  dropColumn answer c' h := by
    have hloses := run_dropColumn hreal ha h
    exact ⟨hloses, by rw [run_hasColumn ha, hloses.not_has]⟩
  renameColumn new answer c' h := by
    have hrenames := run_renameColumn hreal ha h
    exact ⟨hrenames, fun hold => by rw [run_hasColumn ha, hrenames.has hold]⟩
  createIndex answer c' h := by
    have hgains := run_createIndex hreal ha h
    exact ⟨hgains, by rw [run_hasIndex ha, ResolvedModel.tableName, hgains.has]⟩
  dropIndex answer c' h := by
    have hloses := run_dropIndex hreal ha h
    exact ⟨hloses, by rw [run_hasIndex ha, hloses.not_has]⟩

/-- **One name, one object.**  In an accepted model every column is found by its own name, whatever
fields have this name too, and a name that was looked up among the columns or the indexes means
itself.  By every name the operations on columns and indexes mean one and the same part of every
catalog, and they change no other. -/
theorem names_agree {m : Migrator} {reg : Registry} {d : Dialect} {database : String}
    {ref : ModelRef} {a : Model} (hreal : m.config.dryRun = false) (ha : a.IsBuilt)
    (href : ref.resolve reg = .ok (.model a)) :
    (∀ col ∈ a.columns, a.column? col.name = some col ∧
      (ResolvedModel.model a).columnName col.name = col.name) ∧
    (∀ name, (ResolvedModel.model a).columnName ((ResolvedModel.model a).columnName name) =
      (ResolvedModel.model a).columnName name) ∧
    (∀ name, (ResolvedModel.model a).indexName ((ResolvedModel.model a).indexName name) =
      (ResolvedModel.model a).indexName name) ∧
    ∀ c name, m.AgreeOn reg (Catalog.session d database) ref a c name := by
  refine ⟨fun col hcol => ?_, fun name => ?_, fun name => ?_, fun c name => ?_⟩
  · have hown : a.column? col.name = some col := Model.column?_name ha.nodup_columns hcol
    exact ⟨hown, ResolvedModel.columnName_of_some hown⟩
  · exact ResolvedModel.columnName_columnName _ name
  · exact ResolvedModel.indexName_indexName _ name
  · exact agreeOn hreal href c name

/-- Books with two columns, each of which stores a field that is called like the other one, and two
indexes on the first, one of which is called like the second. -/
def crossedBooks : Model where
  table := "books"
  columns := [{ field := "subtitle", name := "title", dataType := .string },
    { field := "title", name := "subtitle", dataType := .string }]
  indexes := [{ name := "by_title", entries := [{ column := "title" }] },
    { name := "subtitle", entries := [{ column := "title" }] }]

/-- Books with these columns and indexes. -/
def booksWith (columns indexes : List String) : Catalog :=
  ⟨[("books", { columns, indexes := ⟨indexes⟩ })]⟩

/-- By its name the first column is added, renamed and dropped, although the other column stores the
field of this name; and by the same name the first index on it is created and dropped. -/
theorem names_agree_crossed :
    crossedBooks.IsBuilt ∧ crossedBooks.column? "title" = crossedBooks.columns.head? ∧
      (ResolvedModel.model crossedBooks).indexName "title" = "by_title" ∧
      shopMigrator.run {} (Catalog.session Mysql.dialect "app")
        (.addColumn (.model crossedBooks) "title") (booksWith ["subtitle"] []) =
        .ok .done (booksWith ["subtitle", "title"] []) ∧
      shopMigrator.run {} (Catalog.session Mysql.dialect "app")
        (.hasColumn (.model crossedBooks) "title") (booksWith ["subtitle", "title"] []) =
        .ok (.verdict true) (booksWith ["subtitle", "title"] []) ∧
      shopMigrator.run {} (Catalog.session Mysql.dialect "app")
        (.renameColumn (.model crossedBooks) "title" "heading")
        (booksWith ["subtitle", "title"] []) =
        .ok .done (booksWith ["subtitle", "heading"] []) ∧
      shopMigrator.run {} (Catalog.session Mysql.dialect "app")
        (.hasColumn (.model crossedBooks) "heading") (booksWith ["subtitle", "heading"] []) =
        .ok (.verdict true) (booksWith ["subtitle", "heading"] []) ∧
      shopMigrator.run {} (Catalog.session Mysql.dialect "app")
        (.dropIndex (.model crossedBooks) "title") (booksWith [] ["by_title", "subtitle"]) =
        .ok .done (booksWith [] ["subtitle"]) ∧
      shopMigrator.run {} (Catalog.session Mysql.dialect "app")
        (.hasIndex (.model crossedBooks) "title") (booksWith [] ["subtitle"]) =
        .ok (.verdict false) (booksWith [] ["subtitle"]) := by
  have hbuilt : crossedBooks.IsBuilt := ⟨crossedBooks, by with_unfolding_all rfl⟩
  have hadd : shopMigrator.run {} (Catalog.session Mysql.dialect "app")
      (.addColumn (.model crossedBooks) "title") (booksWith ["subtitle"] []) =
      .ok .done (booksWith ["subtitle", "title"] []) := by with_unfolding_all rfl
  have hrename : shopMigrator.run {} (Catalog.session Mysql.dialect "app")
      (.renameColumn (.model crossedBooks) "title" "heading")
      (booksWith ["subtitle", "title"] []) =
      .ok .done (booksWith ["subtitle", "heading"] []) := by with_unfolding_all rfl
  have hdrop : shopMigrator.run {} (Catalog.session Mysql.dialect "app")
      (.dropIndex (.model crossedBooks) "title") (booksWith [] ["by_title", "subtitle"]) =
      .ok .done (booksWith [] ["subtitle"]) := by with_unfolding_all rfl
  obtain ⟨hown, -, -, hagree⟩ :=
    @names_agree shopMigrator {} Mysql.dialect "app" (.model crossedBooks) crossedBooks rfl hbuilt rfl
  refine ⟨hbuilt, (hown _ List.mem_cons_self).1, by decide, hadd, ?_, hrename, ?_, hdrop, ?_⟩
  · exact ((hagree _ _).addColumn _ _ hadd).2
  · exact ((hagree _ _).renameColumn _ _ _ hrename).2 (by decide)
  · exact ((hagree _ _).dropIndex _ _ hdrop).2

end Migrator

end SchemaMigration
