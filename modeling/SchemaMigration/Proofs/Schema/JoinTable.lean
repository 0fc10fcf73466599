import SchemaMigration.Proofs.Schema.Validation
import SchemaMigration.Schema.JoinTable

/-!
# Which join tables can be described

A join table is described as the model that its documentation promises (`JoinTable.DescribedBy`)
exactly when its names are in order and its sides belong to different tables
(`JoinTable.describe_exact`).  The foreign keys are named after the tables of their sides, so two
sides of one table, as in a relationship of a model with itself, get foreign keys of one name, and
validation refuses the second one.
-/

namespace SchemaMigration.JoinTable

variable {j : JoinTable} {m : Model}

/-- The join columns of all sides. -/
def joinColumns (j : JoinTable) : List JoinColumn := j.sides.flatMap (·.columns)

/-- The name is not blank, every side has a join column, and the names of join columns are there and
distinct across all sides. -/
structure WellFormed (j : JoinTable) : Prop where
  name : Text.isBlank j.name = false
  sides : ∀ s ∈ j.sides, s.columns ≠ []
  columns : ∀ c ∈ j.joinColumns, c.name ≠ ""
  columnNames : (j.joinColumns.map (·.name)).Nodup

/-- The model has a column of the primary key for each join column, which is never null, and one
foreign key of its own for each side. -/
structure DescribedBy (j : JoinTable) (m : Model) : Prop where
  table : m.table = j.name
  columns : List.Forall₂ (fun (c : JoinColumn) (column : Column) =>
    column.name = c.name ∧ column.dataType = c.dataType ∧ column.primaryKey ∧ column.notNull)
    j.joinColumns m.columns
  foreignKeys : List.Forall₂ (fun (s : JoinSide) (k : ForeignKey) =>
    k.table = j.name ∧ k.columns = s.columns.map (·.name) ∧ k.referencedTable = s.table ∧
      k.referencedColumns = s.columns.map (·.references) ∧ k.referencedModel = s.model ∧
      k.onDelete = s.onDelete)
    j.sides m.foreignKeys
  keyNames : (m.foreignKeys.map (·.name)).Nodup

theorem draft_columns : j.draft.columns = j.joinColumns.map keyColumn := by
  simp [draft, joinColumns, List.map_flatMap]

theorem draft_columnNames : j.draft.columns.map (·.name) = j.joinColumns.map (·.name) := by
  simp [draft_columns, keyColumn]

theorem draft_columnsNamed :
    (∀ c ∈ j.draft.columns, c.name ≠ "") ↔ ∀ c ∈ j.joinColumns, c.name ≠ "" := by
  simp [draft_columns, keyColumn]

theorem draft_foreignKeys : j.draft.foreignKeys = j.sides.map (sideKey j.name) := by
  simp [draft, Model.foreignKeys, Relationship.belongsTo, List.filterMap_map]

theorem draft_foreignKeysSound :
    (∀ k ∈ j.draft.foreignKeys, k.Sound) ↔ ∀ s ∈ j.sides, s.columns ≠ [] := by
  simp [draft_foreignKeys, ForeignKey.sound_iff, sideKey]

/-- The name of a foreign key tells its side's table from others, and nothing else. -/
theorem nodup_sideKeys {name : String} {sides : List JoinSide} :
    ((sides.map (sideKey name)).map (·.name)).Nodup ↔ (sides.map (·.table)).Nodup := by
  have hnames : (sides.map (sideKey name)).map (·.name) =
      (sides.map (·.table)).map fun table => "fk_" ++ name ++ "_" ++ table := by
    simp [sideKey]
  rw [hnames]
  exact List.nodup_map_iff fun t t' h => by simpa using h

theorem mem_sideKeys {name : String} {s : JoinSide} {sides : List JoinSide} :
    (sideKey name s).name ∈ (sides.map (sideKey name)).map (·.name) ↔
      s.table ∈ sides.map (·.table) := by
  simp [sideKey]

/-- The description is well formed when the join table is, and the names of its foreign keys are
distinct. -/
theorem draft_wellFormed_iff :
    j.draft.WellFormed ↔ j.WellFormed ∧ (j.sides.map (·.table)).Nodup := by
  constructor
  · intro h
    have hnames := (List.nodup_append'.mp h.constraintNames).1
    rw [draft_foreignKeys, nodup_sideKeys] at hnames
    exact ⟨{
      name := h.table
      sides := draft_foreignKeysSound.mp h.foreignKeys
      columns := draft_columnsNamed.mp h.columns
      columnNames := draft_columnNames ▸ h.columnNames }, hnames⟩
  · intro ⟨h, htables⟩
    have hnames : (j.draft.foreignKeys.map (·.name)).Nodup := by
      rw [draft_foreignKeys]
      exact nodup_sideKeys.mpr htables
    exact {
      table := h.name
      columns := draft_columnsNamed.mpr h.columns
      columnNames := draft_columnNames ▸ h.columnNames
      foreignKeys := draft_foreignKeysSound.mpr h.sides
      checks := by simp [draft]
      constraintNames := by simpa [draft] using hnames
      indexes := by simp [draft]
      indexNames := by simp [draft] }

/-- A description that is accepted says what was asked for. -/
theorem describedBy_of_ok (h : j.describe = .ok m) : j.DescribedBy m := by
  obtain ⟨hdraft, rfl⟩ := Model.build_ok.mp h
  exact {
    table := rfl
    columns := by
      show List.Forall₂ _ j.joinColumns j.draft.columns
      rw [draft_columns, List.forall₂_map_right_iff]
      exact List.forall₂_same.mpr fun c _ => ⟨rfl, rfl, rfl, rfl⟩
    foreignKeys := by
      rw [Model.foreignKeys_ownForeignKeys, draft_foreignKeys, List.forall₂_map_right_iff,
        List.forall₂_map_right_iff]
      exact List.forall₂_same.mpr fun s _ => ⟨rfl, rfl, rfl, rfl, rfl, rfl⟩
    keyNames := (List.nodup_append'.mp hdraft.ownForeignKeys.constraintNames).1 }

/-- The second side of a table is refused when all else is in order. -/
theorem describe_repeated (h : j.WellFormed) (htables : ¬ (j.sides.map (·.table)).Nodup) :
    ∃ before s after, j.sides = before ++ s :: after ∧ (before.map (·.table)).Nodup ∧
      s.table ∈ before.map (·.table) ∧
      j.describe = .error (.duplicate j.name "constraint" (sideKey j.name s).name) := by
  have hcolumns : Model.columnFault? j.name [] j.draft.columns = none :=
    Model.columnFault?_eq_none_iff.mpr
      ⟨draft_columnsNamed.mpr h.columns, draft_columnNames ▸ h.columnNames⟩
  cases hkeys : Model.foreignKeyFault? j.name [] j.draft.relationships with
  | none =>
    have hnames : (j.draft.foreignKeys.map (·.name)).Nodup :=
      (Model.foreignKeyFault?_eq_none_iff.mp hkeys).2
    rw [draft_foreignKeys, nodup_sideKeys] at hnames
    exact absurd hnames htables
  | some e =>
    obtain ⟨before, k, after, hcut, hnodup, -, hk, rfl⟩ :=
      Model.foreignKeyFault?_of_sound (draft_foreignKeysSound.mpr h.sides) hkeys
    change j.draft.foreignKeys = _ at hcut
    rw [draft_foreignKeys] at hcut
    -- a cut of the foreign keys comes from a cut of the sides
    obtain ⟨sides, rest, hsides, rfl, hrest⟩ := List.map_eq_append_iff.mp hcut
    obtain ⟨s, later, rfl, rfl, -⟩ := List.map_eq_cons_iff.mp hrest
    exact ⟨sides, s, later, hsides, nodup_sideKeys.mp hnodup,
      mem_sideKeys.mp (hk.resolve_right List.not_mem_nil),
      Model.build_of_foreignKeyFault? h.name hcolumns hkeys⟩

/-- **Which join tables can be described.**  A join table has a description exactly when its names
are in order and its sides belong to different tables.  The description has what the join table
asks for.  A join table in order whose sides do not belong to different tables is refused because of
the first side with the table of an earlier one. -/
theorem describe_exact (j : JoinTable) :
    ((∃ m, j.describe = .ok m) ↔ j.WellFormed ∧ (j.sides.map (·.table)).Nodup) ∧
    (∀ m, j.describe = .ok m → j.DescribedBy m) ∧
    (j.WellFormed → ¬ (j.sides.map (·.table)).Nodup →
      ∃ before s after, j.sides = before ++ s :: after ∧ (before.map (·.table)).Nodup ∧
        s.table ∈ before.map (·.table) ∧
        j.describe =
          .error (.duplicate j.name "constraint" ("fk_" ++ j.name ++ "_" ++ s.table))) := by
  refine ⟨?_, fun m => describedBy_of_ok, describe_repeated⟩
  rw [← draft_wellFormed_iff]
  constructor
  · intro ⟨m, hm⟩
    exact (Model.build_ok.mp hm).1
  · intro h
    exact ⟨_, Model.build_ok.mpr ⟨h, rfl⟩⟩

/-- Which students take which courses; a course goes by two columns. -/
def enrolments : JoinTable where
  name := "enrolments"
  sides := [
    { table := "students",
      columns := [{ name := "student_id", references := "id", dataType := .int }],
      onDelete := some .cascade },
    { table := "courses",
      columns := [
        { name := "course_code", references := "code", dataType := .string },
        { name := "course_term", references := "term", dataType := .int }],
      model := some ⟨"Course", 0⟩ }]

/-- Which people are friends; both sides belong to one table. -/
def friends : JoinTable where
  name := "friends"
  sides := [
    { table := "people",
      columns := [{ name := "person_id", references := "id", dataType := .int }] },
    { table := "people",
      columns := [{ name := "friend_id", references := "id", dataType := .int }] }]

theorem friends_wellFormed : friends.WellFormed where
  name := by decide
  sides := by decide
  columns := by decide
  columnNames := by decide

theorem describe_exact_enrolments :
    (∃ m, enrolments.describe = .ok m ∧ enrolments.DescribedBy m ∧
      m.foreignKeys.map (·.name) = ["fk_enrolments_students", "fk_enrolments_courses"]) ∧
    ∃ before s after, friends.sides = before ++ s :: after ∧ s.table ∈ before.map (·.table) ∧
      friends.describe = .error (.duplicate "friends" "constraint" ("fk_friends_" ++ s.table)) := by
  have hdescribe : enrolments.describe = .ok enrolments.draft.ownForeignKeys := by rfl
  obtain ⟨before, s, after, hcut, -, hmem, herror⟩ :=
    (describe_exact friends).2.2 friends_wellFormed (by decide)
  exact ⟨⟨_, hdescribe, (describe_exact enrolments).2.1 _ hdescribe, by decide⟩,
    before, s, after, hcut, hmem, herror⟩

/-- Friends cannot be described, although all names of the join table are there and distinct. -/
theorem describe_friends :
    friends.WellFormed ∧
      friends.describe = .error (.duplicate "friends" "constraint" "fk_friends_people") :=
  ⟨friends_wellFormed, by rfl⟩

end SchemaMigration.JoinTable
