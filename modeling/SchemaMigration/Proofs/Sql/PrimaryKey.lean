import SchemaMigration.Proofs.Sql.CreateTable
import SchemaMigration.Proofs.Text.Search
import SchemaMigration.Sql.Mysql

/-!
# The primary key of a new table

A new table gets a clause for its primary key unless the words `PRIMARY KEY` occur in the type of a
column, in any letter case.  The search for the words goes through the type with all attributes.
These are written so that no occurrence begins in one of them and ends in another, and none of the
flags holds the words; so what is found stands either in the type itself or in the default value
(`Mysql.declaresPrimaryKey_append_attributes`).  With types that do not declare it, the primary key
is therefore lost exactly when some column has a default value with these words
(`Model.plan_primaryKey`).
-/

namespace SchemaMigration

open Model (declaresPrimaryKey)

variable {s t : String}

/-! ## Where the words stand -/

/-- The words that declare a primary key. -/
def keyWords : List Char := ['P', 'R', 'I', 'M', 'A', 'R', 'Y', ' ', 'K', 'E', 'Y']

theorem Model.declaresPrimaryKey_iff : declaresPrimaryKey s = true ↔ keyWords <:+: Text.upper s := by
  have hwords : "PRIMARY KEY".toList = keyWords := by rfl
  rw [declaresPrimaryKey, Text.contains_iff, hwords, Text.toList_upperAscii]

/-- The attributes of a column but for its default. -/
def Column.flags (c : Column) : String :=
  (if c.autoIncrement then " AUTO_INCREMENT" else "")
    ++ (if c.notNull then " NOT NULL" else "")
    ++ (if c.unique then " UNIQUE" else "")

theorem Column.flags_inert (c : Column) : Text.Inert keyWords (Text.upper c.flags) := by
  have hflag : ∀ (b : Bool) (s : String), Text.Inert keyWords (Text.upper s) →
      Text.Inert keyWords (Text.upper (if b then s else "")) := by
    intro b s h
    cases b with
    | false => exact Text.Inert.nil
    | true => exact h
  rw [flags, Text.upper_append, Text.upper_append]
  refine ((hflag _ _ ?_).append (hflag _ _ ?_)).append (hflag _ _ ?_)
  · exact Text.inert_of_apart (by decide) (by decide)
  · exact Text.inert_of_apart (by decide) (by decide)
  · exact Text.inert_of_apart (by decide) (by decide)

/-- The words do not reach into `DEFAULT` from either side. -/
theorem Model.declaresPrimaryKey_append_default :
    declaresPrimaryKey (s ++ (" DEFAULT " ++ t)) = true ↔
      declaresPrimaryKey s = true ∨ declaresPrimaryKey t = true := by
  have hcut : Text.upper (" DEFAULT " ++ t) =
      [' ', 'D', 'E', 'F', 'A', 'U', 'L'] ++ 'T' :: ' ' :: Text.upper t := by
    rw [Text.upper_append]
    rfl
  have hword : Text.Inert keyWords [' ', 'D', 'E', 'F', 'A', 'U', 'L'] :=
    Text.inert_of_apart (by decide) (by decide)
  have hspace : keyWords <:+: ' ' :: Text.upper t ↔ keyWords <:+: Text.upper t := by
    rw [List.infix_cons_iff, keyWords, List.cons_prefix_cons]
    simp
  simp only [declaresPrimaryKey_iff]
  rw [Text.upper_append, hcut, ← List.append_assoc, Text.infix_append_cons_iff (by decide), hword,
    hspace]

/-- A literal holds the words when the text does that it stands for. -/
theorem Mysql.declaresPrimaryKey_quoteLiteral :
    declaresPrimaryKey (dialect.quoteLiteral s) = true ↔ declaresPrimaryKey s = true := by
  have hspecial : ∀ c : Char, (c.toUpper = '\x27' || c.toUpper = '\x5c') =
      (c = '\x27' || c = '\x5c' : Bool) := by
    intro c
    rw [decide_eq_decide.mpr (Text.toUpper_eq_iff (by decide)),
      decide_eq_decide.mpr (Text.toUpper_eq_iff (by decide))]
  have hliteral : Text.upper (dialect.quoteLiteral s) =
      '\x27' :: (Text.doubled (fun c => c = '\x27' || c = '\x5c') (Text.upper s) ++ ['\x27']) := by
    show (Text.quoted _ _ s).toList.map Char.toUpper = _
    rw [Text.quoted, String.toList_ofList, List.map_cons, List.map_append,
      Text.map_toUpper_doubled hspecial]
    rfl
  rw [Model.declaresPrimaryKey_iff, Model.declaresPrimaryKey_iff, hliteral,
    Text.infix_cons_iff_of_not_mem (by decide), Text.infix_append_cons_iff (by decide),
    Text.infix_doubled_iff (by simp [keyWords])]
  simp [keyWords]

/-- The default value holds the words that declare a primary key. -/
def Column.KeyInDefault (c : Column) : Prop :=
  ∃ value, c.default? = some value ∧ declaresPrimaryKey value = true

/-- The words stand in a type with its attributes when they stand in the type or in the default
value. -/
theorem Mysql.declaresPrimaryKey_append_attributes {c : Column} :
    declaresPrimaryKey (s ++ dialect.columnAttributes c) = true ↔
      declaresPrimaryKey s = true ∨ c.KeyInDefault := by
  have hflags : declaresPrimaryKey (s ++ c.flags) = true ↔ declaresPrimaryKey s = true := by
    rw [Model.declaresPrimaryKey_iff, Model.declaresPrimaryKey_iff, Text.upper_append, c.flags_inert]
  have hattributes : s ++ dialect.columnAttributes c = s ++ c.flags ++ dialect.defaultClause c :=
    String.append_assoc.symm
  rw [hattributes, Dialect.defaultClause, Column.KeyInDefault]
  cases c.default? with
  | none => simp [hflags]
  | some value =>
    dsimp only
    rw [Model.declaresPrimaryKey_append_default, hflags]
    split
    · simp [declaresPrimaryKey_quoteLiteral]
    · simp

/-! ## The clause -/

variable {config : Config} {m : Model}

/-- With types that do not declare a primary key, no full type does when no default value holds the
words. -/
theorem Mysql.undeclared_iff
    (htypes : ∀ c ∈ m.columns, ∃ type, dialect.columnType m.table c = .ok type ∧
      declaresPrimaryKey type = false) :
    (∀ c ∈ m.columns, ∀ type, dialect.fullColumnType m.table c = .ok type →
      declaresPrimaryKey type = false) ↔ ∀ c ∈ m.columns, ¬ c.KeyInDefault := by
  refine forall₂_congr fun c hc => ?_
  obtain ⟨type, htype, hundeclared⟩ := htypes c hc
  have hfull : dialect.fullColumnType m.table c = .ok (type ++ dialect.columnAttributes c) := by
    rw [Dialect.fullColumnType, htype]
    rfl
  simp [hfull, ← Bool.not_eq_true, declaresPrimaryKey_append_attributes, hundeclared]

theorem Model.typed_of_plan {d : Dialect} {plan : TablePlan} (h : m.plan d config = .ok plan) :
    ∃ typed, typedColumns d m.table m.columns = .ok typed ∧
      plan.change = .createTable m.table (m.clauses config typed) config.tableOptionsClause? := by
  rw [Model.plan] at h
  cases htyped : typedColumns d m.table m.columns with
  | error e =>
    rw [htyped] at h
    cases h
  | ok typed =>
    rw [htyped] at h
    cases h
    exact ⟨typed, rfl, rfl⟩

/-- **When a new table has its primary key.**  A model with primary columns whose types do not
declare the key has a plan when all its columns have types.  The new table has the clause for its
primary key, with the primary columns in the order of declaration, when no default value holds the
words of such a clause; else it has no such clause. -/
theorem Model.plan_primaryKey (config : Config) (m : Model) (hprimary : m.primaryColumns ≠ [])
    (htypes : ∀ c ∈ m.columns, ∀ type, Mysql.dialect.columnType m.table c = .ok type →
      declaresPrimaryKey type = false) :
    ((∃ plan, m.plan Mysql.dialect config = .ok plan) ↔
      ∀ c ∈ m.columns, ∃ type, Mysql.dialect.columnType m.table c = .ok type) ∧
    ∀ plan, m.plan Mysql.dialect config = .ok plan →
      ∃ texts : ClauseTexts, texts.Agree Mysql.dialect config m ∧
        plan.change.sql Mysql.dialect = "CREATE TABLE " ++ Mysql.dialect.quoteTable m.table ++ " (" ++
          ",".intercalate texts.all ++ ")" ++ config.optionsText ∧
        ((∀ c ∈ m.columns, ¬ c.KeyInDefault) →
          texts.primaryKey = some ("PRIMARY KEY " ++
            parenthesized (m.primaryColumns.map fun c => Mysql.dialect.quoteIdentifier c.name))) ∧
        ((∃ c ∈ m.columns, c.KeyInDefault) → texts.primaryKey = none) := by
  refine ⟨?_, fun plan hplan => ?_⟩
  · rw [← exists_typedColumns_iff]
    constructor
    · intro ⟨plan, hplan⟩
      obtain ⟨typed, htyped, -⟩ := typed_of_plan hplan
      exact ⟨typed, htyped⟩
    · intro ⟨typed, htyped⟩
      exact ⟨_, by rw [plan, htyped]⟩
  · obtain ⟨typed, htyped, hchange⟩ := typed_of_plan hplan
    have hagree : (m.clauseTexts Mysql.dialect config typed).Agree Mysql.dialect config m :=
      clauseTexts_agree htyped
    have hplain : ∀ c ∈ m.columns, ∃ type, Mysql.dialect.columnType m.table c = .ok type ∧
        declaresPrimaryKey type = false := by
      intro c hc
      obtain ⟨type, htype⟩ := exists_typedColumns_iff.mp ⟨typed, htyped⟩ c hc
      exact ⟨type, htype, htypes c hc type htype⟩
    -- what the clause depends on in full types comes down to the default values
    have hkeyed : (m.clauseTexts Mysql.dialect config typed).primaryKey.isSome ↔
        ∀ c ∈ m.columns, ¬ c.KeyInDefault := by
      rw [hagree.keyed, Mysql.undeclared_iff hplain, and_iff_right hprimary]
    refine ⟨m.clauseTexts Mysql.dialect config typed, hagree, ?_, fun hnone => ?_, fun hsome => ?_⟩
    · rw [hchange, Change.createTable_sql, clauseTexts_all]
    · obtain ⟨text, htext⟩ := Option.isSome_iff_exists.mp (hkeyed.mpr hnone)
      rw [htext, hagree.primaryKey text htext]
    · rw [← Option.not_isSome_iff_eq_none, hkeyed]
      obtain ⟨c, hc, hkey⟩ := hsome
      exact fun hnone => hnone c hc hkey

/-- Grades of students in courses, with a remark by default. -/
def grades (remark : String) : Model where
  table := "grades"
  columns := [
    { field := "Student", name := "student", dataType := .int, primaryKey := true, notNull := true },
    { field := "Course", name := "course", dataType := .string, size := some 40, primaryKey := true },
    { field := "Remark", name := "remark", dataType := .string, size := some 40,
      default := some remark }]

theorem grades_types (remark : String) : ∀ c ∈ (grades remark).columns,
    Mysql.dialect.columnType "grades" c = .ok "bigint" ∨
      Mysql.dialect.columnType "grades" c = .ok "varchar(40)" := by
  simp only [grades, List.forall_mem_cons]
  refine ⟨.inl rfl, .inr rfl, .inr ?_, List.forall_mem_nil _⟩
  -- the type of a column does not depend on its default value
  show (if Text.isBlank "varchar(40)" then _ else Except.ok "varchar(40)") = _
  rfl

theorem grades_undeclared (remark : String) : ∀ c ∈ (grades remark).columns, ∀ type,
    Mysql.dialect.columnType "grades" c = .ok type → declaresPrimaryKey type = false := by
  intro c hc type htype
  rcases grades_types remark c hc with h | h <;> rw [h] at htype <;> cases htype <;> decide +kernel

theorem Model.plan_primaryKey_grades :
    (∃ plan, (grades "no key").plan Mysql.dialect {} = .ok plan) ∧
    ∀ plan, (grades "no key").plan Mysql.dialect {} = .ok plan →
      ∃ texts : ClauseTexts, texts.Agree Mysql.dialect {} (grades "no key") ∧
        plan.change.sql Mysql.dialect = "CREATE TABLE `grades` (" ++ ",".intercalate texts.all ++ ")" ∧
        texts.primaryKey = some "PRIMARY KEY (`student`,`course`)" := by
  have hdefaults : ∀ c ∈ (grades "no key").columns, ¬ c.KeyInDefault := by
    simp only [grades, Column.KeyInDefault, List.forall_mem_cons]
    decide +kernel
  obtain ⟨hplan, hkey⟩ :=
    Model.plan_primaryKey {} (grades "no key") (by decide) (grades_undeclared "no key")
  refine ⟨hplan.mpr fun c hc => (grades_types _ c hc).elim (⟨_, ·⟩) (⟨_, ·⟩), fun plan h => ?_⟩
  obtain ⟨texts, hagree, hsql, hprimary, -⟩ := hkey plan h
  have hhead : "CREATE TABLE " ++ Mysql.dialect.quoteTable (grades "no key").table ++ " (" =
      "CREATE TABLE `grades` (" := by decide +kernel
  refine ⟨texts, hagree, ?_, (hprimary hdefaults).trans (by decide +kernel)⟩
  rw [hsql, hhead]
  exact String.append_empty

/-- The types of all columns are plain, and the words stand in a remark: the table has no key. -/
theorem Model.plan_keyless_grades :
    (∀ c ∈ (grades "no primary key").columns, ∀ type,
      Mysql.dialect.columnType "grades" c = .ok type → declaresPrimaryKey type = false) ∧
    (grades "no primary key").primaryColumns.map Column.name = ["student", "course"] ∧
    ∃ plan, (grades "no primary key").plan Mysql.dialect {} = .ok plan ∧
      plan.change.sql Mysql.dialect = "CREATE TABLE `grades` (`student` bigint NOT NULL,"
        ++ "`course` varchar(40),`remark` varchar(40) DEFAULT 'no primary key')" := by
  refine ⟨grades_undeclared _, by decide +kernel, _, rfl, ?_⟩
  refine (Change.createTable_sql _ _ _).trans ?_
  decide +kernel

end SchemaMigration
