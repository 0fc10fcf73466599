import SchemaMigration.Proofs.Sql.ColumnTypes
import SchemaMigration.Proofs.Sql.Placeholders

/-!
# The text of new tables

A new table is written as its clauses between one pair of parentheses, with single commas between
them (`Change.createTable_sql`).  Each clause is what the statement that adds the same thing to an
existing table would add: columns, foreign keys and checks are what follows
`ALTER TABLE t ADD`, and an index is its own statement without `CREATE` and without the table
(`ClauseTexts.Agree`).
-/

namespace SchemaMigration

/-! ## One clause -/

section

variable {d : Dialect}

/-- The text of a clause. -/
def Clause.sql (d : Dialect) (c : Clause) : String := (c.statement d).sql d

/-- The statement of a change is this text behind `ALTER TABLE t ADD`. -/
def Change.AddsText (d : Dialect) (c : Change) (table text : String) : Prop :=
  c.sql d = "ALTER TABLE " ++ d.quoteTable table ++ " ADD " ++ text

/-- A statement that puts a clause behind the table adds the text of the clause. -/
theorem Change.addsText_of_statement {c : Change} {table : String} {clause : Clause}
    (h : c.statement d = ⟨"ALTER TABLE ? ADD ", [.table table]⟩ ++ clause.statement d) :
    c.AddsText d table (clause.sql d) := by
  have hsql : Statement.sql d (⟨"ALTER TABLE ? ADD ", [.table table]⟩ ++ clause.statement d) =
      weave ["ALTER TABLE ", " ADD "] [d.quoteTable table] ++ clause.sql d :=
    Statement.sql_behind rfl (by decide) _
  unfold AddsText Change.sql
  rw [h, hsql]
  simp only [weave, String.append_assoc]

theorem Change.addColumn_addsText (table name type : String) :
    (Change.addColumn table name type).AddsText d table ((Clause.column name type).sql d) :=
  addsText_of_statement rfl

theorem Change.addForeignKey_addsText (table : String) (k : ForeignKey) :
    (Change.addForeignKey table k).AddsText d table ((Clause.foreignKey k).sql d) :=
  addsText_of_statement rfl

theorem Change.addCheck_addsText (table : String) (c : Check) :
    (Change.addCheck table c).AddsText d table ((Clause.check c).sql d) :=
  addsText_of_statement rfl

/-- An index up to its name. -/
def Index.headText (d : Dialect) (i : Index) : String :=
  i.kindText ++ "INDEX " ++ d.quoteIdentifier i.name

/-- An index behind its name or its table. -/
def Index.tailText (d : Dialect) (i : Index) : String :=
  parenthesized (i.entries.map d.indexEntry) ++ i.attributes.sql d

theorem Index.clause_sql (i : Index) :
    (i.clause d).sql d = i.headText d ++ " " ++ i.tailText d := by
  have hsql : (i.clause d).sql d = weave ["", "INDEX ", " ", ""]
      [i.kindText, d.quoteIdentifier i.name, parenthesized (i.entries.map d.indexEntry)] ++
        i.attributes.sql d :=
    Statement.sql_behind rfl (by decide) i.attributes
  simp only [hsql, weave, headText, tailText, String.append_assoc, String.empty_append,
    String.append_empty]

theorem Index.creation_sql (table : String) (i : Index) :
    (i.creation d table).sql d =
      "CREATE " ++ i.headText d ++ " ON " ++ d.quoteTable table ++ i.tailText d := by
  have hsql : (i.creation d table).sql d = weave ["CREATE ", "INDEX ", " ON ", "", ""]
      [i.kindText, d.quoteIdentifier i.name, d.quoteTable table,
        parenthesized (i.entries.map d.indexEntry)] ++ i.attributes.sql d :=
    Statement.sql_behind rfl (by decide) i.attributes
  simp only [hsql, weave, headText, tailText, String.append_assoc, String.empty_append,
    String.append_empty]

theorem Clause.primaryKey_sql (columns : List String) :
    (Clause.primaryKey columns).sql d =
      "PRIMARY KEY " ++ parenthesized (columns.map d.quoteIdentifier) := by
  have hsql : Statement.sql d ⟨"PRIMARY KEY ?", [.columns columns]⟩ =
      weave ["PRIMARY KEY ", ""] [parenthesized (columns.map d.quoteIdentifier)] :=
    Statement.sql_eq_weave rfl (by decide)
  rw [sql, statement, hsql]
  simp [weave]

/-! ## All clauses -/

/-- The table options with the space before them, unless they are blank. -/
def Config.optionsText (config : Config) : String :=
  match config.tableOptions with
  | some options => if Text.isBlank options then "" else " " ++ Text.trim options
  | none => ""

theorem Config.tableOptionsClause?_eq_some {config : Config} {options : String}
    (h : config.tableOptions = some options) (hblank : ¬ Text.isBlank options) :
    config.tableOptionsClause? = some (Text.trim options) := by
  have htrim : Text.trim options ≠ "" := fun h => hblank ((Text.trim_eq_empty_iff options).mp h)
  rw [tableOptionsClause?, h, Option.map_some, Option.filter_some, if_pos (by simpa using htrim)]

theorem Config.tableOptionsClause?_eq_none {config : Config}
    (h : ∀ options, config.tableOptions = some options → Text.isBlank options) :
    config.tableOptionsClause? = none := by
  unfold tableOptionsClause?
  cases hoptions : config.tableOptions with
  | none => rfl
  | some options =>
    have htrim : Text.trim options = "" := (Text.trim_eq_empty_iff options).mpr (h options hoptions)
    rw [Option.map_some, htrim]
    rfl

theorem Change.optionsStatement_sql (config : Config) :
    (optionsStatement config.tableOptionsClause?).sql d = config.optionsText := by
  have hsql : ∀ options, Statement.sql d ⟨" ?", [.raw options]⟩ = weave [" ", ""] [options] :=
    fun options => Statement.sql_eq_weave rfl (by decide)
  unfold Config.optionsText
  cases hoptions : config.tableOptions with
  | none =>
    rw [Config.tableOptionsClause?_eq_none (by simp [hoptions])]
    exact Statement.sql_empty
  | some options =>
    by_cases hblank : Text.isBlank options
    · rw [Config.tableOptionsClause?_eq_none (by simp [hoptions, hblank]), optionsStatement]
      simp only [hblank, if_true]
      exact Statement.sql_empty
    · rw [Config.tableOptionsClause?_eq_some hoptions hblank, optionsStatement, hsql]
      simp [weave, hblank]

/-- A new table is written as its clauses between parentheses, then the options. -/
theorem Change.createTable_sql (table : String) (clauses : List Clause) (config : Config) :
    (createTable table clauses config.tableOptionsClause?).sql d =
      "CREATE TABLE " ++ d.quoteTable table ++ " (" ++
        ",".intercalate (clauses.map (·.sql d)) ++ ")" ++
        config.optionsText := by
  have hparts := Clause.statements_balanced d clauses
  have hjoin : (Statement.join "," (clauses.map (·.statement d))).Balanced :=
    Statement.balanced_join (by decide) hparts
  have hopen : Statement.Balanced
      (⟨"CREATE TABLE ? (", [.table table]⟩ ++ .join "," (clauses.map (·.statement d))) :=
    hjoin.behind rfl
  have hsql : Statement.sql d
      (⟨"CREATE TABLE ? (", [.table table]⟩ ++ .join "," (clauses.map (·.statement d))) =
      weave ["CREATE TABLE ", " ("] [d.quoteTable table] ++
        (Statement.join "," (clauses.map (·.statement d))).sql d :=
    Statement.sql_behind rfl (by decide) _
  have hend : Statement.Balanced ⟨")", []⟩ := Statement.balanced_of_count rfl
  unfold sql statement
  rw [(hopen.append hend).sql_append, hopen.sql_append, hsql,
    Statement.sql_join (by decide) hparts, Statement.sql_text (by decide), optionsStatement_sql]
  simp only [weave, List.map_map, Function.comp_def, Clause.sql]

/-- The clauses of a new table, by what they declare. -/
structure ClauseTexts where
  columns : List String
  primaryKey : Option String
  indexes : List String
  foreignKeys : List String
  checks : List String

/-- All clauses in the order in which they are written. -/
def ClauseTexts.all (texts : ClauseTexts) : List String :=
  texts.columns ++ texts.primaryKey.toList ++ texts.indexes ++ texts.foreignKeys ++ texts.checks

/-- One clause for each thing that the model declares, written as by the change that adds this thing
alone. -/
structure ClauseTexts.Agree (d : Dialect) (config : Config) (m : Model) (texts : ClauseTexts) :
    Prop where
  columns : List.Forall₂ (fun c text =>
    ∃ change, Change.addDeclared d m.table c = .ok change ∧ change.AddsText d m.table text)
    m.columns texts.columns
  primaryKey : ∀ text ∈ texts.primaryKey,
    text = "PRIMARY KEY " ++ parenthesized (m.primaryColumns.map fun c => d.quoteIdentifier c.name)
  /-- The key is left out when there is none, and when the type of a column declares it. -/
  keyed : texts.primaryKey.isSome ↔ m.primaryColumns ≠ [] ∧ ∀ c ∈ m.columns, ∀ type,
    d.fullColumnType m.table c = .ok type → Model.declaresPrimaryKey type = false
  indexes : List.Forall₂ (fun i text =>
    ∃ tail, (Change.createIndex m.table i).sql d =
        "CREATE " ++ i.headText d ++ " ON " ++ d.quoteTable m.table ++ tail ∧
      text = i.headText d ++ " " ++ tail)
    (if config.separateIndexes then [] else m.indexes) texts.indexes
  foreignKeys : List.Forall₂
    (fun k text => (Change.addForeignKey m.table k).AddsText d m.table text)
    m.foreignKeys texts.foreignKeys
  checks : List.Forall₂
    (fun c text => (Change.addCheck m.table c).AddsText d m.table text)
    m.checks texts.checks

/-- The clause for the primary key, unless there is no such column or a type declares it. -/
def Model.primaryKeyText? (d : Dialect) (m : Model) (types : List String) : Option String :=
  if types.any declaresPrimaryKey || m.primaryColumns.isEmpty then none
  else some <|
    "PRIMARY KEY " ++ parenthesized (m.primaryColumns.map fun c => d.quoteIdentifier c.name)

/-- The texts of the clauses of a model whose columns have these types. -/
def Model.clauseTexts (d : Dialect) (config : Config) (m : Model) (typed : List (Column × String)) :
    ClauseTexts where
  columns := typed.map fun c => (Clause.column c.1.name c.2).sql d
  primaryKey := m.primaryKeyText? d (typed.map (·.2))
  indexes := (if config.separateIndexes then [] else m.indexes).map fun i => (Clause.index i).sql d
  foreignKeys := m.foreignKeys.map fun k => (Clause.foreignKey k).sql d
  checks := m.checks.map fun c => (Clause.check c).sql d

variable {config : Config} {m : Model} {typed : List (Column × String)}

theorem Model.primaryKeyClause_sql (types : List String) :
    (m.primaryKeyClause types).map (·.sql d) = (m.primaryKeyText? d types).toList := by
  unfold primaryKeyClause primaryKeyText?
  split
  · rfl
  · simp only [List.map_cons, List.map_nil, Clause.primaryKey_sql, List.map_map, Function.comp_def,
      Option.toList_some]

theorem Model.clauseTexts_all :
    (m.clauseTexts d config typed).all = (m.clauses config typed).map (·.sql d) := by
  have hindexes : (if config.separateIndexes then [] else m.indexes.map Clause.index) =
      (if config.separateIndexes then [] else m.indexes).map Clause.index := by
    split <;> rfl
  unfold ClauseTexts.all clauseTexts clauses
  simp only [hindexes, List.map_append, primaryKeyClause_sql, List.map_map, Function.comp_def]

theorem forall₂_map_self {α β : Type} {R : α → β → Prop} {f : α → β} (h : ∀ a, R a (f a))
    (xs : List α) : List.Forall₂ R xs (xs.map f) :=
  List.forall₂_map_right_iff.mpr (List.forall₂_same.mpr fun a _ => h a)

theorem Model.clauseTexts_agree (h : typedColumns d m.table m.columns = .ok typed) :
    (m.clauseTexts d config typed).Agree d config m where
  columns := by
    refine List.forall₂_map_right_iff.mpr ((forall₂_typedColumns h).imp ?_)
    rintro c ⟨_, type⟩ ⟨rfl, htype⟩
    refine ⟨.addColumn m.table _ type, ?_, Change.addColumn_addsText ..⟩
    rw [Change.addDeclared, htype]
    rfl
  primaryKey text htext := by
    unfold clauseTexts primaryKeyText? at htext
    split at htext
    · cases htext
    · exact (Option.some.inj htext).symm
  keyed := by
    rw [← forall_types_iff h]
    unfold clauseTexts primaryKeyText?
    cases hany : (typed.map (·.2)).any declaresPrimaryKey with
    | true =>
      obtain ⟨type, htype, hdeclares⟩ := List.any_eq_true.mp hany
      refine iff_of_false (by simp) ?_
      rintro ⟨-, hnone⟩
      rw [hnone type htype] at hdeclares
      cases hdeclares
    | false =>
      have hnone : ∀ type ∈ typed.map (·.2), declaresPrimaryKey type = false := fun type htype =>
        Bool.eq_false_iff.mpr (List.any_eq_false.mp hany type htype)
      cases hprimary : m.primaryColumns with
      | nil => exact iff_of_false (by simp) (by simp)
      | cons c cs => exact iff_of_true rfl ⟨List.cons_ne_nil c cs, hnone⟩
  indexes := forall₂_map_self (fun i => ⟨i.tailText d, i.creation_sql m.table, i.clause_sql⟩) _
  foreignKeys := forall₂_map_self (Change.addForeignKey_addsText m.table) _
  checks := forall₂_map_self (Change.addCheck_addsText m.table) _

/-- A table is created unless some column has no type, and then the first such column is to blame.
It is written as the clauses of the model between parentheses, and the indexes that are no clauses
are left for later. -/
theorem Model.plan_agrees (d : Dialect) (config : Config) (m : Model) :
    (∀ e, m.plan d config = .error e ↔
      ∃ before c after, m.columns = before ++ c :: after ∧
        (∀ b ∈ before, ∃ type, d.columnType m.table b = .ok type) ∧
        d.columnType m.table c = .error e) ∧
    ((∃ plan, m.plan d config = .ok plan) ↔
      ∀ c ∈ m.columns, ∃ type, d.columnType m.table c = .ok type) ∧
    ∀ plan, m.plan d config = .ok plan →
      plan.laterIndexes = (if config.separateIndexes then m.indexes else []) ∧
      ∃ texts : ClauseTexts, texts.Agree d config m ∧
        plan.change.sql d = "CREATE TABLE " ++ d.quoteTable m.table ++ " (" ++
          ",".intercalate texts.all ++ ")" ++ config.optionsText := by
  refine ⟨fun e => ?_, ?_, fun plan hplan => ?_⟩
  · rw [← typedColumns_eq_error_iff, plan]
    cases typedColumns d m.table m.columns <;> simp
  · rw [← exists_typedColumns_iff, plan]
    cases typedColumns d m.table m.columns <;> simp
  · rw [Model.plan] at hplan
    cases htyped : typedColumns d m.table m.columns with
    | error e =>
      rw [htyped] at hplan
      cases hplan
    | ok typed =>
      rw [htyped] at hplan
      cases hplan
      refine ⟨rfl, m.clauseTexts d config typed, clauseTexts_agree htyped, ?_⟩
      rw [Change.createTable_sql, clauseTexts_all]

/-- Accounts that may belong to others, with one clause of every kind. -/
def accounts : Model where
  table := "bank.accounts"
  columns := [
    { field := "ID", name := "id", dataType := .int, primaryKey := true },
    { field := "Owner", name := "owner", dataType := .string, size := some 40,
      default := some "?" },
    { field := "Parent", name := "parent", dataType := .int }]
  relationships := [
    .belongsTo "Parent"
      { name := "fk_parent", table := "bank.accounts", columns := ["parent"],
        referencedTable := "bank.accounts", referencedColumns := ["id"],
        onDelete := some .setNull }]
  indexes := [
    { name := "idx_owner", entries := [{ column := "owner" }], kind := some "UNIQUE",
      comment := some "by owner" }]
  checks := [{ name := "ck_id", expression := "id > 0" }]

/-- All clauses in one statement, with options that stand between blanks. -/
def enginePlanning : Config := { tableOptions := some " ENGINE=InnoDB " }

theorem Model.plan_agrees_accounts :
    ∃ plan, accounts.plan Mysql.dialect enginePlanning = .ok plan ∧
      plan.change.sql Mysql.dialect =
        "CREATE TABLE `bank`.`accounts` (`id` bigint,`owner` varchar(40) DEFAULT '?',"
          ++ "`parent` bigint,PRIMARY KEY (`id`),"
          ++ "UNIQUE INDEX `idx_owner` (`owner`) COMMENT 'by owner',"
          ++ "CONSTRAINT `fk_parent` FOREIGN KEY (`parent`) "
          ++ "REFERENCES `bank`.`accounts`(`id`) ON DELETE SET NULL,"
          ++ "CONSTRAINT `ck_id` CHECK (id > 0)) ENGINE=InnoDB" ∧
      plan.laterIndexes = [] ∧
      ∃ texts : ClauseTexts, texts.Agree Mysql.dialect enginePlanning accounts ∧
        plan.change.sql Mysql.dialect =
          "CREATE TABLE " ++ Mysql.dialect.quoteTable "bank.accounts" ++ " (" ++
            ",".intercalate texts.all ++ ")" ++ enginePlanning.optionsText := by
  refine ⟨_, rfl, ?_, ?_⟩
  · refine (Change.createTable_sql _ _ _).trans ?_
    decide +kernel
  · exact (Model.plan_agrees Mysql.dialect enginePlanning accounts).2.2 _ rfl

end

end SchemaMigration
