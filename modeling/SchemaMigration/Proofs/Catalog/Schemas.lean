import SchemaMigration.Proofs.Migration.Steps
import SchemaMigration.Proofs.Sql.Rendering
import SchemaMigration.Sql.Mysql

/-!
# Tables of several schemas

A table name may begin with the name of a schema and a dot.  The statements that change a table
quote both parts (`TableName.quoteParts_eq`), so that they mean the table of that schema.  The
questions about a table bind the current database and the whole name
(`Session.recorded_hasPart`, `Part.question_binds`).  They mean the same table exactly when the name
has no dot.

So a database that keeps its tables by schema and name (`Session.KeepsSchemas`) shows a table that
was just created if its name is unqualified.  A table with a qualified name stays unseen unless the
current database happens to have one with a dot in its name (`Session.hasPart_unqualified`).
-/

namespace SchemaMigration

/-! ## Names in two parts -/

/-- The table that a name means: one of the schema that it names, or else one of the current
database. -/
structure TableName where
  schema : Option String
  table : String
deriving DecidableEq, Repr

namespace TableName

/-- What stands before the first dot is the schema. -/
def read (name : String) : TableName :=
  match Text.splitAtFirst '.' name.toList with
  | (table, none) => ⟨none, String.ofList table⟩
  | (schema, some table) => ⟨some (String.ofList schema), String.ofList table⟩

/-- The schema of the table where this is the current database. -/
def schemaIn (n : TableName) (current : String) : String := n.schema.getD current

/-- The name as it stands in statements. -/
def quoted (d : Dialect) (n : TableName) : String :=
  match n.schema with
  | some schema => d.quoteIdentifier schema ++ "." ++ d.quoteIdentifier n.table
  | none => d.quoteIdentifier n.table

variable {name : String}

/-- A name without a dot is the table of the current database. -/
theorem read_of_not_mem (h : '.' ∉ name.toList) : read name = ⟨none, name⟩ := by
  rw [read, Text.splitAtFirst_of_not_mem h]
  exact congrArg (TableName.mk none) String.ofList_toList

/-- A name with one dot is a schema and a table without dots. -/
theorem exists_parts (hone : name.toList.count '.' ≤ 1) (h : '.' ∈ name.toList) :
    ∃ schema table, '.' ∉ schema ∧ '.' ∉ table ∧ name.toList = schema ++ '.' :: table := by
  obtain ⟨schema, table, hname, hschema⟩ := List.eq_append_cons_of_mem h
  refine ⟨schema, table, hschema, ?_, hname⟩
  rw [hname, List.count_append, List.count_cons_self] at hone
  exact List.count_eq_zero.mp (by omega)

/-- Statements name the table in its parts. -/
theorem quoteParts_eq (d : Dialect) (hone : name.toList.count '.' ≤ 1) :
    quoteParts d.quoteIdentifier name = (read name).quoted d := by
  by_cases h : '.' ∈ name.toList
  · obtain ⟨schema, table, hschema, htable, hname⟩ := exists_parts hone h
    rw [read, quoteParts, hname, Text.splitAtFirst_append hschema,
      Text.splitAtEach_append hschema, Text.splitAtEach_of_not_mem htable]
    simp [quoted]
  · rw [read_of_not_mem h, quoteParts, Text.splitAtEach_of_not_mem h]
    simp [quoted]

/-- The current database and the whole name are the parts of the name only if it has no dot. -/
theorem parts_eq_iff (hone : name.toList.count '.' ≤ 1) (current : String) :
    current = (read name).schemaIn current ∧ name = (read name).table ↔ '.' ∉ name.toList := by
  constructor
  · rintro ⟨-, htable⟩ h
    obtain ⟨schema, table, hschema, hnone, hname⟩ := exists_parts hone h
    rw [read, hname, Text.splitAtFirst_append hschema] at htable
    rw [htable, String.toList_ofList] at h
    exact hnone h
  · intro h
    rw [read_of_not_mem h]
    exact ⟨rfl, rfl⟩

end TableName

/-! ## What is asked -/

theorem Part.question_balanced (d : Dialect) (table database : String) (p : Part) :
    ((p.question table database).statement d).Balanced := by
  -- What is selected has no question mark, and the condition has three.
  have hmarks : ∀ {select condition : String} {arguments : List Argument},
      select.toList.count '?' = 0 → condition.toList.count '?' = 3 → arguments.length = 3 →
        Statement.Balanced ⟨select ++ condition, arguments⟩ := by
    intro select condition arguments hselect hcondition hthree
    unfold Statement.Balanced
    rw [String.toList_append, List.count_append, hselect, hcondition, hthree]
  cases p with
  | table => exact hmarks (by decide +kernel) (by decide +kernel) rfl
  | column name => exact hmarks (by decide +kernel) (by decide +kernel) rfl
  | constraint name => exact hmarks (by decide +kernel) (by decide +kernel) rfl
  | index name => exact hmarks (by decide +kernel) (by decide +kernel) rfl

/-- Every question about a part of a table binds the database, the table and one more text. -/
theorem Part.question_binds (d : Dialect) (table database : String) (p : Part) :
    ∃ last, (((p.question table database).statement d).render d).2 =
      [.text database, .text table, .text last] := by
  rw [(p.question_balanced d table database).render_eq]
  cases p with
  | table => exact ⟨"BASE TABLE", rfl⟩
  | column name => exact ⟨name, rfl⟩
  | constraint name => exact ⟨name, rfl⟩
  | index name => exact ⟨name, rfl⟩

namespace Session

variable {σ : Type} {s : Session σ} {d : Dialect} {name current : String} {p : Part}

/-- Whether a table has a part, as the session tells. -/
def hasPart (s : Session σ) (d : Dialect) (table : String) : Part → σ → Bool × σ
  | .table => s.hasTable d table
  | .column name => s.hasColumn d table name
  | .constraint name => s.hasConstraint d table name
  | .index name => s.hasIndex d table name

theorem hasPart_eq : s.hasPart d name p = s.affirms d fun database => p.question name database := by
  cases p <;> rfl

/-- The session is asked for the current database, and then about the name as it is. -/
theorem recorded_hasPart {x y : σ} (h : s.currentDatabase d x = .ok current y)
    (history : List Exchange) :
    ∃ succeeded, (s.recorded.hasPart d name p (x, history)).2.2 =
      history ++
        [⟨.query .currentDatabase, true⟩, ⟨.query (p.question name current), succeeded⟩] := by
  rw [hasPart_eq]
  have hdatabase : s.recorded.currentDatabase d (x, history) =
      .ok current (y, history ++ [⟨.query .currentDatabase, true⟩]) := by
    obtain ⟨rows, z, hquery, hname⟩ := Action.bind_ok.mp h
    have hrecorded : s.recorded.query .currentDatabase (x, history) =
        .ok rows (z, history ++ [⟨.query .currentDatabase, true⟩]) := by
      simp only [recorded, recordedAction, hquery]
    refine (Action.bind_of_ok hrecorded).trans ?_
    cases hhead : rows.head?.bind (Row.text? · 0) with
    | none =>
      rw [hhead] at hname
      cases hname
    | some found =>
      rw [hhead] at hname
      cases hname
      rfl
  unfold affirms
  rw [hdatabase]
  simp only [recorded, recordedAction]
  cases s.query (p.question name current) y with
  | ok rows z => exact ⟨true, List.append_assoc ..⟩
  | error e z => exact ⟨false, List.append_assoc ..⟩

/-! ## What is found -/

/-- The session works on a database that knows its tables by schema and name, and in which
`current` is the current database. -/
structure KeepsSchemas (s : Session σ) (current : String) (tables : σ → String → String → Bool) :
    Prop where
  tells : ∀ x, s.query .currentDatabase x = .ok [[.text current]] x
  counts : ∀ x schema table,
    s.query (.table schema table) x = .ok (Catalog.countRow (tables x schema table)) x
  /-- A new table is the one that its quoted name means, and there is no other. -/
  creates : ∀ name clauses options x y, name.toList.count '.' ≤ 1 →
    s.execute (.createTable name clauses options) x = .ok () y →
    ∀ schema table, tables y schema table = true ↔ tables x schema table = true ∨
      schema = (TableName.read name).schemaIn current ∧ table = (TableName.read name).table

variable {tables : σ → String → String → Bool}

theorem KeepsSchemas.hasTable (h : s.KeepsSchemas current tables) (d : Dialect) (name : String)
    (x : σ) : s.hasTable d name x = (tables x current name, x) := by
  have hdatabase : s.currentDatabase d x = .ok current x := Action.bind_of_ok (h.tells x)
  unfold Session.hasTable affirms
  rw [hdatabase]
  dsimp only
  rw [h.counts]
  dsimp only
  rw [Catalog.countsAny_countRow]

/-- Statements mean the table by the parts of its name, unless the dialect has its own way to quote
table names, and questions mean it by the name as a whole.  The two agree exactly on the names without a dot: such a table is found once it is created.  Another is
found only if the current database has a table that is called by the whole name. -/
theorem hasPart_unqualified (d : Dialect) (name : String) (hone : name.toList.count '.' ≤ 1) :
    (d.quoteTable = quoteParts d.quoteIdentifier →
      d.quoteTable name = (TableName.read name).quoted d) ∧
    (∀ (s : Session σ) (x y : σ) (current : String), s.currentDatabase d x = .ok current y →
      ∀ (history : List Exchange) (p : Part), ∃ succeeded last,
        (s.recorded.hasPart d name p (x, history)).2.2 =
          history ++
            [⟨.query .currentDatabase, true⟩, ⟨.query (p.question name current), succeeded⟩] ∧
        (((p.question name current).statement d).render d).2 =
          [.text current, .text name, .text last]) ∧
    (∀ current, current = (TableName.read name).schemaIn current ∧
      name = (TableName.read name).table ↔ '.' ∉ name.toList) ∧
    ∀ (s : Session σ) (current : String) (tables : σ → String → String → Bool),
      s.KeepsSchemas current tables → ∀ clauses options x y,
        s.execute (.createTable name clauses options) x = .ok () y →
          ((s.hasTable d name y).1 = true ↔
            '.' ∉ name.toList ∨ tables x current name = true) := by
  refine ⟨fun hquote => hquote ▸ TableName.quoteParts_eq d hone, fun s x y current hcurrent history p => ?_,
    TableName.parts_eq_iff hone, fun s current tables hkeeps clauses options x y hcreated => ?_⟩
  · obtain ⟨succeeded, hcalls⟩ := recorded_hasPart hcurrent history
    obtain ⟨last, hvalues⟩ := p.question_binds d name current
    exact ⟨succeeded, last, hcalls, hvalues⟩
  · rw [hkeeps.hasTable, hkeeps.creates name clauses options x y hone hcreated,
      TableName.parts_eq_iff hone, or_comm]

end Session

/-! ## A database with several schemas -/

/-- A database of tables without parts, each known by its schema and its name. -/
structure Server where
  tables : List (String × String) := []
deriving DecidableEq, Repr

namespace Server

/-- The session in which `current` is the current database.  A table is created once. -/
def session (current : String) : Session Server where
  execute change := fun server =>
    match change with
    | .createTable name _ _ =>
      let created := ((TableName.read name).schemaIn current, (TableName.read name).table)
      if created ∈ server.tables then
        .error (.exec (change.sql Mysql.dialect) ("Table '" ++ name ++ "' already exists")) server
      else .ok () ⟨server.tables ++ [created]⟩
    | _ => .ok () server
  query q := fun server =>
    match q with
    | .currentDatabase => .ok [[.text current]] server
    | .table schema table => .ok (Catalog.countRow ((schema, table) ∈ server.tables)) server
    | _ => .ok (Catalog.countRow false) server

theorem session_keepsSchemas (current : String) :
    (session current).KeepsSchemas current fun server schema table =>
      (schema, table) ∈ server.tables where
  tells _ := rfl
  counts _ _ _ := rfl
  creates name clauses options x y _ h schema table := by
    simp only [session] at h
    split at h
    · cases h
    · cases h
      simp

/-- An unqualified name means one table to statements and to questions. -/
theorem hasPart_unqualified_users :
    (session "app").execute (.createTable "users" [] none) {} = .ok () ⟨[("app", "users")]⟩ ∧
      ((session "app").hasTable Mysql.dialect "users" ⟨[("app", "users")]⟩).1 = true ∧
      ∃ succeeded last, ((session "app").recorded.hasPart Mysql.dialect "users" (.column "id")
          (⟨[("app", "users")]⟩, [])).2.2 =
            [⟨.query .currentDatabase, true⟩, ⟨.query (.column "app" "users" "id"), succeeded⟩] ∧
        (((CatalogQuery.column "app" "users" "id").statement Mysql.dialect).render
          Mysql.dialect).2 = [.text "app", .text "users", .text last] := by
  obtain ⟨-, hasks, -, hfinds⟩ :=
    Session.hasPart_unqualified (σ := Server) Mysql.dialect "users" (by decide)
  have hcreated : (session "app").execute (.createTable "users" [] none) {} =
      .ok () ⟨[("app", "users")]⟩ := rfl
  have hnodot : '.' ∉ "users".toList := by decide
  exact ⟨hcreated,
    (hfinds _ "app" _ (session_keepsSchemas "app") [] none {} _ hcreated).mpr (.inl hnodot),
    hasks (session "app") ⟨[("app", "users")]⟩ _ "app" rfl [] (.column "id")⟩

/-- Users in a schema of their own. -/
def shopUsers : Model where
  table := "shop.users"
  columns := [{ field := "ID", name := "id", dataType := .int, primaryKey := true }]

/-- The table of another schema is created, and is not found when it is asked for by the same name.
So the second of two migrations creates it again, and fails. -/
theorem hasPart_qualified_users :
    Mysql.dialect.quoteTable "shop.users" = "`shop`.`users`" ∧
      (((CatalogQuery.table "app" "shop.users").statement Mysql.dialect).render Mysql.dialect).2 =
        [.text "app", .text "shop.users", .text "BASE TABLE"] ∧
      (session "app").execute (.createTable "shop.users" [] none) {} =
        .ok () ⟨[("shop", "users")]⟩ ∧
      ((session "app").hasTable Mysql.dialect "shop.users" ⟨[("shop", "users")]⟩).1 = false ∧
      (∃ report, (⟨Mysql.dialect, {}⟩ : Migrator).autoMigrate ⟨#[]⟩ (session "app") 0
        [.model shopUsers] {} = some (.ok report ⟨[("shop", "users")]⟩)) ∧
      ∃ e, (⟨Mysql.dialect, {}⟩ : Migrator).autoMigrate ⟨#[]⟩ (session "app") 0
        [.model shopUsers] ⟨[("shop", "users")]⟩ = some (.error e ⟨[("shop", "users")]⟩) := by
  have hquestion : ((CatalogQuery.table "app" "shop.users").statement Mysql.dialect).Balanced :=
    Part.table.question_balanced Mysql.dialect "shop.users" "app"
  refine ⟨by decide +kernel, congrArg Prod.snd hquestion.render_eq, rfl, rfl, ?_, ?_⟩
  · with_unfolding_all exact ⟨_, rfl⟩
  · with_unfolding_all exact ⟨_, rfl⟩

end Server

end SchemaMigration
