import SchemaMigration.Proofs.Sql.Rendering
import SchemaMigration.Sql.Change
import SchemaMigration.Sql.Mysql

/-!
# Question marks of changes

Every statement that changes the schema is balanced (`Change.statement_balanced`), provided that the
dialect's template for altering a column has room for a table, a column and a type.  Whatever
question marks there are in names, types, expressions, comments or options, they come in with an
argument and are not looked at again.

That no text of the caller is part of a template is said by replacing all of these texts by others:
the template stays (`Change.template_mapTexts`).  All that must not change is whether a text is
empty, since an empty comment or access method is none.
-/

namespace SchemaMigration

/-! ## Balanced fragments -/

theorem ReferentialAction.count_keyword (a : ReferentialAction) :
    a.keyword.toList.count '?' = 0 := by
  cases a <;> rfl

theorem ForeignKey.count_actionsText (k : ForeignKey) : k.actionsText.toList.count '?' = 0 := by
  have hdelete : ∀ a : ReferentialAction, (" ON DELETE " ++ a.keyword).toList.count '?' = 0 := by
    intro a
    rw [String.toList_append, List.count_append, a.count_keyword]
    rfl
  have hupdate : ∀ a : ReferentialAction, (" ON UPDATE " ++ a.keyword).toList.count '?' = 0 := by
    intro a
    rw [String.toList_append, List.count_append, a.count_keyword]
    rfl
  unfold actionsText
  rw [String.toList_append, List.count_append, Nat.add_eq_zero_iff]
  constructor
  · cases k.onDelete with
    | none => rfl
    | some a => exact hdelete a
  · cases k.onUpdate with
    | none => rfl
    | some a => exact hupdate a

theorem ForeignKey.clause_balanced (k : ForeignKey) : k.clause.Balanced := by
  unfold Statement.Balanced clause
  rw [String.toList_append, List.count_append, k.count_actionsText]
  rfl

theorem Check.clause_balanced (c : Check) : c.clause.Balanced := Statement.balanced_of_count rfl

theorem Index.attributes_balanced (i : Index) : i.attributes.Balanced := by
  unfold attributes
  refine Statement.Balanced.append ?_ ?_
  · split <;> exact Statement.balanced_of_count rfl
  · split <;> exact Statement.balanced_of_count rfl

theorem Clause.statement_balanced (d : Dialect) (c : Clause) : (c.statement d).Balanced := by
  cases c with
  | column name type => exact Statement.balanced_of_count rfl
  | primaryKey columns => exact Statement.balanced_of_count rfl
  | index i => exact i.attributes_balanced.behind rfl
  | foreignKey k => exact k.clause_balanced
  | check c => exact c.clause_balanced

theorem Clause.statements_balanced (d : Dialect) (clauses : List Clause) :
    ∀ part ∈ clauses.map (·.statement d), part.Balanced := by
  intro part hpart
  obtain ⟨c, -, rfl⟩ := List.mem_map.mp hpart
  exact c.statement_balanced d

theorem Change.optionsStatement_balanced (options : Option String) :
    (optionsStatement options).Balanced := by
  cases options <;> exact Statement.balanced_of_count rfl

/-- The statement of a change has as many question marks in its template as arguments. -/
theorem Change.statement_balanced {d : Dialect} (hd : d.alterColumnTemplate.toList.count '?' = 3)
    (c : Change) : (c.statement d).Balanced := by
  cases c with
  | createTable table clauses options =>
    have hclauses : (Statement.join "," (clauses.map (·.statement d))).Balanced :=
      Statement.balanced_join (by decide) (Clause.statements_balanced d clauses)
    exact ((hclauses.behind rfl).append (Statement.balanced_of_count rfl)).append
      (optionsStatement_balanced options)
  | dropTable table => exact Statement.balanced_of_count rfl
  | renameTable old new => exact Statement.balanced_of_count rfl
  | addColumn table column type => exact Statement.balanced_of_count rfl
  | dropColumn table column => exact Statement.balanced_of_count rfl
  | alterColumn table column type => exact hd
  | renameColumn table old new => exact Statement.balanced_of_count rfl
  | addForeignKey table k => exact k.clause_balanced.behind rfl
  | addCheck table c => exact c.clause_balanced.behind rfl
  | dropConstraint table name => exact Statement.balanced_of_count rfl
  | createIndex table i => exact i.attributes_balanced.behind rfl
  | dropIndex table name => exact Statement.balanced_of_count rfl
  | renameIndex table old new => exact Statement.balanced_of_count rfl

/-! ## Other texts in the same places -/

/-- The same index with other texts. -/
def IndexEntry.mapTexts (f : String → String) (e : IndexEntry) : IndexEntry :=
  { e with
    column := f e.column
    expression := e.expression.map f
    collation := e.collation.map f }

def Index.mapTexts (f : String → String) (i : Index) : Index where
  name := f i.name
  entries := i.entries.map (·.mapTexts f)
  kind := i.kind.map f
  method := i.method.map f
  comment := i.comment.map f

def Check.mapTexts (f : String → String) (c : Check) : Check where
  name := f c.name
  expression := f c.expression
  field := c.field.map f

def ForeignKey.mapTexts (f : String → String) (k : ForeignKey) : ForeignKey :=
  { k with
    name := f k.name
    table := f k.table
    field := k.field.map f
    columns := k.columns.map f
    referencedTable := f k.referencedTable
    referencedColumns := k.referencedColumns.map f }

def Clause.mapTexts (f : String → String) : Clause → Clause
  | column name type => .column (f name) (f type)
  | primaryKey columns => .primaryKey (columns.map f)
  | index i => .index (i.mapTexts f)
  | foreignKey k => .foreignKey (k.mapTexts f)
  | check c => .check (c.mapTexts f)

/-- The same change with other texts in the places of those that the caller gave. -/
def Change.mapTexts (f : String → String) : Change → Change
  | createTable table clauses options =>
    .createTable (f table) (clauses.map (·.mapTexts f)) (options.map f)
  | dropTable table => .dropTable (f table)
  | renameTable old new => .renameTable (f old) (f new)
  | addColumn table column type => .addColumn (f table) (f column) (f type)
  | dropColumn table column => .dropColumn (f table) (f column)
  | alterColumn table column type => .alterColumn (f table) (f column) (f type)
  | renameColumn table old new => .renameColumn (f table) (f old) (f new)
  | addForeignKey table k => .addForeignKey (f table) (k.mapTexts f)
  | addCheck table c => .addCheck (f table) (c.mapTexts f)
  | dropConstraint table name => .dropConstraint (f table) (f name)
  | createIndex table i => .createIndex (f table) (i.mapTexts f)
  | dropIndex table name => .dropIndex (f table) (f name)
  | renameIndex table old new => .renameIndex (f table) (f old) (f new)

section

variable {f : String → String}

theorem ForeignKey.template_clause_mapTexts (k : ForeignKey) :
    (k.mapTexts f).clause.template = k.clause.template := by
  have hactions : (k.mapTexts f).actionsText = k.actionsText := by
    -- Both sides are the same as they stand; there is no need to put the texts together.
    unfold actionsText mapTexts
    with_reducible rfl
  unfold clause
  simp only [hactions]

variable (hf : ∀ s, f s = "" ↔ s = "") (d : Dialect)

include hf

/-- A text that says something still does. -/
theorem filter_map_texts (o : Option String) :
    (o.map f).filter (· ≠ "") = (o.filter (· ≠ "")).map f := by
  cases o with
  | none => rfl
  | some s => by_cases hs : s = "" <;> simp [Option.filter, hf, hs]

theorem Index.template_attributes_mapTexts (i : Index) :
    (i.mapTexts f).attributes.template = i.attributes.template := by
  simp only [attributes, mapTexts, filter_map_texts hf, Statement.template_append]
  cases i.comment.filter (· ≠ "") <;> cases i.method.filter (· ≠ "") <;>
    simp only [Option.map_none, Option.map_some]

theorem Clause.template_mapTexts (c : Clause) :
    ((c.mapTexts f).statement d).template = (c.statement d).template := by
  cases c with
  | column name type => rfl
  | primaryKey columns => rfl
  | index i =>
    simp only [mapTexts, statement, Index.clause, Statement.template_append,
      i.template_attributes_mapTexts hf]
  | foreignKey k => exact k.template_clause_mapTexts
  | check c => rfl

/-- No text of the caller is part of the template. -/
theorem Change.template_mapTexts (c : Change) :
    ((c.mapTexts f).statement d).template = (c.statement d).template := by
  cases c with
  | createTable table clauses options =>
    have hclauses :
        (Statement.join "," ((clauses.map (·.mapTexts f)).map (·.statement d))).template =
          (Statement.join "," (clauses.map (·.statement d))).template := by
      rw [Statement.template_join, Statement.template_join]
      simp only [List.map_map]
      exact congrArg _ (List.map_congr_left fun c _ => c.template_mapTexts hf d)
    have hoptions : (optionsStatement (options.map f)).template =
        (optionsStatement options).template := by
      cases options <;> simp only [optionsStatement, Option.map_none, Option.map_some]
    unfold mapTexts statement
    simp only [Statement.template_append]
    rw [hclauses, hoptions]
  | dropTable table => rfl
  | renameTable old new => rfl
  | addColumn table column type => rfl
  | dropColumn table column => rfl
  | alterColumn table column type => rfl
  | renameColumn table old new => rfl
  | addForeignKey table k =>
    unfold mapTexts statement
    rw [Statement.template_append, Statement.template_append, k.template_clause_mapTexts]
  | addCheck table c => rfl
  | dropConstraint table name => rfl
  | createIndex table i =>
    unfold mapTexts statement Index.creation
    rw [Statement.template_append, Statement.template_append, i.template_attributes_mapTexts hf]
  | dropIndex table name => rfl
  | renameIndex table old new => rfl

end

/-! ## The accounting -/

/-- Every question mark of the template is filled by an argument of its own, in order, and the text
consists of nothing else. -/
structure Statement.FilledInOrder (d : Dialect) (s : Statement) : Prop where
  /-- There are as many question marks as arguments. -/
  balanced : s.template.toList.count '?' = s.arguments.length
  /-- Written out, the arguments stand between the pieces of the template. -/
  sql_eq : s.sql d = weave s.pieces (s.arguments.map fun a => (a.inlined d).1)
  /-- So they do with the values left open, which are bound in the same order. -/
  render_eq : s.render d = (weave s.pieces (s.arguments.map fun a => (a.bound d).1),
    s.arguments.flatMap fun a => (a.bound d).2)

theorem Statement.Balanced.filledInOrder {d : Dialect} {s : Statement} (h : s.Balanced) :
    s.FilledInOrder d where
  balanced := h
  sql_eq := h.sql_eq
  render_eq := h.render_eq

/-- Every statement for a change of the schema, and every clause by itself, has an argument for each
of its question marks, and no text of the caller is part of a template. -/
theorem Change.statement_placeholders {d : Dialect}
    (hd : d.alterColumnTemplate = Mysql.dialect.alterColumnTemplate ∨
      d.alterColumnTemplate = "ALTER TABLE ? ALTER COLUMN ? TYPE ?") :
    (∀ c : Change, (c.statement d).FilledInOrder d) ∧
    (∀ c : Clause, (c.statement d).FilledInOrder d) ∧
    ∀ f : String → String, (∀ s, f s = "" ↔ s = "") →
      (∀ c : Change, ((c.mapTexts f).statement d).template = (c.statement d).template) ∧
      ∀ c : Clause, ((c.mapTexts f).statement d).template = (c.statement d).template := by
  have hmarks : d.alterColumnTemplate.toList.count '?' = 3 := by
    rcases hd with hd | hd <;> rw [hd] <;> rfl
  refine ⟨fun c => (c.statement_balanced hmarks).filledInOrder,
    fun c => (c.statement_balanced d).filledInOrder, fun f hf => ⟨?_, ?_⟩⟩
  · exact fun c => c.template_mapTexts hf d
  · exact fun c => c.template_mapTexts hf d

/-- A table with a question mark in every text. -/
def questionable : Change :=
  .createTable "a?.b?"
    [.column "c?" "char(1) DEFAULT '?'",
      .index { name := "i?", entries := [{ column := "c?" }], kind := some "FULLTEXT?",
               method := some "?", comment := some "?!" },
      .check { name := "k?", expression := "c = '?'" }]
    (some "COMMENT='?'")

/-- Every text but the empty one as a question mark. -/
def marked (s : String) : String := if s = "" then "" else "?"

theorem Change.statement_placeholders_questionable :
    (questionable.statement Mysql.dialect).arguments.length = 11 ∧
    questionable.sql Mysql.dialect =
      "CREATE TABLE `a?`.`b?` (`c?` char(1) DEFAULT '?',FULLTEXT? INDEX `i?` (`c?`) COMMENT '?!' "
        ++ "USING ?,CONSTRAINT `k?` CHECK (c = '?')) COMMENT='?'" ∧
    ((questionable.mapTexts marked).statement Mysql.dialect).template =
      "CREATE TABLE ? (? ?,?INDEX ? ? COMMENT ? USING ?,CONSTRAINT ? CHECK (?)) ?" := by
  have hmarked : ∀ s, marked s = "" ↔ s = "" := by
    intro s
    unfold marked
    split <;> simp_all
  obtain ⟨hfilled, -, htexts⟩ := Change.statement_placeholders (d := Mysql.dialect) (.inl rfl)
  refine ⟨?_, ?_, ?_⟩
  · rw [← (hfilled questionable).balanced]
    rfl
  · exact (hfilled questionable).sql_eq.trans rfl
  · exact ((htexts marked hmarked).1 questionable).trans rfl

end SchemaMigration
