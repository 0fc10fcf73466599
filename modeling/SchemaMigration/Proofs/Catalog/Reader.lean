import SchemaMigration.Catalog.Reader
import SchemaMigration.Catalog.Rehearsal
import SchemaMigration.Proofs.Sql.Placeholders
import SchemaMigration.Proofs.Text.Search

/-!
# Statements mean the changes that they are written for

A database that reads statements (`Catalog.reader`) does to its catalog what the changes say which
the statements were written for, and answers what the questions ask (`run_statement`,
`reply_statement`).  So its session is the session on the catalog (`reader_session`), and whatever
holds of the one holds of the other.

There are two halves to this.  The form of a statement is recognized by its template: what comes
behind the words that tell the form, be it clauses, attributes or actions, does not change it
(`recognize_append`).  And the names stand where the form says, since each clause takes as many
arguments as it has question marks, and no comma inside a clause takes it apart.
-/

namespace SchemaMigration

/-! ## Forms are told by the start -/

namespace Pattern

/-- Whether all templates with this start are of the pattern, or none is; otherwise it depends on
the rest. -/
def settled? (head : List Char) : Pattern → Option Bool
  | whole text => if head.isPrefixOf text.toList then none else some false
  | start text =>
    if text.toList.isPrefixOf head then some true
    else if head.isPrefixOf text.toList then none
    else some false
  | somewhere text => if Text.occursIn text.toList head then some true else none

theorem accepts_append {head : List Char} {b : Bool} {p : Pattern} (h : p.settled? head = some b)
    (rest : List Char) : p.accepts (head ++ rest) = b := by
  cases p with
  | whole text =>
    rw [settled?] at h
    split at h
    · cases h
    · next hstart =>
      cases h
      refine decide_eq_false fun heq => hstart ?_
      rw [List.isPrefixOf_iff_prefix, ← heq]
      exact List.prefix_append head rest
  | start text =>
    rw [settled?] at h
    split at h
    · next hstart =>
      cases h
      rw [List.isPrefixOf_iff_prefix] at hstart
      exact List.isPrefixOf_iff_prefix.mpr (hstart.trans (List.prefix_append head rest))
    · next hnot =>
      split at h
      · cases h
      · next hnot' =>
        cases h
        -- Two starts of one template are starts of one another.
        rw [accepts, Bool.eq_false_iff]
        intro hstart
        rw [List.isPrefixOf_iff_prefix] at hstart hnot hnot'
        rcases List.prefix_or_prefix_of_prefix hstart (List.prefix_append head rest) with h | h
        · exact hnot h
        · exact hnot' h
  | somewhere text =>
    rw [settled?] at h
    split at h
    · next hin =>
      cases h
      rw [Text.occursIn_iff] at hin
      exact Text.occursIn_iff.mpr (hin.trans (List.prefix_append head rest).isInfix)
    · cases h

end Pattern

/-- The form of all templates with this start, if the start tells it. -/
def recognizeStart {α : Type} (head : List Char) : List (Pattern × α) → Option α
  | [] => none
  | form :: forms =>
    match form.1.settled? head with
    | some true => some form.2
    | some false => recognizeStart head forms
    | none => none

theorem recognize_append {α : Type} {forms : List (Pattern × α)} {head : List Char} {a : α}
    (h : recognizeStart head forms = some a) (rest : List Char) :
    recognize forms (head ++ rest) = some a := by
  induction forms with
  | nil => cases h
  | cons form forms ih =>
    rw [recognizeStart] at h
    unfold recognize at ih ⊢
    split at h
    · next hyes =>
      cases h
      rw [List.find?_cons, Pattern.accepts_append hyes rest]
      rfl
    · next hno =>
      rw [List.find?_cons, Pattern.accepts_append hno rest]
      exact ih h
    · cases h

/-! ## Commas -/

theorem ForeignKey.comma_actionsText (k : ForeignKey) : ',' ∉ k.actionsText.toList := by
  have hdelete : ∀ a : ReferentialAction, ',' ∉ (" ON DELETE " ++ a.keyword).toList := by
    intro a
    cases a <;> decide +kernel
  have hupdate : ∀ a : ReferentialAction, ',' ∉ (" ON UPDATE " ++ a.keyword).toList := by
    intro a
    cases a <;> decide +kernel
  unfold actionsText
  rw [String.toList_append, List.mem_append, not_or]
  constructor
  · cases k.onDelete with
    | none => decide
    | some a => exact hdelete a
  · cases k.onUpdate with
    | none => decide
    | some a => exact hupdate a

theorem Index.comma_attributes (i : Index) : ',' ∉ i.attributes.template.toList := by
  unfold attributes
  rw [Statement.template_append, String.toList_append, List.mem_append, not_or]
  constructor
  · split
    · show ',' ∉ " COMMENT ?".toList
      decide
    · decide
  · split
    · show ',' ∉ " USING ?".toList
      decide
    · decide

/-- No comma inside a clause takes it apart. -/
theorem Clause.comma_template (d : Dialect) (clause : Clause) :
    ',' ∉ (clause.statement d).template.toList := by
  cases clause with
  | column name type =>
    show ',' ∉ "? ?".toList
    decide
  | primaryKey columns =>
    show ',' ∉ "PRIMARY KEY ?".toList
    decide
  | index i =>
    show ',' ∉ ("?INDEX ? ?" ++ i.attributes.template).toList
    rw [String.toList_append, List.mem_append, not_or]
    exact ⟨by decide, i.comma_attributes⟩
  | foreignKey k =>
    show ',' ∉ ("CONSTRAINT ? FOREIGN KEY ? REFERENCES ??" ++ k.actionsText).toList
    rw [String.toList_append, List.mem_append, not_or]
    exact ⟨by decide +kernel, k.comma_actionsText⟩
  | check k =>
    show ',' ∉ "CONSTRAINT ? CHECK (?)".toList
    decide

namespace Catalog

open Argument (nameAt textAt)

variable {c : Catalog} {d : Dialect}

/-! ## Clauses -/

/-- A clause says what it was written for. -/
theorem readClause_statement (owner : String) (t : TableEntry) (clause : Clause) :
    c.readClause owner t (clause.statement d).template.toList (clause.statement d).arguments =
      c.addClause owner t clause := by
  cases clause with
  | column name type =>
    have hform : recognize clauseForms "? ?".toList = some .column := by decide +kernel
    show c.readClause owner t "? ?".toList [.column name, .raw type] = _
    rw [readClause, hform]
    rfl
  | primaryKey columns =>
    have hform : recognize clauseForms "PRIMARY KEY ?".toList = none := by decide +kernel
    show c.readClause owner t "PRIMARY KEY ?".toList [.columns columns] = _
    rw [readClause, hform]
    rfl
  | index i =>
    have hform : recognizeStart "?INDEX ? ?".toList clauseForms = some .index := by decide +kernel
    show c.readClause owner t ("?INDEX ? ?" ++ i.attributes.template).toList
      ([.raw i.kindText, .label i.name, i.entryList d] ++ i.attributes.arguments) = _
    rw [readClause, String.toList_append, recognize_append hform]
    rfl
  | foreignKey k =>
    have hform : recognizeStart "CONSTRAINT ? FOREIGN KEY ? REFERENCES ??".toList clauseForms =
        some .foreignKey := by decide +kernel
    show c.readClause owner t ("CONSTRAINT ? FOREIGN KEY ? REFERENCES ??" ++ k.actionsText).toList
      [.label k.name, .columns k.columns, .table k.referencedTable,
        .columns k.referencedColumns] = _
    rw [readClause, String.toList_append, recognize_append hform]
    show (c.checkReference owner k.referencedTable >>= fun _ => _) = Except.map _ _
    cases c.checkReference owner k.referencedTable <;> rfl
  | check k =>
    have hform : recognize clauseForms "CONSTRAINT ? CHECK (?)".toList = some .check := by
      decide +kernel
    show c.readClause owner t "CONSTRAINT ? CHECK (?)".toList [.label k.name, .raw k.expression] = _
    rw [readClause, hform]
    rfl

/-- Clauses that are read one after the other say what they were written for. -/
theorem readClauses_statements (d : Dialect) (owner : String) (rest : List Argument)
    (clauses : List Clause) : ∀ t : TableEntry,
      c.readClauses owner (clauses.map fun clause => (clause.statement d).template.toList)
          (clauses.flatMap (fun clause => (clause.statement d).arguments) ++ rest) t =
        clauses.foldlM (c.addClause owner) t := by
  induction clauses with
  | nil => exact fun _ => rfl
  | cons clause clauses ih =>
    intro t
    have harity : (clause.statement d).template.toList.count '?' =
        (clause.statement d).arguments.length := clause.statement_balanced d
    rw [List.map_cons, List.flatMap_cons, List.append_assoc, readClauses, harity, List.take_left,
      List.drop_left, readClause_statement, List.foldlM_cons]
    exact congrArg _ (funext ih)

/-- The pieces between the commas are the clauses.  Of no clauses there is one empty piece, which says
nothing. -/
theorem readClauses_join (d : Dialect) (owner : String) (rest : List Argument)
    (clauses : List Clause) :
    c.readClauses owner
        (Text.splitAtEach ','
          (Statement.join "," (clauses.map (·.statement d))).template.toList)
        ((Statement.join "," (clauses.map (·.statement d))).arguments ++ rest) {} =
      clauses.foldlM (c.addClause owner) {} := by
  cases clauses with
  | nil =>
    have hform : recognize clauseForms [] = none := by decide +kernel
    show c.readClauses owner [[]] rest {} = .ok {}
    rw [readClauses, readClause, hform]
    rfl
  | cons clause clauses =>
    have htemplate : (Statement.join "," ((clause :: clauses).map (·.statement d))).template.toList =
        List.intercalate [',']
          ((clause :: clauses).map fun x => (x.statement d).template.toList) := by
      rw [Statement.template_join, String.toList_intercalate, List.map_map, List.map_map]
      rfl
    have hpieces : ∀ piece ∈ (clause :: clauses).map fun x => (x.statement d).template.toList,
        ',' ∉ piece := by
      intro piece hpiece
      obtain ⟨x, -, rfl⟩ := List.mem_map.mp hpiece
      exact x.comma_template d
    rw [htemplate, Text.splitAtEach_intercalate (by simp) hpieces, Statement.arguments_join,
      List.flatMap_map]
    exact readClauses_statements d owner rest (clause :: clauses) {}

/-! ## Changes -/

theorem template_createTable (d : Dialect) (table : String) (clauses : List Clause)
    (options : Option String) :
    ((Change.createTable table clauses options).statement d).template.toList =
      "CREATE TABLE ? (".toList ++
        ((Statement.join "," (clauses.map (·.statement d))).template.toList ++
          ')' :: (Change.optionsStatement options).template.toList) := by
  have hclose : ")".toList = [')'] := by decide
  show ("CREATE TABLE ? (" ++ (Statement.join "," (clauses.map (·.statement d))).template ++ ")" ++
    (Change.optionsStatement options).template).toList = _
  rw [String.toList_append, String.toList_append, String.toList_append, hclose,
    List.append_assoc, List.append_assoc, List.singleton_append]

/-- The parentheses hold the clauses: none of the options closes them once more. -/
theorem clausesText_statement (d : Dialect) (table : String) (clauses : List Clause)
    (options : Option String) :
    clausesText ((Change.createTable table clauses options).statement d).template.toList =
      (Statement.join "," (clauses.map (·.statement d))).template.toList := by
  have hoptions : ')' ∉ (Change.optionsStatement options).template.toList := by
    cases options with
    | none => decide
    | some text =>
      show ')' ∉ " ?".toList
      decide
  rw [clausesText, template_createTable, List.drop_left, Text.splitAtLast_append hoptions]
  rfl

theorem run_form {template : String} {arguments : List Argument} (form : ChangeForm)
    (h : recognize changeForms template.toList = some form) :
    c.run ⟨template, arguments⟩ = c.perform ⟨template, arguments⟩ form := by
  rw [run, h]

theorem run_formStart {head rest : String} {arguments : List Argument} (form : ChangeForm)
    (h : recognizeStart head.toList changeForms = some form) :
    c.run ⟨head ++ rest, arguments⟩ = c.perform ⟨head ++ rest, arguments⟩ form := by
  refine run_form form ?_
  rw [String.toList_append]
  exact recognize_append h rest.toList

/-- A table is created with what its clauses say. -/
theorem run_createTable (d : Dialect) (table : String) (clauses : List Clause)
    (options : Option String) :
    c.run ((Change.createTable table clauses options).statement d) =
      c.apply (.createTable table clauses options) := by
  have hform : recognizeStart "CREATE TABLE ? (".toList changeForms = some .createTable := by
    decide +kernel
  have hargument : ((Change.createTable table clauses options).statement d).arguments =
      .table table :: ((Statement.join "," (clauses.map (·.statement d))).arguments ++
        (Change.optionsStatement options).arguments) := by
    show [.table table] ++ (Statement.join "," (clauses.map (·.statement d))).arguments ++ [] ++
      (Change.optionsStatement options).arguments = _
    rw [List.append_nil, List.append_assoc, List.singleton_append]
  rw [run, template_createTable, recognize_append hform]
  show c.perform _ .createTable = _
  rw [perform, clausesText_statement, hargument]
  show (if c.hasTable table then _ else Except.map _ (c.readClauses table _ _ {})) = _
  rw [List.drop_one, List.tail_cons, readClauses_join]
  rfl

/-- A statement makes the change that it was written for, or is refused as the change is. -/
theorem run_statement (hd : d.Understood) (change : Change) :
    c.run (change.statement d) = c.apply change := by
  cases change with
  | createTable table clauses options => exact run_createTable d table clauses options
  | dropTable table => exact run_form .dropTable (by decide +kernel)
  | renameTable old new => exact run_form .renameTable (by decide +kernel)
  | addColumn table column type => exact run_form .addColumn (by decide +kernel)
  | dropColumn table column => exact run_form .dropColumn (by decide +kernel)
  | alterColumn table column type =>
    show c.run ⟨d.alterColumnTemplate, _⟩ = _
    rw [hd.alterColumn]
    exact run_form .alterColumn (by decide +kernel)
  | renameColumn table old new => exact run_form .renameColumn (by decide +kernel)
  | addForeignKey table k =>
    have htemplate : "ALTER TABLE ? ADD " ++ ("CONSTRAINT ? FOREIGN KEY ? REFERENCES ??" ++
        k.actionsText) = "ALTER TABLE ? ADD CONSTRAINT ? FOREIGN KEY ? REFERENCES ??" ++
          k.actionsText := by rw [← String.append_assoc]; rfl
    show c.run ⟨"ALTER TABLE ? ADD " ++ ("CONSTRAINT ? FOREIGN KEY ? REFERENCES ??" ++
      k.actionsText), [.table table, .label k.name, .columns k.columns, .table k.referencedTable,
        .columns k.referencedColumns]⟩ = _
    rw [htemplate]
    exact run_formStart .addForeignKey (by decide +kernel)
  | addCheck table k =>
    show c.run ⟨"ALTER TABLE ? ADD CONSTRAINT ? CHECK (?)",
      [.table table, .label k.name, .raw k.expression]⟩ = _
    exact run_form .addCheck (by decide +kernel)
  | dropConstraint table name => exact run_form .dropConstraint (by decide +kernel)
  | createIndex table i =>
    show c.run ⟨"CREATE ?INDEX ? ON ??" ++ i.attributes.template,
      [.raw i.kindText, .label i.name, .table table, i.entryList d] ++
        i.attributes.arguments⟩ = _
    exact run_formStart .createIndex (by decide +kernel)
  | dropIndex table name => exact run_form .dropIndex (by decide +kernel)
  | renameIndex table old new => exact run_form .renameIndex (by decide +kernel)

/-! ## Queries -/

/-- A query that counts is recognized by what it selects, and by where it selects it from. -/
theorem reply_count {template : String} {arguments : List Argument} (form : CountForm)
    (database : String) (hcount : recognize queryForms template.toList = some .count)
    (hform : recognize countForms template.toList = some form) {table name : String}
    (htable : textAt arguments 1 = .ok table) (hname : textAt arguments 2 = .ok name) :
    c.reply database ⟨template, arguments⟩ =
      .ok (countRow ((c.table? table).any (·.shows form name))) := by
  have hfinds : c.finds ⟨template, arguments⟩ =
      .ok ((c.table? table).any (·.shows form name)) := by
    rw [finds, htable]
    dsimp only [bind, Except.bind]
    cases c.table? table with
    | none => rfl
    | some t =>
      dsimp only
      rw [hform, hname]
      cases form <;> rfl
  rw [reply, hcount]
  dsimp only
  rw [hfinds]
  rfl

/-- A query for columns is about the table of its second argument. -/
theorem reply_columnTypes {template : String} {arguments : List Argument} (database : String)
    (hform : recognize queryForms template.toList = some .columnTypes) {table : String}
    (htable : textAt arguments 1 = .ok table) :
    c.reply database ⟨template, arguments⟩ =
      .ok (((c.table? table).elim [] (·.columns)).map columnRow) := by
  rw [reply, hform]
  dsimp only
  rw [htable]
  rfl

/-- A query is answered as the question that it was written for. -/
theorem reply_statement (hd : d.Understood) (database : String) (q : CatalogQuery) :
    c.reply database (q.statement d) = .ok (c.answer database q) := by
  cases q with
  | currentDatabase =>
    have hform : recognize queryForms "SELECT DATABASE()".toList = some .currentDatabase := by
      decide +kernel
    show c.reply database d.currentDatabase = _
    rw [reply, hd.currentDatabase, hform]
    rfl
  | table db tbl =>
    refine (reply_count .tables database (by decide +kernel) (by decide +kernel) rfl rfl).trans ?_
    rw [answer, hasTable]
    cases c.table? tbl <;> rfl
  | column db tbl name =>
    exact reply_count .columns database (by decide +kernel) (by decide +kernel) rfl rfl
  | constraint db tbl name =>
    exact reply_count .constraints database (by decide +kernel) (by decide +kernel) rfl rfl
  | index db tbl name =>
    exact reply_count .indexes database (by decide +kernel) (by decide +kernel) rfl rfl
  | columnTypes db tbl => exact reply_columnTypes database (by decide +kernel) rfl

/-! ## Sessions -/

/-- **The session of a database that reads statements is the session on its catalog.** -/
theorem reader_session (hd : d.Understood) (database : String) :
    (reader d database).session d = session d database := by
  have hexecute : ((reader d database).session d).execute = (session d database).execute := by
    funext change c
    simp only [Database.session, reader, run_statement hd]
    rfl
  have hquery : ((reader d database).session d).query = (session d database).query := by
    funext q c
    simp only [Database.session, reader, reply_statement hd]
    rfl
  exact (Session.mk.injEq _ _ _ _).mpr ⟨hexecute, hquery⟩

end Catalog

/-- MySQL is understood. -/
theorem Mysql.understood : dialect.Understood := ⟨rfl, rfl⟩

end SchemaMigration
