import SchemaMigration.Catalog.Names
import SchemaMigration.Catalog.Refusal
import SchemaMigration.Sql.CatalogQuery
import SchemaMigration.Sql.Change

/-!
# The catalog of a database

What a database knows about its schema: the tables, and the names of their columns, constraints and
indexes.  A change is applied to the catalog or refused; a question is answered from it.
-/

namespace SchemaMigration

/-- What the catalog knows about one table. -/
structure TableEntry where
  /-- In the order of the table. -/
  columns : List String := []
  constraints : NameSet := {}
  indexes : NameSet := {}
deriving DecidableEq, Repr, Inhabited

/-- The tables of a database by name, each name once. -/
structure Catalog where
  tables : List (String × TableEntry) := []
deriving DecidableEq, Repr, Inhabited

namespace Catalog

/-- What is known about a table. -/
def table? (c : Catalog) (name : String) : Option TableEntry := c.tables.lookup name

/-- Whether a table exists. -/
def hasTable (c : Catalog) (name : String) : Bool := (c.table? name).isSome

/-- The entries with one table set: in its place if it is there, else at the end. -/
def setEntry (name : String) (t : TableEntry) : List (String × TableEntry) →
    List (String × TableEntry)
  | [] => [(name, t)]
  | (other, u) :: rest =>
    if other = name then (name, t) :: rest else (other, u) :: setEntry name t rest

/-- The catalog with one table set. -/
def set (c : Catalog) (name : String) (t : TableEntry) : Catalog := ⟨setEntry name t c.tables⟩

/-- The catalog without a table. -/
def erase (c : Catalog) (name : String) : Catalog := ⟨c.tables.filter fun e => e.1 ≠ name⟩

theorem lookup_cons_ite (name key : String) (t : TableEntry) (rest : List (String × TableEntry)) :
    ((key, t) :: rest).lookup name = if name = key then some t else rest.lookup name := by
  rw [List.lookup_cons]
  by_cases h : name = key
  · simp [h]
  · have hne : (name == key) = false := by simp [h]
    rw [hne, if_neg h]

theorem lookup_setEntry (name other : String) (t : TableEntry)
    (entries : List (String × TableEntry)) :
    (setEntry name t entries).lookup other =
      if other = name then some t else entries.lookup other := by
  induction entries with
  | nil => rw [setEntry, lookup_cons_ite]
  | cons e rest ih =>
    obtain ⟨key, u⟩ := e
    rw [setEntry]
    split
    · next h =>
      subst h
      rw [lookup_cons_ite, lookup_cons_ite]
      split <;> rfl
    · next h =>
      rw [lookup_cons_ite, lookup_cons_ite, ih]
      -- The two tables are different, so that the order of the questions does not matter.
      by_cases hk : other = key
      · subst hk
        simp [h]
      · simp [hk]

/-- Setting a table changes what is known about this table only. -/
@[simp] theorem table?_set (c : Catalog) (name other : String) (t : TableEntry) :
    (c.set name t).table? other = if other = name then some t else c.table? other :=
  lookup_setEntry name other t c.tables

theorem lookup_filter_ne (name other : String) (entries : List (String × TableEntry)) :
    (entries.filter fun e => e.1 ≠ name).lookup other =
      if other = name then none else entries.lookup other := by
  induction entries with
  | nil => simp
  | cons e rest ih =>
    obtain ⟨key, u⟩ := e
    rw [lookup_cons_ite]
    by_cases h : key = name
    · subst h
      rw [List.filter_cons_of_neg (by simp), ih]
      by_cases hk : other = key <;> simp [hk]
    · rw [List.filter_cons_of_pos (by simp [h]), lookup_cons_ite, ih]
      by_cases hk : other = key <;> simp [hk, h]

/-- Erasing a table changes what is known about this table only. -/
@[simp] theorem table?_erase (c : Catalog) (name other : String) :
    (c.erase name).table? other = if other = name then none else c.table? other :=
  lookup_filter_ne name other c.tables

/-- A foreign key of `owner` may refer to `owner` itself or to a table that exists. -/
def checkReference (c : Catalog) (owner referenced : String) : Except Refusal Unit :=
  if owner = referenced || c.hasTable referenced then .ok ()
  else .error (.noReferencedTable referenced)

/-- Takes a clause of `CREATE TABLE` into the entry of the new table. -/
def addClause (c : Catalog) (owner : String) (t : TableEntry) : Clause → Except Refusal TableEntry
  | .column name _ => .ok { t with columns := t.columns ++ [name] }
  | .primaryKey _ => .ok t
  | .index i => .ok { t with indexes := t.indexes.insert i.name }
  | .foreignKey k =>
    (c.checkReference owner k.referencedTable).map fun () =>
      { t with constraints := t.constraints.insert k.name }
  | .check k => .ok { t with constraints := t.constraints.insert k.name }

/-- Changes the entry of a table that must exist. -/
def update (c : Catalog) (name : String) (f : TableEntry → Except Refusal TableEntry) :
    Except Refusal Catalog :=
  match c.table? name with
  | none => .error (.noTable name)
  | some t => (f t).map (c.set name)

/-- Moves a table over a new name. -/
def renameTable (c : Catalog) (old new : String) : Except Refusal Catalog :=
  match c.table? old with
  | none => .error (.noTable old)
  | some t => .ok ((c.erase old).set new t)

/-- Adds a column behind those of a table. -/
def addColumn (c : Catalog) (table column : String) : Except Refusal Catalog :=
  c.update table fun t =>
    if t.columns.contains column then .error (.columnExists column)
    else .ok { t with columns := t.columns ++ [column] }

/-- Removes a column from a table, whether it is there or not. -/
def dropColumn (c : Catalog) (table column : String) : Except Refusal Catalog :=
  c.update table fun t => .ok { t with columns := t.columns.filter (· ≠ column) }

/-- Changes the type of a column.  The types of columns are not kept. -/
def alterColumn (c : Catalog) (table column : String) : Except Refusal Catalog :=
  c.update table fun t =>
    if t.columns.contains column then .ok t else .error (.noColumn column)

/-- Renames a column of a table, if it is there. -/
def renameColumn (c : Catalog) (table old new : String) : Except Refusal Catalog :=
  c.update table fun t =>
    .ok { t with columns := t.columns.map fun x => if x = old then new else x }

/-- Adds the name of a constraint to a table. -/
def addConstraint (c : Catalog) (table name : String) : Except Refusal Catalog :=
  c.update table fun t =>
    if t.constraints.contains name then .error (.constraintExists name)
    else .ok { t with constraints := t.constraints.insert name }

/-- Adds the name of a foreign key to a table, once it is known that the table it refers to is
there. -/
def addForeignKey (c : Catalog) (table name referenced : String) : Except Refusal Catalog :=
  match c.checkReference table referenced with
  | .error e => .error e
  | .ok () => c.addConstraint table name

def dropConstraint (c : Catalog) (table name : String) : Except Refusal Catalog :=
  c.update table fun t =>
    if t.constraints.contains name then
      .ok { t with constraints := t.constraints.erase name }
    else .error (.noConstraint name)

def createIndex (c : Catalog) (table name : String) : Except Refusal Catalog :=
  c.update table fun t =>
    if t.indexes.contains name then .error (.indexExists name)
    else .ok { t with indexes := t.indexes.insert name }

def dropIndex (c : Catalog) (table name : String) : Except Refusal Catalog :=
  c.update table fun t =>
    if t.indexes.contains name then .ok { t with indexes := t.indexes.erase name }
    else .error (.noIndex name)

def renameIndex (c : Catalog) (table old new : String) : Except Refusal Catalog :=
  c.update table fun t =>
    if t.indexes.contains old then
      .ok { t with indexes := (t.indexes.erase old).insert new }
    else .error (.noKey old)

/-- Applies a change, or refuses it. -/
def apply (c : Catalog) : Change → Except Refusal Catalog
  | .createTable table clauses _ =>
    if c.hasTable table then .error (.tableExists table)
    else (clauses.foldlM (c.addClause table) {}).map (c.set table)
  | .dropTable table => .ok (c.erase table)
  | .renameTable old new => c.renameTable old new
  | .addColumn table column _ => c.addColumn table column
  | .dropColumn table column => c.dropColumn table column
  | .alterColumn table column _ => c.alterColumn table column
  | .renameColumn table old new => c.renameColumn table old new
  | .addForeignKey table k => c.addForeignKey table k.name k.referencedTable
  | .addCheck table k => c.addConstraint table k.name
  | .dropConstraint table name => c.dropConstraint table name
  | .createIndex table i => c.createIndex table i.name
  | .dropIndex table name => c.dropIndex table name
  | .renameIndex table old new => c.renameIndex table old new

/-- A single row that counts zero or one. -/
def countRow (holds : Bool) : List Row := [[.int (if holds then 1 else 0)]]

/-- What is told about a column; of its type and attributes nothing is kept. -/
def columnRow (column : String) : Row := [.text column, .text "bigint", .text "YES", .null]

/-- The answer to a question, given the name of the current database. -/
def answer (c : Catalog) (database : String) : CatalogQuery → List Row
  | .currentDatabase => [[.text database]]
  | .table _ table => countRow (c.hasTable table)
  | .column _ table column => countRow ((c.table? table).any (·.columns.contains column))
  | .constraint _ table name => countRow ((c.table? table).any (·.constraints.contains name))
  | .index _ table name => countRow ((c.table? table).any (·.indexes.contains name))
  | .columnTypes _ table =>
    ((c.table? table).elim [] (·.columns)).map columnRow

end Catalog

end SchemaMigration
