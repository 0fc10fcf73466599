import SchemaMigration.Catalog.Basic
import SchemaMigration.Migration.Session

/-!
# Catalogs that enforce foreign keys

The plain catalog knows the names of foreign keys and drops every table that it is told to.  A keyed
catalog also remembers which table each key refers to, and refuses to drop a table while another one
refers to it.
-/

namespace SchemaMigration

/-- A foreign key that a table holds, and the table that it refers to. -/
structure HeldKey where
  owner : String
  name : String
  referenced : String
deriving DecidableEq, Repr, Inhabited

/-- A catalog and the foreign keys of its tables. -/
structure KeyedCatalog where
  catalog : Catalog
  keys : List HeldKey
  owned : ∀ k ∈ keys, catalog.hasTable k.owner = true

namespace KeyedCatalog

/-- A database without tables. -/
def empty : KeyedCatalog := ⟨{}, [], by simp⟩

/-- The foreign key that a clause of `CREATE TABLE` declares for a table. -/
def keyOfClause? (owner : String) : Clause → Option HeldKey
  | .foreignKey k => some ⟨owner, k.name, k.referencedTable⟩
  | _ => none

/-- The table and its keys go by a new name. -/
def renameTable (old new : String) (k : HeldKey) : HeldKey :=
  { k with
    owner := if k.owner = old then new else k.owner
    referenced := if k.referenced = old then new else k.referenced }

/-- The foreign keys once a change is made, those of tables that are dropped by it included. -/
def keysAfter (keys : List HeldKey) : Change → List HeldKey
  | .createTable table clauses _ => keys ++ clauses.filterMap (keyOfClause? table)
  | .addForeignKey table k => keys ++ [⟨table, k.name, k.referencedTable⟩]
  | .dropConstraint table name => keys.filter fun k => ¬ (k.owner = table ∧ k.name = name)
  | .renameTable old new => keys.map (renameTable old new)
  | _ => keys

/-- The table that a change drops. -/
def dropped? : Change → Option String
  | .dropTable table => some table
  | _ => none

/-- Whether a table other than this one refers to it. -/
def isReferenced (c : KeyedCatalog) (table : String) : Bool :=
  c.keys.any fun k => k.owner ≠ table && k.referenced = table

/-- Applies a change, or refuses it. -/
def apply (c : KeyedCatalog) (change : Change) : Except Refusal KeyedCatalog :=
  match (dropped? change).filter c.isReferenced with
  | some table => .error (.tableReferenced table)
  | none =>
    (c.catalog.apply change).map fun catalog =>
      ⟨catalog, (keysAfter c.keys change).filter (catalog.hasTable ·.owner),
        fun _ hk => (List.mem_filter.mp hk).2⟩

/-- The session on a keyed catalog whose current database has this name. -/
def session (d : Dialect) (database : String) : Session KeyedCatalog where
  execute change := fun c =>
    match c.apply change with
    | .ok changed => .ok () changed
    | .error refusal => .error (.exec (change.sql d) refusal.message) c
  query q := fun c => .ok (c.catalog.answer database q) c

end KeyedCatalog

end SchemaMigration
