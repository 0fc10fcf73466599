import SchemaMigration.Schema.Registry

/-!
# Dependency order

Puts models in an order in which every referenced table comes before the tables that reference it.
The order is found by a depth-first walk: before a table is placed, the tables that it depends on
are.  A table that is already on the way to itself is passed over, so that cycles are harmless and
each table is placed exactly once.

With discovery, a foreign key to a table that is not known yet leads to the model behind the key's
handle, which is then known as well.
-/

namespace SchemaMigration

/-- Adds a description under its table; an earlier one for the same table is replaced in place. -/
def describeTable (m : Model) : List Model → List Model
  | [] => [m]
  | known :: rest =>
    if known.table = m.table then m :: rest else known :: describeTable m rest

/-- A walk over the tables: the descriptions known so far, and the models placed so far. -/
structure Walk where
  known : List Model
  placed : List Model := []
deriving Inhabited

namespace Walk

/-- The description of a table, if it is known. -/
def model? (w : Walk) (table : String) : Option Model := w.known.find? (·.table = table)

/-- Whether a table is described. -/
def knows (w : Walk) (table : String) : Bool := w.known.any (·.table = table)

/-- Whether a table has its place in the order. -/
def hasPlaced (w : Walk) (table : String) : Bool := w.placed.any (·.table = table)

/-- Takes in a description; one that is known for the same table stays. -/
def learn (w : Walk) (m : Model) : Walk :=
  if w.knows m.table then w else { w with known := w.known ++ [m] }

/-- The table that a foreign key leads to, if it leads anywhere.  A referenced table that is not
known is looked up through the key's handle when `discover` is set; the table found there need not
be the referenced one. -/
def follow (reg : Registry) (discover : Bool) (w : Walk) (k : ForeignKey) :
    Except SchemaError (Walk × Option String) :=
  if w.knows k.referencedTable then .ok (w, some k.referencedTable)
  else
    match k.referencedModel with
    | none => .ok (w, none)
    | some s =>
      if discover then
        match reg.describe s with
        | .ok m => .ok (w.learn m, some m.table)
        | .error e => .error e
      else .ok (w, none)

/-- The tables other than this one. -/
def others (table : String) (tables : List String) : List String := tables.filter (· ≠ table)

theorem length_others_lt {table : String} {tables : List String} (h : table ∈ tables) :
    (others table tables).length < tables.length := by
  rw [others, List.length_filter_lt_length_iff_exists]
  exact ⟨table, h, by simp⟩

/-- Places a table after the tables that it depends on.  `fresh` holds the tables that are not on
the way to this one. -/
def place (reg : Registry) (discover : Bool) (fresh : List String) (w : Walk) (table : String) :
    Except SchemaError Walk :=
  if w.hasPlaced table then .ok w
  else if _h : table ∈ fresh then
    match w.model? table with
    | none => .ok w
    | some m =>
      -- The foreign keys are those of the description known now: what the walk learns on the way
      -- never replaces it.
      let visited : Except SchemaError Walk := m.dependencies.foldlM (fun w k =>
        match follow reg discover w k with
        | .error e => .error e
        | .ok (w, none) => .ok w
        | .ok (w, some next) => place reg discover (others table fresh) w next) w
      match visited with
      | .error e => .error e
      | .ok w => .ok { w with placed := w.placed ++ [m] }
  else .ok w
termination_by fresh.length
decreasing_by exact length_others_lt _h

end Walk

/-- The descriptions behind the references that are not literal, in the order of the references. -/
def describeAll (reg : Registry) : List ModelRef → Except SchemaError (List Model)
  | [] => .ok []
  | ref :: refs =>
    match ref.resolve reg with
    | .error e => .error e
    | .ok (.table _) => describeAll reg refs
    | .ok (.model m) =>
      match describeAll reg refs with
      | .error e => .error e
      | .ok ms => .ok (m :: ms)

/-- The literal table names, in the order of the references, and after them the described models in
dependency order.  Among models that do not depend on each other the order of the references
counts. -/
def order (reg : Registry) (discover : Bool) (refs : List ModelRef) :
    Except SchemaError (List ResolvedModel) :=
  match describeAll reg refs with
  | .error e => .error e
  | .ok listed =>
    let known := listed.foldl (fun known m => describeTable m known) []
    let roots := known.map (·.table)
    -- Every table that discovery can add is described in the registry.
    let fresh := roots ++ reg.tables
    match roots.foldlM (fun w table => w.place reg discover fresh table) { known : Walk } with
    | .error e => .error e
    | .ok w => .ok ((refs.filterMap (·.literal?)).map .table ++ w.placed.map .model)

end SchemaMigration
