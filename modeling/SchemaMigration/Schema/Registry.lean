import SchemaMigration.Schema.Error
import SchemaMigration.Schema.Model

/-!
# Registries and references to models

A registry keeps the descriptions behind the handles.  A caller refers to a model by a literal table
name, by a handle, or by handing over a description.
-/

namespace SchemaMigration

/-- The descriptions behind a finite family of handles, by slot.  A description may have failed. -/
structure Registry where
  entries : Array (Except SchemaError Model) := #[]
deriving Inhabited

namespace Registry

/-- The description behind a handle. -/
def describe (reg : Registry) (s : Source) : Except SchemaError Model :=
  match reg.entries[s.slot]? with
  | some description => description
  | none => .error (.unresolvedModel s.name "no such definition")

/-- Keeps one more description, and gives the handle to it. -/
def register (reg : Registry) (name : String) (description : Except SchemaError Model) :
    Source × Registry :=
  (⟨name, reg.entries.size⟩, ⟨reg.entries.push description⟩)

/-- The tables of all descriptions that did not fail. -/
def tables (reg : Registry) : List String :=
  reg.entries.toList.filterMap fun
    | .ok m => some m.table
    | .error _ => none

end Registry

/-- How a caller refers to a model. -/
inductive ModelRef
  /-- A table name without a description. -/
  | table (name : String)
  /-- A model described by a registry. -/
  | source (s : Source)
  /-- A description at hand. -/
  | model (m : Model)
deriving Inhabited

namespace ModelRef

/-- The name to show: the table, or the name of the handle. -/
def name : ModelRef → String
  | table name => name
  | source s => s.name
  | model m => m.table

/-- The literal table name, if the reference is one. -/
def literal? : ModelRef → Option String
  | table name => some name
  | _ => none

/-- References are the same when both or neither are literal and they show the same name. -/
instance : BEq ModelRef where
  beq a b := a.literal?.isSome == b.literal?.isSome && a.name == b.name

end ModelRef

/-- A reference after its description has been looked up. -/
inductive ResolvedModel
  /-- A literal table name. -/
  | table (name : String)
  /-- A described model. -/
  | model (m : Model)
deriving BEq, Repr, Inhabited

namespace ResolvedModel

/-- The name of the table. -/
def tableName : ResolvedModel → String
  | table name => name
  | model m => m.table

/-- The description, if there is one. -/
def description? : ResolvedModel → Option Model
  | table _ => none
  | model m => some m

/-- The reference that resolves to this model again. -/
def toRef : ResolvedModel → ModelRef
  | table name => .table name
  | model m => .model m

end ResolvedModel

/-- Looks up the description behind a reference. -/
def ModelRef.resolve (reg : Registry) : ModelRef → Except SchemaError ResolvedModel
  | .table name => .ok (.table name)
  | .source s => (reg.describe s).map .model
  | .model m => .ok (.model m)

end SchemaMigration
