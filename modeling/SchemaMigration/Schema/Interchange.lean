import SchemaMigration.Json
import SchemaMigration.Schema.Model

/-!
# Models as JSON

How models are written as JSON and read back.  Every field is written, an unset option as `null`.
The handles to other models mean nothing outside a registry, so they are left out, and a model that
is read has none.  Reading does not validate.
-/

namespace SchemaMigration

namespace DataType

/-- A type as JSON. -/
def toJson : DataType → Json
  | bool => .string "Bool"
  | int => .string "Int"
  | uint => .string "Uint"
  | float => .string "Float"
  | string => .string "String"
  | time => .string "Time"
  | bytes => .string "Bytes"
  | json => .string "Json"
  | uuid => .string "Uuid"
  | custom name => .object [("Custom", .string name)]

/-- The type of a name, except for custom types. -/
def ofName? : String → Option DataType
  | "Bool" => some bool
  | "Int" => some int
  | "Uint" => some uint
  | "Float" => some float
  | "String" => some string
  | "Time" => some time
  | "Bytes" => some bytes
  | "Json" => some json
  | "Uuid" => some uuid
  | _ => none

/-- Reads a type. -/
def ofJson? (j : Json) : Option DataType :=
  match j.variant? with
  | some ("Custom", some (.string name)) => some (custom name)
  | _ => j.unitVariant?.bind ofName?

end DataType

namespace Column

/-- The fields of a column in order. -/
def fields : List String :=
  ["field", "name", "data_type", "db_type", "size", "precision", "scale", "primary_key",
    "auto_increment", "not_null", "unique", "default_value"]

/-- A number as JSON. -/
def sizeToJson (n : UInt32) : Json := .ofNat n.toNat

/-- A column as JSON. -/
def toJson (c : Column) : Json := .object
  [("field", .string c.field),
    ("name", .string c.name),
    ("data_type", c.dataType.toJson),
    ("db_type", .ofOption .string c.explicitType),
    ("size", .ofOption sizeToJson c.size),
    ("precision", .ofOption sizeToJson c.precision),
    ("scale", .ofOption sizeToJson c.scale),
    ("primary_key", .bool c.primaryKey),
    ("auto_increment", .bool c.autoIncrement),
    ("not_null", .bool c.notNull),
    ("unique", .bool c.unique),
    ("default_value", .ofOption .string c.default)]

/-- Reads a column. -/
def ofJson? (j : Json) : Option Column := do
  let ms ← j.members? fields
  let field ← Json.required ms "field" Json.string?
  let name ← Json.required ms "name" Json.string?
  let dataType ← Json.required ms "data_type" DataType.ofJson?
  let explicitType ← Json.optional ms "db_type" Json.string?
  let size ← Json.optional ms "size" Json.uint32?
  let precision ← Json.optional ms "precision" Json.uint32?
  let scale ← Json.optional ms "scale" Json.uint32?
  let primaryKey ← Json.required ms "primary_key" Json.bool?
  let autoIncrement ← Json.required ms "auto_increment" Json.bool?
  let notNull ← Json.required ms "not_null" Json.bool?
  let unique ← Json.required ms "unique" Json.bool?
  let default ← Json.optional ms "default_value" Json.string?
  pure { field, name, dataType, explicitType, size, precision, scale, primaryKey, autoIncrement,
         notNull, unique, default }

end Column

namespace SortOrder

/-- A direction as JSON. -/
def toJson : SortOrder → Json
  | ascending => .string "Asc"
  | descending => .string "Desc"

/-- Reads a direction. -/
def ofJson? (j : Json) : Option SortOrder :=
  match j.unitVariant? with
  | some "Asc" => some ascending
  | some "Desc" => some descending
  | _ => none

end SortOrder

namespace IndexEntry

/-- The fields of an index entry in order. -/
def fields : List String := ["column", "expression", "length", "collate", "sort"]

/-- An index entry as JSON. -/
def toJson (e : IndexEntry) : Json := .object
  [("column", .string e.column),
    ("expression", .ofOption .string e.expression),
    ("length", .ofOption Column.sizeToJson e.length),
    ("collate", .ofOption .string e.collation),
    ("sort", .ofOption SortOrder.toJson e.sort)]

/-- Reads an index entry. -/
def ofJson? (j : Json) : Option IndexEntry := do
  let ms ← j.members? fields
  let column ← Json.required ms "column" Json.string?
  let expression ← Json.optional ms "expression" Json.string?
  let length ← Json.optional ms "length" Json.uint32?
  let collation ← Json.optional ms "collate" Json.string?
  let sort ← Json.optional ms "sort" SortOrder.ofJson?
  pure { column, expression, length, collation, sort }

end IndexEntry

namespace Index

/-- The fields of an index in order. -/
def fields : List String := ["name", "fields", "class", "index_type", "comment"]

/-- An index as JSON. -/
def toJson (i : Index) : Json := .object
  [("name", .string i.name),
    ("fields", .ofList IndexEntry.toJson i.entries),
    ("class", .ofOption .string i.kind),
    ("index_type", .ofOption .string i.method),
    ("comment", .ofOption .string i.comment)]

/-- Reads an index. -/
def ofJson? (j : Json) : Option Index := do
  let ms ← j.members? fields
  let name ← Json.required ms "name" Json.string?
  let entries ← Json.required ms "fields" (Json.list? IndexEntry.ofJson?)
  let kind ← Json.optional ms "class" Json.string?
  let method ← Json.optional ms "index_type" Json.string?
  let comment ← Json.optional ms "comment" Json.string?
  pure { name, entries, kind, method, comment }

end Index

namespace Check

/-- The fields of a check in order. -/
def fields : List String := ["name", "expression", "field"]

/-- A check as JSON. -/
def toJson (c : Check) : Json := .object
  [("name", .string c.name),
    ("expression", .string c.expression),
    ("field", .ofOption .string c.field)]

/-- Reads a check. -/
def ofJson? (j : Json) : Option Check := do
  let ms ← j.members? fields
  let name ← Json.required ms "name" Json.string?
  let expression ← Json.required ms "expression" Json.string?
  let field ← Json.optional ms "field" Json.string?
  pure { name, expression, field }

end Check

namespace ReferentialAction

/-- An action as JSON. -/
def toJson : ReferentialAction → Json
  | cascade => .string "Cascade"
  | restrict => .string "Restrict"
  | noAction => .string "NoAction"
  | setNull => .string "SetNull"
  | setDefault => .string "SetDefault"

/-- Reads an action. -/
def ofJson? (j : Json) : Option ReferentialAction :=
  match j.unitVariant? with
  | some "Cascade" => some cascade
  | some "Restrict" => some restrict
  | some "NoAction" => some noAction
  | some "SetNull" => some setNull
  | some "SetDefault" => some setDefault
  | _ => none

end ReferentialAction

namespace ForeignKey

/-- The fields of a foreign key in order. -/
def fields : List String :=
  ["name", "table", "field", "foreign_keys", "reference_table", "references", "on_delete",
    "on_update"]

/-- A foreign key as JSON. -/
def toJson (k : ForeignKey) : Json := .object
  [("name", .string k.name),
    ("table", .string k.table),
    ("field", .ofOption .string k.field),
    ("foreign_keys", .ofList .string k.columns),
    ("reference_table", .string k.referencedTable),
    ("references", .ofList .string k.referencedColumns),
    ("on_delete", .ofOption ReferentialAction.toJson k.onDelete),
    ("on_update", .ofOption ReferentialAction.toJson k.onUpdate)]

/-- Reads a foreign key. -/
def ofJson? (j : Json) : Option ForeignKey := do
  let ms ← j.members? fields
  let name ← Json.required ms "name" Json.string?
  let table ← Json.required ms "table" Json.string?
  let field ← Json.optional ms "field" Json.string?
  let columns ← Json.required ms "foreign_keys" (Json.list? Json.string?)
  let referencedTable ← Json.required ms "reference_table" Json.string?
  let referencedColumns ← Json.required ms "references" (Json.list? Json.string?)
  let onDelete ← Json.optional ms "on_delete" ReferentialAction.ofJson?
  let onUpdate ← Json.optional ms "on_update" ReferentialAction.ofJson?
  pure { name, table, field, columns, referencedTable, referencedColumns, onDelete, onUpdate }

end ForeignKey

namespace RelationKind

/-- A kind of relationship as JSON. -/
def toJson : RelationKind → Json
  | belongsTo => .string "BelongsTo"
  | hasOne => .string "HasOne"
  | hasMany => .string "HasMany"
  | manyToMany => .string "ManyToMany"

/-- Reads a kind of relationship. -/
def ofJson? (j : Json) : Option RelationKind :=
  match j.unitVariant? with
  | some "BelongsTo" => some belongsTo
  | some "HasOne" => some hasOne
  | some "HasMany" => some hasMany
  | some "ManyToMany" => some manyToMany
  | _ => none

end RelationKind

namespace Relationship

/-- The fields of a relationship in order. -/
def fields : List String := ["name", "kind", "target_table", "constraint"]

/-- A relationship as JSON. -/
def toJson (r : Relationship) : Json := .object
  [("name", .string r.name),
    ("kind", r.kind.toJson),
    ("target_table", .string r.targetTable),
    ("constraint", .ofOption ForeignKey.toJson r.foreignKey)]

/-- Reads a relationship. -/
def ofJson? (j : Json) : Option Relationship := do
  let ms ← j.members? fields
  let name ← Json.required ms "name" Json.string?
  let kind ← Json.required ms "kind" RelationKind.ofJson?
  let targetTable ← Json.required ms "target_table" Json.string?
  let foreignKey ← Json.optional ms "constraint" ForeignKey.ofJson?
  pure { name, kind, targetTable, foreignKey }

end Relationship

namespace Model

/-- The fields of a model in order. -/
def fields : List String := ["table", "columns", "relationships", "indexes", "checks"]

/-- A model as JSON. -/
def toJson (m : Model) : Json := .object
  [("table", .string m.table),
    ("columns", .ofList Column.toJson m.columns),
    ("relationships", .ofList Relationship.toJson m.relationships),
    ("indexes", .ofList Index.toJson m.indexes),
    ("checks", .ofList Check.toJson m.checks)]

/-- Reads a model. -/
def ofJson? (j : Json) : Option Model := do
  let ms ← j.members? fields
  let table ← Json.required ms "table" Json.string?
  let columns ← Json.required ms "columns" (Json.list? Column.ofJson?)
  let relationships ← Json.required ms "relationships" (Json.list? Relationship.ofJson?)
  let indexes ← Json.required ms "indexes" (Json.list? Index.ofJson?)
  let checks ← Json.required ms "checks" (Json.list? Check.ofJson?)
  pure { table, columns, relationships, indexes, checks }

end Model

end SchemaMigration
