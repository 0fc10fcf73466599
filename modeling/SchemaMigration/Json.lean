/-!
# JSON values

The data exchanged as JSON, and the ways of taking a value apart that readers of records and
variants are made of.
-/

namespace SchemaMigration

/-- A JSON value.  A number is `mantissa / 10 ^ places`, so that whole numbers written without a
fraction have no places. -/
inductive Json
  | null
  | bool (b : Bool)
  | number (mantissa : Int) (places : Nat)
  | string (s : String)
  | array (items : List Json)
  | object (members : List (String × Json))
deriving Repr, Inhabited

namespace Json

/-- A whole number. -/
def ofNat (n : Nat) : Json := .number (Int.ofNat n) 0

/-- A value that may be absent; absence is written as `null`. -/
def ofOption {α : Type} (write : α → Json) : Option α → Json
  | some a => write a
  | none => .null

/-- A list of values. -/
def ofList {α : Type} (write : α → Json) (xs : List α) : Json := .array (xs.map write)

/-- A text. -/
def string? : Json → Option String
  | string s => some s
  | _ => none

/-- A truth value. -/
def bool? : Json → Option Bool
  | bool b => some b
  | _ => none

/-- A whole number of 32 bits. -/
def uint32? : Json → Option UInt32
  | number (.ofNat n) 0 => if n < UInt32.size then some (UInt32.ofNat n) else none
  | _ => none

/-- A list whose items can all be read. -/
def list? {α : Type} (read : Json → Option α) : Json → Option (List α)
  | array items => items.mapM read
  | _ => none

/-- The members of a record with these fields.  A record may also be written as the array of its
fields in order. -/
def members? (fields : List String) : Json → Option (List (String × Json))
  | object members => some members
  | array items => if items.length = fields.length then some (fields.zip items) else none
  | _ => none

/-- A field that must be there. -/
def required {α : Type} (members : List (String × Json)) (field : String)
    (read : Json → Option α) : Option α :=
  (members.lookup field).bind read

/-- A field that may be missing or `null`. -/
def optional {α : Type} (members : List (String × Json)) (field : String)
    (read : Json → Option α) : Option (Option α) :=
  match members.lookup field with
  | none | some .null => some none
  | some value => (read value).map some

/-- One of several named alternatives: its name, or an object with the name and a content. -/
def variant? : Json → Option (String × Option Json)
  | string name => some (name, none)
  | object [(name, content)] => some (name, some content)
  | _ => none

/-- The name of an alternative without content, which may be written as `null`. -/
def unitVariant? (j : Json) : Option String :=
  match j.variant? with
  | some (name, none) => some name
  | some (name, some .null) => some name
  | _ => none

end Json

end SchemaMigration
