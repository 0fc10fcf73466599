import SchemaMigration.Schema.Interchange

/-!
# Models survive the exchange

A model that is written as JSON and read back is the same model without its handles, and is written
as the same JSON again (`Model.json_roundTrip`).  Handles mean nothing outside a registry; all else
survives, whatever its texts and numbers, and even if the model is not valid.

Writers and readers go together type by type: reading what was written succeeds with what is kept of
it, which for a type without handles is the value itself.  A record is read field by field.  An
unset option is not mistaken for a set one, because no value of its type is written as `null`.
-/

namespace SchemaMigration

namespace Json

variable {α : Type} {w : α → Json} {read : Json → Option α} {f : α → α}

/-! ## Fields of a record -/

@[simp] theorem members?_object (fields : List String) (ms : List (String × Json)) :
    members? fields (object ms) = some ms := rfl

theorem lookup_cons_of_ne {field other : String} (h : field ≠ other) (j : Json)
    (ms : List (String × Json)) : ((other, j) :: ms).lookup field = ms.lookup field := by
  rw [List.lookup_cons, beq_false_of_ne h]

/-- A field that must be there is read where it stands. -/
@[simp] theorem required_cons_self (field : String) (j : Json) (ms : List (String × Json)) :
    required ((field, j) :: ms) field read = read j := by
  rw [required, List.lookup_cons_self]
  rfl

@[simp] theorem required_cons_of_ne {field other : String} (h : field ≠ other) (j : Json)
    (ms : List (String × Json)) :
    required ((other, j) :: ms) field read = required ms field read := by
  rw [required, lookup_cons_of_ne h]
  rfl

@[simp] theorem optional_cons_of_ne {field other : String} (h : field ≠ other) (j : Json)
    (ms : List (String × Json)) :
    optional ((other, j) :: ms) field read = optional ms field read := by
  rw [optional, lookup_cons_of_ne h]
  rfl

/-- An option is read as it was written, unset or with what is kept of its value. -/
theorem optional_cons_ofOption (h : ∀ a, read (w a) = some (f a))
    (hnull : ∀ a, w a ≠ null) (field : String) (o : Option α) (ms : List (String × Json)) :
    optional ((field, ofOption w o) :: ms) field read = some (o.map f) := by
  rw [optional, List.lookup_cons_self]
  cases o with
  | none => rfl
  | some a =>
    rw [ofOption]
    split
    · next heq => cases heq
    · next heq => exact absurd (Option.some.inj heq) (hnull a)
    · next value _ heq =>
      cases heq
      rw [h a]
      rfl

/-- An option whose values survive survives. -/
theorem optional_cons_self (h : ∀ a, read (w a) = some a) (hnull : ∀ a, w a ≠ null)
    (field : String) (o : Option α) (ms : List (String × Json)) :
    optional ((field, ofOption w o) :: ms) field read = some o := by
  rw [optional_cons_ofOption (f := id) h hnull, Option.map_id, id]

@[simp] theorem optional_cons_string (field : String) (o : Option String)
    (ms : List (String × Json)) :
    optional ((field, ofOption string o) :: ms) field string? = some o :=
  optional_cons_self (w := string) (fun _ => rfl) (fun _ h => by cases h) field o ms

/-! ## Lists and numbers -/

/-- A list is read item by item. -/
theorem list?_ofList (h : ∀ a, read (w a) = some (f a)) (xs : List α) :
    list? read (ofList w xs) = some (xs.map f) := by
  show (xs.map w).mapM read = _
  induction xs with
  | nil => rfl
  | cons x xs ih => simp [h x, ih]

/-- A list of values that survive survives. -/
theorem list?_ofList_self (h : ∀ a, read (w a) = some a) (xs : List α) :
    list? read (ofList w xs) = some xs := by
  rw [list?_ofList (f := id) h, List.map_id]

@[simp] theorem list?_strings (xs : List String) : list? string? (ofList string xs) = some xs :=
  list?_ofList_self (w := string) (fun _ => rfl) xs

/-- Every number of 32 bits is in range. -/
theorem uint32?_sizeToJson (n : UInt32) : uint32? (Column.sizeToJson n) = some n := by
  show (if n.toNat < UInt32.size then some (UInt32.ofNat n.toNat) else none) = _
  rw [if_pos n.toNat_lt_size, UInt32.ofNat_toNat]

@[simp] theorem optional_cons_size (field : String) (o : Option UInt32)
    (ms : List (String × Json)) :
    optional ((field, ofOption Column.sizeToJson o) :: ms) field uint32? = some o :=
  optional_cons_self uint32?_sizeToJson (fun _ h => by cases h) field o ms

end Json

/-! ## Types without handles -/

@[simp] theorem DataType.ofJson?_toJson (t : DataType) : ofJson? t.toJson = some t := by
  cases t <;> rfl

@[simp] theorem SortOrder.ofJson?_toJson (o : SortOrder) : ofJson? o.toJson = some o := by
  cases o <;> rfl

@[simp] theorem SortOrder.optional_cons (field : String) (o : Option SortOrder)
    (ms : List (String × Json)) :
    Json.optional ((field, .ofOption toJson o) :: ms) field ofJson? = some o :=
  Json.optional_cons_self ofJson?_toJson (fun o h => by cases o <;> cases h) field o ms

@[simp] theorem ReferentialAction.ofJson?_toJson (a : ReferentialAction) :
    ofJson? a.toJson = some a := by
  cases a <;> rfl

@[simp] theorem ReferentialAction.optional_cons (field : String) (o : Option ReferentialAction)
    (ms : List (String × Json)) :
    Json.optional ((field, .ofOption toJson o) :: ms) field ofJson? = some o :=
  Json.optional_cons_self ofJson?_toJson (fun a h => by cases a <;> cases h) field o ms

@[simp] theorem RelationKind.ofJson?_toJson (k : RelationKind) : ofJson? k.toJson = some k := by
  cases k <;> rfl

theorem Column.ofJson?_toJson (c : Column) : ofJson? c.toJson = some c := by
  simp [ofJson?, toJson, Json.string?, Json.bool?]

theorem IndexEntry.ofJson?_toJson (e : IndexEntry) : ofJson? e.toJson = some e := by
  simp [ofJson?, toJson, Json.string?]

theorem Index.ofJson?_toJson (i : Index) : ofJson? i.toJson = some i := by
  have hentries := Json.list?_ofList_self IndexEntry.ofJson?_toJson i.entries
  simp [ofJson?, toJson, Json.string?, hentries]

theorem Check.ofJson?_toJson (c : Check) : ofJson? c.toJson = some c := by
  simp [ofJson?, toJson, Json.string?]

/-! ## Types with handles -/

/-- The key without the handle to the referenced model. -/
def ForeignKey.withoutHandle (k : ForeignKey) : ForeignKey := { k with referencedModel := none }

/-- The relationship without the handles of its key and of its join table. -/
def Relationship.withoutHandles (r : Relationship) : Relationship :=
  { r with foreignKey := r.foreignKey.map (·.withoutHandle), joinTable := none }

/-- The model without the handles of its relationships. -/
def Model.withoutHandles (m : Model) : Model :=
  { m with relationships := m.relationships.map (·.withoutHandles) }

theorem ForeignKey.ofJson?_toJson (k : ForeignKey) :
    ofJson? k.toJson = some k.withoutHandle := by
  simp [ofJson?, toJson, Json.string?, withoutHandle]

theorem Relationship.ofJson?_toJson (r : Relationship) :
    ofJson? r.toJson = some r.withoutHandles := by
  have hkey := Json.optional_cons_ofOption ForeignKey.ofJson?_toJson (fun _ h => by cases h)
    "constraint" r.foreignKey
  simp [ofJson?, toJson, Json.string?, hkey, withoutHandles]

/-- Handles are not written. -/
theorem Relationship.toJson_withoutHandles (r : Relationship) :
    r.withoutHandles.toJson = r.toJson := by
  obtain ⟨name, kind, target, key, join⟩ := r
  cases key <;> rfl

/-- **Models survive the exchange.**  Every model, valid or not, is read back from its JSON as the
model without its handles, with nothing else changed; and this is written as the same JSON. -/
theorem Model.json_roundTrip (m : Model) :
    ofJson? m.toJson = some m.withoutHandles ∧ m.withoutHandles.toJson = m.toJson := by
  constructor
  · have hcolumns := Json.list?_ofList_self Column.ofJson?_toJson m.columns
    have hrelationships := Json.list?_ofList Relationship.ofJson?_toJson m.relationships
    have hindexes := Json.list?_ofList_self Index.ofJson?_toJson m.indexes
    have hchecks := Json.list?_ofList_self Check.ofJson?_toJson m.checks
    simp [ofJson?, toJson, Json.string?, hcolumns, hrelationships, hindexes, hchecks,
      withoutHandles]
  · have hwritten : Json.ofList Relationship.toJson (m.relationships.map (·.withoutHandles)) =
        Json.ofList Relationship.toJson m.relationships := by
      simp [Json.ofList, Function.comp_def, Relationship.toJson_withoutHandles]
    rw [toJson, withoutHandles, hwritten, toJson]

end SchemaMigration
