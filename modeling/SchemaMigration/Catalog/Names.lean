/-!
# Sets of names

Finite sets of names, kept as a list in increasing order without repetitions.
-/

namespace SchemaMigration

/-- A set of names. -/
structure NameSet where
  names : List String := []
deriving DecidableEq, Repr, Inhabited

namespace NameSet

/-- Puts a name at its place in an increasing list. -/
def insertSorted (name : String) : List String → List String
  | [] => [name]
  | x :: xs =>
    if name = x then x :: xs
    else if name < x then name :: x :: xs
    else x :: insertSorted name xs

/-- Whether a name is in the set. -/
def contains (s : NameSet) (name : String) : Bool := s.names.contains name

/-- The set with a name. -/
def insert (s : NameSet) (name : String) : NameSet := ⟨insertSorted name s.names⟩

/-- The set without a name. -/
def erase (s : NameSet) (name : String) : NameSet := ⟨s.names.filter (· ≠ name)⟩

/-- The set of the names in a list. -/
def ofList (names : List String) : NameSet := names.foldl insert {}

theorem mem_insertSorted {a name : String} {xs : List String} :
    a ∈ insertSorted name xs ↔ a = name ∨ a ∈ xs := by
  induction xs with
  | nil => simp [insertSorted]
  | cons x xs ih =>
    rw [insertSorted]
    split
    · next h => subst h; simp
    · split
      · simp
      · rw [List.mem_cons, ih, List.mem_cons]
        constructor <;> rintro (h | h | h) <;> simp [h]

@[simp] theorem contains_insert (s : NameSet) (name a : String) :
    (s.insert name).contains a = (a = name ∨ s.contains a = true) := by
  simp [contains, insert, mem_insertSorted]

@[simp] theorem contains_erase (s : NameSet) (name a : String) :
    (s.erase name).contains a = (s.contains a = true ∧ a ≠ name) := by
  simp [contains, erase]

end NameSet

end SchemaMigration
