/-!
# Blank characters

Which characters count as blank, and the removal of blanks at both ends of a text.  Blank means
the Unicode property `White_Space`, so that a no-break space or an ideographic space is blank, and
a zero-width space is not.
-/

namespace SchemaMigration.Text

/-- The code points of the property `White_Space`, as closed ranges in increasing order. -/
def blankRanges : List (Nat × Nat) :=
  [(0x09, 0x0D), (0x20, 0x20), (0x85, 0x85), (0xA0, 0xA0), (0x1680, 0x1680), (0x2000, 0x200A),
    (0x2028, 0x2029), (0x202F, 0x202F), (0x205F, 0x205F), (0x3000, 0x3000)]

/-- A character is blank when its code point lies in one of the ranges. -/
def isBlankChar (c : Char) : Bool :=
  blankRanges.any fun r => r.1 ≤ c.toNat && c.toNat ≤ r.2

/-- A text is blank when it holds blank characters only; the empty text is blank. -/
def isBlank (s : String) : Bool := s.toList.all isBlankChar

/-- Drops the blanks at both ends of a list of characters. -/
def trimChars (cs : List Char) : List Char :=
  (((cs.dropWhile isBlankChar).reverse).dropWhile isBlankChar).reverse

/-- Drops the blanks at both ends of a text. -/
def trim (s : String) : String := String.ofList (trimChars s.toList)

/-- Dropping a class of elements leaves nothing exactly when there is nothing outside the class. -/
theorem dropWhile_eq_nil_iff_all {α : Type} (p : α → Bool) (xs : List α) :
    xs.dropWhile p = [] ↔ xs.all p = true := by
  induction xs with
  | nil => simp
  | cons x xs ih =>
    rw [List.dropWhile_cons, List.all_cons]
    cases hx : p x <;> simp [ih]

/-- A text is blank exactly when trimming leaves nothing of it. -/
theorem trimChars_eq_nil_iff (cs : List Char) : trimChars cs = [] ↔ cs.all isBlankChar = true := by
  constructor
  · intro h
    have hall : (cs.dropWhile isBlankChar).all isBlankChar = true := by
      rw [← List.all_reverse, ← dropWhile_eq_nil_iff_all]
      simpa [trimChars] using h
    cases hd : cs.dropWhile isBlankChar with
    | nil => exact (dropWhile_eq_nil_iff_all _ _).1 hd
    | cons c rest =>
      have hc : isBlankChar c = true := by simp_all
      have hnot := List.head?_dropWhile_not isBlankChar cs
      simp_all
  · intro h
    simp [trimChars, (dropWhile_eq_nil_iff_all _ _).2 h]

theorem trim_eq_empty_iff (s : String) : trim s = "" ↔ isBlank s = true := by
  rw [isBlank, ← trimChars_eq_nil_iff, trim]
  exact String.ofList_eq_empty_iff

end SchemaMigration.Text
