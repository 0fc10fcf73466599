import SchemaMigration.Proofs.Sql.PrimaryKey
import SchemaMigration.Proofs.Text.Quoted

/-!
# Text literals

In a literal of MySQL a quote is written as two quotes and a backslash as two backslashes.  The
server reads a literal from its opening quote on, and knows no more than these two rules: so runs of
backslashes in front of a quote, and quotes at the ends of the text, must not make a literal end
early or late.  The literals that are written are read as the texts they stand for, up to their last
character and not beyond, and there are no others (`Mysql.literals_roundTrip`).  In particular the
default value of a textual column arrives as it was given.
-/

namespace SchemaMigration.Mysql

/-- The characters that are written twice in a literal. -/
def isEscaped (c : Char) : Bool := c = '\x27' || c = '\x5c'

/-- Reads a literal from its opening quote on: its text, and what comes behind it. -/
def readLiteral (text : String) : Option (String × String) :=
  (Text.unquote '\x27' isEscaped text.toList).map fun read =>
    (String.ofList read.1, String.ofList read.2)

variable {c : Column} {table type value s text rest : String}

/-- A literal is its text with the backslashes doubled first and then the quotes. -/
theorem toList_quoteLiteral (s : String) :
    (dialect.quoteLiteral s).toList =
      '\x27' :: (Text.doubled (· = '\x27') (Text.doubled (· = '\x5c') s.toList) ++ ['\x27']) := by
  have hapart : ∀ c : Char, decide (c = '\x5c') = true → decide (c = '\x27') = false := by
    intro c hc
    rw [of_decide_eq_true hc]
    decide
  rw [Text.doubled_doubled hapart]
  exact Text.toList_quoted _ _ s

theorem toList_quoteLiteral_append (s rest : String) :
    (dialect.quoteLiteral s ++ rest).toList =
      '\x27' :: (Text.doubled isEscaped s.toList ++ '\x27' :: rest.toList) := by
  rw [String.toList_append]
  exact Text.toList_quoted_append _ _ s rest.toList

/-- What is read is a literal, and every literal is read. -/
theorem readLiteral_eq_some_iff :
    readLiteral text = some (s, rest) ↔
      text = dialect.quoteLiteral s ++ rest ∧ rest.toList.head? ≠ some '\x27' := by
  have hquote : isEscaped '\x27' = true := by decide
  rw [← String.toList_inj, toList_quoteLiteral_append, readLiteral, Option.map_eq_some_iff]
  constructor
  · rintro ⟨⟨chars, left⟩, hread, heq⟩
    cases heq
    rw [String.toList_ofList, String.toList_ofList]
    exact (Text.unquote_eq_some_iff hquote).mp hread
  · intro h
    exact ⟨_, (Text.unquote_eq_some_iff hquote).mpr h, by simp⟩

/-- The type of a textual column with a default ends in a literal. -/
theorem fullColumnType_textual (htextual : c.dataType.isTextual = true)
    (hdefault : c.default = some value) (hvalue : value ≠ "")
    (htype : dialect.columnType table c = .ok type) :
    dialect.fullColumnType table c =
      .ok (type ++ c.flags ++ " DEFAULT " ++ dialect.quoteLiteral value) := by
  have hsome : c.default? = some value := by simp [Column.default?, hdefault, hvalue]
  have hclause : dialect.defaultClause c = " DEFAULT " ++ dialect.quoteLiteral value := by
    rw [Dialect.defaultClause, hsome]
    simp [htextual]
  rw [Dialect.fullColumnType, htype, Dialect.columnAttributes, hclause]
  simp [Except.map, Column.flags, String.append_assoc]

/-- **Literals are read back.**  Whatever follows a literal, as long as it does not begin with a
quote, exactly the literal is read, as the text that it was written for; and nothing else is read as
a literal of that text.  The type of a textual column with a default is its type, the attributes
that are set, and a literal that is read as the default and ends the clause. -/
theorem literals_roundTrip :
    (∀ s text rest, readLiteral text = some (s, rest) ↔
      text = dialect.quoteLiteral s ++ rest ∧ rest.toList.head? ≠ some '\x27') ∧
    ∀ (table : String) (c : Column) (type value : String),
      c.dataType = .string ∨ c.dataType = .uuid → c.default = some value → value ≠ "" →
      dialect.columnType table c = .ok type →
      ∃ literal,
        dialect.fullColumnType table c = .ok (type ++ c.flags ++ " DEFAULT " ++ literal) ∧
        ∀ rest : String, rest.toList.head? ≠ some '\x27' →
          readLiteral (literal ++ rest) = some (value, rest) := by
  refine ⟨fun s text rest => readLiteral_eq_some_iff, ?_⟩
  intro table c type value htextual hdefault hvalue htype
  have htextual : c.dataType.isTextual = true := by
    rcases htextual with h | h <;> rw [h] <;> rfl
  refine ⟨dialect.quoteLiteral value, fullColumnType_textual htextual hdefault hvalue htype, ?_⟩
  intro rest hrest
  exact readLiteral_eq_some_iff.mpr ⟨rfl, hrest⟩

/-- A default that ends in a backslash and two quotes, followed by a comment. -/
theorem literals_roundTrip_at_ends :
    readLiteral "'it''s \\\\''''' COMMENT ''" = some ("it's \\''", " COMMENT ''") ∧
      ∃ literal,
        dialect.fullColumnType "notes"
            { field := "Text", name := "text", dataType := .string, notNull := true,
              default := some "it's \\''" } =
          .ok ("longtext" ++ " NOT NULL" ++ " DEFAULT " ++ literal) ∧
        readLiteral (literal ++ " COMMENT ''") = some ("it's \\''", " COMMENT ''") := by
  constructor
  · exact (literals_roundTrip.1 _ _ _).mpr ⟨by decide, by decide⟩
  · obtain ⟨literal, hfull, hread⟩ := literals_roundTrip.2 "notes"
      { field := "Text", name := "text", dataType := .string, notNull := true,
        default := some "it's \\''" }
      "longtext" "it's \\''" (.inl rfl) rfl (by decide) (by decide)
    exact ⟨literal, hfull, hread _ (by decide)⟩

end SchemaMigration.Mysql
