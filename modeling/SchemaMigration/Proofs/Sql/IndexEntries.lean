import SchemaMigration.Proofs.Schema.Validation
import SchemaMigration.Proofs.Sql.CreateTable
import SchemaMigration.Proofs.Text.Quoted
import SchemaMigration.Sql.Mysql

/-!
# What index entries are written as

An entry that says what it indexes is written from its expression on, or else from its column in
quotes on (`Dialect.startsWell_of_says`).  Validation accepts every entry that says what it indexes,
and one kind of entry that does not: with an empty column, and with an expression that is set but
empty.  In an accepted model these entries, and no others, are written with nothing between the
quotes (`Model.IsBuilt.indexEntry_exact`).
-/

namespace SchemaMigration

variable {d : Dialect} {e : IndexEntry}

/-- The entry has a column or an expression that is not empty. -/
def IndexEntry.Says (e : IndexEntry) : Prop :=
  e.column ≠ "" ∨ ∃ x, e.expression = some x ∧ x ≠ ""

/-- The text of the entry starts with its expression, or else with its column in quotes, and what it
starts with is not empty. -/
inductive Dialect.StartsWell (d : Dialect) (e : IndexEntry) : Prop
  | expression {x rest : String} (set : e.expression = some x) (nonempty : x ≠ "")
      (text : d.indexEntry e = x ++ rest)
  | column {rest : String} (nonempty : e.column ≠ "")
      (quoted : d.quoteIdentifier e.column ≠ d.quoteIdentifier "")
      (text : d.indexEntry e = d.quoteIdentifier e.column ++ rest)

/-! ## The start of an entry -/

variable {quote : String → String}

theorem IndexEntry.text_of_expression {x : String} (hset : e.expression = some x) (hx : x ≠ "") :
    ∃ rest, e.text quote = x ++ rest := by
  have hsome : e.expression.filter (· ≠ "") = some x := by simp [hset, hx]
  rw [text, target, hsome, String.append_assoc]
  exact ⟨_, rfl⟩

/-- An empty expression counts as none. -/
theorem IndexEntry.text_of_column (h : ∀ x, e.expression = some x → x = "") :
    ∃ rest, e.text quote = quote e.column ++ rest := by
  have hnone : e.expression.filter (· ≠ "") = none := by
    simpa [Option.filter_eq_none_iff] using h
  rw [text, target, hnone, String.append_assoc, String.append_assoc]
  exact ⟨_, rfl⟩

/-- Where entries are written in the default way and the empty identifier in quotes is like no other,
an entry that says what it indexes starts with it. -/
theorem Dialect.startsWell_of_says (hentry : d.indexEntry = IndexEntry.text d.quoteIdentifier)
    (hquote : ∀ s, d.quoteIdentifier s = d.quoteIdentifier "" → s = "") (h : e.Says) :
    d.StartsWell e := by
  by_cases hx : ∃ x, e.expression = some x ∧ x ≠ ""
  · obtain ⟨x, hset, hne⟩ := hx
    obtain ⟨rest, htext⟩ := e.text_of_expression hset hne
    exact .expression hset hne ((congrFun hentry e).trans htext)
  · have hempty : ∀ x, e.expression = some x → x = "" := fun x hset =>
      Decidable.byContradiction fun hne => hx ⟨x, hset, hne⟩
    have hcolumn : e.column ≠ "" := h.resolve_right hx
    obtain ⟨rest, htext⟩ := e.text_of_column hempty
    exact .column hcolumn (mt (hquote e.column) hcolumn) ((congrFun hentry e).trans htext)

/-- Only the empty identifier has nothing between its quotes. -/
theorem Mysql.quoteIdentifier_eq_iff {s : String} :
    dialect.quoteIdentifier s = "``" ↔ s = "" := by
  have hempty : "``" = dialect.quoteIdentifier "" := by rfl
  rw [hempty]
  exact Text.quoted_inj (by decide)

/-! ## Accepted entries -/

variable {a : Model} {i : Index}

/-- Validation refuses an entry only if both its column and its expression are missing. -/
theorem Model.IsBuilt.says_iff (h : a.IsBuilt) (hi : i ∈ a.indexes) (he : e ∈ i.entries) :
    e.Says ↔ ¬ (e.column = "" ∧ e.expression = some "") := by
  have hsound := (h.wellFormed.indexes i hi).entries e he
  unfold IndexEntry.Says
  cases hexpression : e.expression with
  | none => simpa [hexpression] using hsound
  | some x => simp [Decidable.imp_iff_not_or]

/-- **What accepted index entries are written as.**  An entry of an accepted model says what it
indexes unless it has an empty column and an empty expression.  If it says so, its text starts with
the expression or with the quoted column, which are not empty; else its text starts with quotes that
have nothing between them. -/
theorem Model.IsBuilt.indexEntry_exact (h : a.IsBuilt) (hi : i ∈ a.indexes) (he : e ∈ i.entries) :
    (e.Says ↔ ¬ (e.column = "" ∧ e.expression = some "")) ∧
    (e.Says → Mysql.dialect.StartsWell e) ∧
    (¬ e.Says → ∃ rest, Mysql.dialect.indexEntry e = "``" ++ rest) := by
  have hquote : ∀ s, Mysql.dialect.quoteIdentifier s = Mysql.dialect.quoteIdentifier "" →
      s = "" := fun s hs =>
    Mysql.quoteIdentifier_eq_iff.mp (hs.trans (Mysql.quoteIdentifier_eq_iff.mpr rfl))
  refine ⟨h.says_iff hi he, Dialect.startsWell_of_says rfl hquote, fun hsilent => ?_⟩
  have hempty : e.column = "" ∧ e.expression = some "" :=
    Decidable.not_not.mp (mt (h.says_iff hi he).mpr hsilent)
  have hcolumn : ∃ rest, Mysql.dialect.indexEntry e =
      Mysql.dialect.quoteIdentifier e.column ++ rest :=
    e.text_of_column fun x hx => (Option.some.inj (hempty.2.symm.trans hx)).symm
  rwa [Mysql.quoteIdentifier_eq_iff.mpr hempty.1] at hcolumn

/-- An index whose last entry has an empty expression. -/
def titleIndex : Index where
  name := "idx_articles_title"
  entries := [
    { column := "title", length := some 10 },
    { expression := some "(lower(title))" },
    { expression := some "" }]

def articles : Model where
  table := "articles"
  columns := [{ field := "Title", name := "title", dataType := .string }]
  indexes := [titleIndex]

theorem articles_isBuilt : articles.IsBuilt := ⟨articles, by rfl⟩

theorem Model.IsBuilt.indexEntry_exact_articles :
    Mysql.dialect.StartsWell { column := "title", length := some 10 } ∧
      Mysql.dialect.StartsWell { expression := some "(lower(title))" } ∧
      ∃ rest, Mysql.dialect.indexEntry { expression := some "" } = "``" ++ rest := by
  have hindex : titleIndex ∈ articles.indexes := List.mem_singleton_self titleIndex
  have hcolumn := articles_isBuilt.indexEntry_exact hindex
    (e := { column := "title", length := some 10 }) (by decide)
  have hexpression := articles_isBuilt.indexEntry_exact hindex
    (e := { expression := some "(lower(title))" }) (by decide)
  have hsilent := articles_isBuilt.indexEntry_exact hindex (e := { expression := some "" })
    (by decide)
  refine ⟨hcolumn.2.1 (.inl (by decide)), hexpression.2.1 (.inr ⟨_, rfl, by decide⟩),
    hsilent.2.2 ?_⟩
  rw [hsilent.1]
  simp

/-- An accepted index is written with an entry that has nothing between its quotes. -/
theorem Model.IsBuilt.indexEntry_silent :
    articles.IsBuilt ∧ titleIndex ∈ articles.indexes ∧
      (∃ e ∈ titleIndex.entries, ¬ e.Says ∧ Mysql.dialect.indexEntry e = "``") ∧
      (Change.createIndex "articles" titleIndex).sql Mysql.dialect =
        "CREATE INDEX `idx_articles_title` ON `articles`(`title`(10),(lower(title)),``)" := by
  refine ⟨articles_isBuilt, List.mem_singleton_self _, ⟨{ expression := some "" }, by decide, ?_, ?_⟩,
    ?_⟩
  · simp [IndexEntry.Says]
  · decide
  · refine (titleIndex.creation_sql "articles").trans ?_
    decide +kernel

end SchemaMigration
