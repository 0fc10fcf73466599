import SchemaMigration.Sql.Value

/-!
# Statements

A statement is a template in which each question mark stands for the next argument.  Statements are
put together from fragments; nothing is rendered until a dialect is known.
-/

namespace SchemaMigration

/-- What fills a question mark of a template. -/
inductive Argument
  /-- A table name, which may be qualified by a schema. -/
  | table (name : String)
  | column (name : String)
  /-- The name of a constraint or an index. -/
  | label (name : String)
  /-- Column names in parentheses. -/
  | columns (names : List String)
  /-- A fragment taken as it is. -/
  | raw (sql : String)
  /-- Fragments in parentheses, each taken as it is. -/
  | rawList (parts : List String)
  /-- A bound value. -/
  | value (v : Value)
deriving DecidableEq, Repr, Inhabited

/-- A template and the arguments for its question marks. -/
structure Statement where
  template : String
  arguments : List Argument := []
deriving DecidableEq, Repr, Inhabited

namespace Statement

/-- Two fragments one after the other. -/
instance : Append Statement where
  append a b := ⟨a.template ++ b.template, a.arguments ++ b.arguments⟩

/-- The fragment without text. -/
def empty : Statement := ⟨"", []⟩

/-- Fragments with a separator between consecutive ones. -/
def join (separator : String) : List Statement → Statement
  | [] => empty
  | [part] => part
  | part :: next :: rest => part ++ ⟨separator, []⟩ ++ join separator (next :: rest)

@[simp] theorem template_append (a b : Statement) :
    (a ++ b).template = a.template ++ b.template := rfl

@[simp] theorem arguments_append (a b : Statement) :
    (a ++ b).arguments = a.arguments ++ b.arguments := rfl

end Statement

end SchemaMigration
