import SchemaMigration.Sql.Dialect

/-!
# Rendering of statements

A statement is rendered in one pass over its template: each question mark takes the next argument,
and nothing inside a filled-in argument is looked at again.  A question mark without an argument
stays as it is.  Values are either written into the text, or left as question marks and collected.
-/

namespace SchemaMigration

/-- Texts in parentheses, separated by commas. -/
def parenthesized (parts : List String) : String := "(" ++ ",".intercalate parts ++ ")"

namespace Argument

/-- An argument that is no value as a piece of text; `onValue` says what becomes of a value. -/
def write (d : Dialect) (onValue : Value → String × List Value) : Argument → String × List Value
  | table name => (d.quoteTable name, [])
  | column name => (d.quoteIdentifier name, [])
  | label name => (d.quoteIdentifier name, [])
  | columns names => (parenthesized (names.map d.quoteIdentifier), [])
  | raw sql => (sql, [])
  | rawList parts => (parenthesized parts, [])
  | value v => onValue v

/-- An argument with a value left open. -/
def bound (d : Dialect) : Argument → String × List Value := write d fun v => ("?", [v])

/-- An argument with a value written out. -/
def inlined (d : Dialect) : Argument → String × List Value := write d fun v => (d.inlineValue v, [])

end Argument

namespace Statement

/-- The characters of a template with its question marks filled, and what the arguments that were
used left to bind. -/
def fill (write : Argument → String × List Value) :
    List Char → List Argument → List Char × List Value
  | [], _ => ([], [])
  | c :: cs, arguments =>
    if c = '?' then
      match arguments with
      | [] =>
        let rest := fill write cs []
        ('?' :: rest.1, rest.2)
      | a :: others =>
        let rest := fill write cs others
        ((write a).1.toList ++ rest.1, (write a).2 ++ rest.2)
    else
      let rest := fill write cs arguments
      (c :: rest.1, rest.2)

/-- The text with question marks for the values, and the values in order. -/
def render (d : Dialect) (s : Statement) : String × List Value :=
  let filled := fill (Argument.bound d) s.template.toList s.arguments
  (String.ofList filled.1, filled.2)

/-- The text with the values written out. -/
def sql (d : Dialect) (s : Statement) : String :=
  String.ofList (fill (Argument.inlined d) s.template.toList s.arguments).1

end Statement

end SchemaMigration
