import SchemaMigration.Toml.Text

/-!
# Flat settings in TOML

A document of settings is a list of lines `key = value`, where keys are simple and values are truth
values or texts.  Blank lines and comments may stand anywhere.  Tables, arrays, numbers, dates and
dotted keys are TOML too, but settle nothing here, so a document with one of them is refused.
-/

namespace SchemaMigration.Toml

/-- The value of a setting. -/
inductive Scalar
  | bool (b : Bool)
  | text (s : String)
deriving DecidableEq, Repr, Inhabited

/-- A character of a key that is not quoted. -/
def isKeyChar (c : Char) : Bool := c.isAlphanum || c = '-' || c = '_'

/-- A simple key, quoted on one line or not quoted at all. -/
def key? (cs : List Char) : Option (String × List Char) :=
  match cs with
  | '\x22' :: _ | '\x27' :: _ => (lineText? cs).map fun (text, rest) => (String.ofList text, rest)
  | _ =>
    match cs.takeWhile isKeyChar with
    | [] => none
    | key => some (String.ofList key, cs.dropWhile isKeyChar)

/-- A truth value or a quoted text. -/
def scalar? : List Char → Option (Scalar × List Char)
  | 't' :: 'r' :: 'u' :: 'e' :: cs => some (.bool true, cs)
  | 'f' :: 'a' :: 'l' :: 's' :: 'e' :: cs => some (.bool false, cs)
  | cs => (text? cs).map fun (text, rest) => (.text (String.ofList text), rest)

/-- What follows the end of a line, where nothing but blanks and a comment may stand before it.  The
end of the input ends a line. -/
def lineEnd? (cs : List Char) : Option (List Char) :=
  let rest := match cs.dropWhile isSpace with
    | '#' :: comment => comment.dropWhile isPrintable
    | other => other
  match rest with
  | [] => some []
  | _ => newline? rest

/-- One setting, up to the end of its line. -/
def setting? (cs : List Char) : Option ((String × Scalar) × List Char) := do
  let (key, cs) ← key? cs
  match cs.dropWhile isSpace with
  | '=' :: cs =>
    let (value, cs) ← scalar? (cs.dropWhile isSpace)
    let cs ← lineEnd? cs
    pure ((key, value), cs)
  | _ => none

/-- The settings of a document with at most this many lines. -/
def settingsWithin? : Nat → List Char → Option (List (String × Scalar))
  | 0, _ => none
  | lines + 1, cs =>
    match cs.dropWhile isSpace with
    | [] => some []
    | cs =>
      match lineEnd? cs with
      | some rest => settingsWithin? lines rest
      | none =>
        match setting? cs with
        | none => none
        | some (entry, rest) => (settingsWithin? lines rest).map (entry :: ·)

/-- The settings of a document, in order.  Every line but the last takes up a character, so that no
document has more lines than characters by more than one.  A byte order mark at the start is no part
of the document. -/
def settings? (document : String) : Option (List (String × Scalar)) :=
  let cs := match document.toList with
    | '\uFEFF' :: cs => cs
    | cs => cs
  settingsWithin? (cs.length + 1) cs

end SchemaMigration.Toml
