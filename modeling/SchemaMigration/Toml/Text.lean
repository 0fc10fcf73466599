import SchemaMigration.Text.Hex

/-!
# Quoted texts of TOML

The four ways of quoting a text: between double quotes, where a backslash escapes, or between single
quotes, where nothing does; and either of them between three quotes, where line breaks are part of
the text.  Reading gives the text and what follows its closing quotes.
-/

namespace SchemaMigration.Toml

/-- Spaces and tabs. -/
def isSpace (c : Char) : Bool := c = ' ' || c = '\t'

/-- Characters that may stand for themselves; all other control characters are refused. -/
def isPrintable (c : Char) : Bool := c = '\t' || (0x20 ≤ c.toNat && c.toNat ≠ 0x7F)

/-- The rest of the input after a line break: a line feed, with or without a carriage return. -/
def newline? : List Char → Option (List Char)
  | '\n' :: cs => some cs
  | '\r' :: '\n' :: cs => some cs
  | _ => none

/-- The character of this code point, if there is one. -/
def charOf? (n : Nat) : Option Char := if n.isValidChar then some (Char.ofNat n) else none

/-- The character that an escape sequence means, and what follows the sequence.  The backslash has
been read. -/
def escape? : List Char → Option (Char × List Char)
  | 'b' :: cs => some ('\x08', cs)
  | 't' :: cs => some ('\t', cs)
  | 'n' :: cs => some ('\n', cs)
  | 'f' :: cs => some ('\x0c', cs)
  | 'r' :: cs => some ('\r', cs)
  | '\x22' :: cs => some ('\x22', cs)
  | '\x5c' :: cs => some ('\x5c', cs)
  | 'u' :: cs =>
    if (cs.take 4).length = 4 then
      ((Text.readHex? (cs.take 4)).bind charOf?).map (·, cs.drop 4)
    else none
  | 'U' :: cs =>
    if (cs.take 8).length = 8 then
      ((Text.readHex? (cs.take 8)).bind charOf?).map (·, cs.drop 8)
    else none
  | _ => none

theorem length_le_of_escape? {cs rest : List Char} {c : Char} (h : escape? cs = some (c, rest)) :
    rest.length ≤ cs.length := by
  unfold escape? at h
  split at h
  all_goals first
    | (simp only [Option.some.injEq, Prod.mk.injEq] at h; obtain ⟨_, rfl⟩ := h; simp)
    | (split at h
       · simp only [Option.map_eq_some_iff, Prod.mk.injEq] at h
         obtain ⟨_, _, _, rfl⟩ := h
         simp only [List.length_drop, List.length_cons]
         omega
       · simp at h)
    | simp at h

/-- A text on one line, up to its closing quote.  With `escapes`, backslashes escape. -/
def singleLine? (quote : Char) (escapes : Bool) : List Char → Option (List Char × List Char)
  | [] => none
  | c :: cs =>
    if c = quote then some ([], cs)
    else if escapes && c = '\x5c' then
      match h : escape? cs with
      | none => none
      | some (x, rest) =>
        have : rest.length ≤ cs.length := length_le_of_escape? h
        (singleLine? quote escapes rest).map fun (text, rest) => (x :: text, rest)
    else if isPrintable c then
      (singleLine? quote escapes cs).map fun (text, rest) => (c :: text, rest)
    else none
termination_by cs => cs.length

/-- How a text between three quotes ends here: three quotes close it, and one or two more before
them belong to the text. -/
def closing? (quote : Char) (cs : List Char) : Option (List Char × List Char) :=
  let run := (cs.takeWhile (· = quote)).length
  if run < 3 then none
  else
    -- Of six quotes or more, those after the fifth are no part of the text.
    let inner := min (run - 3) 2
    some (List.replicate inner quote, cs.drop (inner + 3))

/-- Whether a backslash before this stands at the end of its line. -/
def endsLine (cs : List Char) : Bool := (newline? (cs.dropWhile isSpace)).isSome

/-- A text between three quotes, up to the closing ones.  A backslash at the end of a line takes
away all blanks and line breaks that follow; while they are taken away, `skipping` is set. -/
def multiLine? (quote : Char) (escapes : Bool) (skipping : Bool) :
    List Char → Option (List Char × List Char)
  | [] => none
  | c :: cs =>
    if skipping && (isSpace c || c = '\n') then multiLine? quote escapes true cs
    else if skipping && c = '\r' && (newline? (c :: cs)).isSome then
      multiLine? quote escapes true cs
    else
      match closing? quote (c :: cs) with
      | some result => some result
      | none =>
        if escapes && c = '\x5c' then
          if endsLine cs then multiLine? quote escapes true cs
          else
            match h : escape? cs with
            | none => none
            | some (x, rest) =>
              have : rest.length ≤ cs.length := length_le_of_escape? h
              (multiLine? quote escapes false rest).map fun (text, rest) => (x :: text, rest)
        else if isPrintable c || c = '\n' then
          (multiLine? quote escapes false cs).map fun (text, rest) => (c :: text, rest)
        else if (newline? (c :: cs)).isSome then multiLine? quote escapes false cs
        else none
termination_by cs => cs.length

/-- The text between three quotes; a line break right after the opening ones is no part of it. -/
def multiLineText? (quote : Char) (escapes : Bool) (cs : List Char) :
    Option (List Char × List Char) :=
  multiLine? quote escapes false ((newline? cs).getD cs)

/-- A quoted text on one line. -/
def lineText? : List Char → Option (List Char × List Char)
  | '\x22' :: cs => singleLine? '\x22' true cs
  | '\x27' :: cs => singleLine? '\x27' false cs
  | _ => none

/-- A quoted text of any kind. -/
def text? : List Char → Option (List Char × List Char)
  | '\x22' :: '\x22' :: '\x22' :: cs => multiLineText? '\x22' true cs
  | '\x27' :: '\x27' :: '\x27' :: cs => multiLineText? '\x27' false cs
  | cs => lineText? cs

end SchemaMigration.Toml
