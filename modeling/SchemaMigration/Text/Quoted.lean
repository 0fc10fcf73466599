/-!
# Quoted text

A quoted text stands between two quotes, and each character of a given class is written twice
inside.
-/

namespace SchemaMigration.Text

/-- Writes each character of the class `special` twice and all others once. -/
def doubled (special : Char → Bool) : List Char → List Char
  | [] => []
  | c :: cs => if special c then c :: c :: doubled special cs else c :: doubled special cs

/-- A text between two quotes, with its special characters doubled. -/
def quoted (quote : Char) (special : Char → Bool) (s : String) : String :=
  String.ofList (quote :: (doubled special s.toList ++ [quote]))

end SchemaMigration.Text
