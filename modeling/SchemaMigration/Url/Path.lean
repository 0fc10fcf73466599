import SchemaMigration.Text.Search
import SchemaMigration.Url.Encoding

/-!
# Paths

A path is a sequence of segments, each behind a slash.  A segment of one dot is left out, and one of
two dots takes the segment before it away.
-/

namespace SchemaMigration.Url

/-- A segment in which dots in percent form are written as dots. -/
def plainDots : List Char → List Char
  | '%' :: '2' :: 'e' :: cs | '%' :: '2' :: 'E' :: cs => '.' :: plainDots cs
  | c :: cs => c :: plainDots cs
  | [] => []

/-- The segment for the same place. -/
def isSingleDot (segment : List Char) : Bool := plainDots segment = ['.']

/-- The segment for the place above. -/
def isDoubleDot (segment : List Char) : Bool := plainDots segment = ['.', '.']

/-- A segment that names a drive cannot be taken away. -/
def isDrive : List Char → Bool
  | [letter, mark] => letter.isAlpha && (mark = ':' || mark = '|')
  | letter :: mark :: next :: _ => letter.isAlpha && (mark = ':' || mark = '|') && next = '\x5C'
  | _ => false

/-- The segments without the last one. -/
def leave (segments : List (List Char)) : List (List Char) :=
  match segments.getLast? with
  | some segment => if isDrive segment then segments else segments.dropLast
  | none => []

/-- Walks along the segments; `walked` holds the segments so far.  A path that ends in dots ends in
a slash. -/
def walkSegments (walked : List (List Char)) : List (List Char) → List (List Char)
  | [] => walked
  | [last] =>
    if isDoubleDot last then leave walked ++ [[]]
    else if isSingleDot last then walked ++ [[]]
    else walked ++ [last]
  | segment :: rest =>
    if isDoubleDot segment then walkSegments (leave walked) rest
    else if isSingleDot segment then walkSegments walked rest
    else walkSegments (walked ++ [segment]) rest

/-- The path with these segments, percent-encoded. -/
def hierarchicalPath (segments : List (List Char)) : List Char :=
  (walkSegments [] (segments.map (Text.percentEncode isPathSpecial))).flatMap ('/' :: ·)

end SchemaMigration.Url
