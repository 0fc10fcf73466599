import SchemaMigration.Text.Search
import SchemaMigration.Url.Domain.Label
import SchemaMigration.Url.Domain.Mapping
import SchemaMigration.Url.Domain.Punycode

/-!
# Domain names

A domain name is labels with dots between them.  A label may hold letters of all scripts; it may
also be written in ASCII, as `xn--` and a code for the label.  Reading a name gives the form in
which it is shown: mapped, normalized, and with the codes decoded.
-/

namespace SchemaMigration.Url.Domain

/-- What a label begins with that is written as a code. -/
def codeMark : List Char := ['x', 'n', '-', '-']

/-- The most characters of a code. -/
def longestCode : Nat := 2000

/-- The most characters of a label outside ASCII that is not written as a code. -/
def longestLabel : Nat := 1000

def isAscii (label : List Char) : Bool := label.all (·.toNat < 0x80)

/-- A label as it is shown.  A code must be that of a label outside ASCII in its canonical form. -/
def shown? (label : List Char) : Option (List Char) :=
  if codeMark.isPrefixOf label then
    let code := label.drop codeMark.length
    if isAscii code && code.length ≤ longestCode then
      (Punycode.decode? code).filter fun decoded =>
        !isAscii decoded && canonical? decoded = some decoded
    else none
  else if isAscii label || label.length ≤ longestLabel then some label
  else none

/-- The labels of a name as it is shown. -/
def labels? (name : List Char) : Option (List (List Char)) :=
  (canonical? name).bind fun mapped => (Text.splitAtEach '.' mapped).mapM shown?

/-- Reads a domain name, which may be empty and may have empty labels.  One character that is
written from the right makes all labels subject to the rule on directions. -/
def read? (name : List Char) : Option (List Char) :=
  (labels? name).bind fun labels =>
    let mixed := labels.any (·.any isFromRight)
    if labels.all isWellFormed && (!mixed || labels.all readsOneWay) then
      some (List.intercalate ['.'] labels)
    else none

end SchemaMigration.Url.Domain
