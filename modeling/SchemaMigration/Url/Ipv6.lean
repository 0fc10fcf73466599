import SchemaMigration.Text.Hex
import SchemaMigration.Text.Integer
import SchemaMigration.Text.Search

/-!
# IPv6 addresses

An address is eight groups of sixteen bits, written in hexadecimal between colons.  Two colons stand
for at least one group of zeros, and the last two groups may be written as an IPv4 address.
-/

namespace SchemaMigration.Url.Ipv6

/-- A group of one to four hexadecimal digits. -/
def group? (digits : List Char) : Option Nat :=
  if 1 ≤ digits.length ∧ digits.length ≤ 4 then Text.readHex? digits else none

/-- A byte in decimal, without leading zeros. -/
def byte? (digits : List Char) : Option Nat :=
  match digits with
  | '0' :: _ :: _ => none
  | _ => (Text.readNat? digits).filter (· ≤ 255)

/-- An address of four bytes as two groups. -/
def dotted? (text : List Char) : Option (List Nat) :=
  match (Text.splitAtEach '.' text).mapM byte? with
  | some [a, b, c, d] => some [256 * a + b, 256 * c + d]
  | _ => none

/-- Groups between colons; with `dotted`, the last one may be an address of four bytes. -/
def groups? (dotted : Bool) : List (List Char) → Option (List Nat)
  | [] => some []
  | [last] =>
    if dotted && last.contains '.' then dotted? last else (group? last).map ([·])
  | piece :: rest => do
    let g ← group? piece
    let gs ← groups? dotted rest
    pure (g :: gs)

/-- Groups between colons, of which there may be none. -/
def side? (dotted : Bool) (text : List Char) : Option (List Nat) :=
  if text = [] then some [] else groups? dotted (Text.splitAtEach ':' text)

/-- The text before the first pair of colons, and the text after it. -/
def splitAtPair : List Char → List Char × Option (List Char)
  | ':' :: ':' :: rest => ([], some rest)
  | [] => ([], none)
  | c :: cs =>
    let (before, after) := splitAtPair cs
    (c :: before, after)

/-- Reads an address. -/
def read? (text : List Char) : Option (List Nat) :=
  match splitAtPair text with
  | (all, none) => (side? true all).filter (·.length = 8)
  | (before, some after) => do
    let front ← side? false before
    let back ← side? true after
    -- The two colons stand for at least one group.
    if front.length + back.length ≤ 7 then
      pure (front ++ List.replicate (8 - (front.length + back.length)) 0 ++ back)
    else none

/-- The number of zeros at the start of a list. -/
def zeroRun (groups : List Nat) : Nat := (groups.takeWhile (· = 0)).length

/-- The start and the length of the first longest run of zeros, from position `i` on. -/
def longestZeroRun (i : Nat) : List Nat → Nat × Nat
  | [] => (i, 0)
  | g :: gs =>
    let rest := longestZeroRun (i + 1) gs
    let here := zeroRun (g :: gs)
    if rest.2 ≤ here then (i, here) else rest

/-- Groups in hexadecimal between colons. -/
def joined (groups : List Nat) : String := ":".intercalate (groups.map Text.lowerHex)

/-- Writes an address, the first longest run of at least two zero groups as two colons. -/
def text (groups : List Nat) : String :=
  let (start, length) := longestZeroRun 0 groups
  if length < 2 then joined groups
  else joined (groups.take start) ++ "::" ++ joined (groups.drop (start + length))

end SchemaMigration.Url.Ipv6
