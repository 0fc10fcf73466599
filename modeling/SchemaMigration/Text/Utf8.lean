/-!
# UTF-8

Characters as bytes and back.  Bytes that are no UTF-8 fall into malformed pieces: each is the
longest start of some character's bytes that the input offers, or else a single byte.  A strict
reader refuses a malformed piece, a lenient one replaces it by U+FFFD.
-/

namespace SchemaMigration.Text

/-- The bytes of a character: one below U+0080, two below U+0800, three below U+10000, else four.
All bytes but the first carry six bits. -/
def encodeChar (c : Char) : List UInt8 :=
  let n := c.toNat
  if n < 0x80 then [UInt8.ofNat n]
  else if n < 0x800 then [UInt8.ofNat (0xC0 + n / 64), UInt8.ofNat (0x80 + n % 64)]
  else if n < 0x10000 then
    [UInt8.ofNat (0xE0 + n / 4096), UInt8.ofNat (0x80 + n / 64 % 64), UInt8.ofNat (0x80 + n % 64)]
  else
    [UInt8.ofNat (0xF0 + n / 262144), UInt8.ofNat (0x80 + n / 4096 % 64),
      UInt8.ofNat (0x80 + n / 64 % 64), UInt8.ofNat (0x80 + n % 64)]

/-- The bytes of a text. -/
def encodeUtf8 (cs : List Char) : List UInt8 := cs.flatMap encodeChar

/-- What the first byte of a character says. -/
structure LeadByte where
  /-- How many bytes follow. -/
  following : Nat
  /-- The least second byte. -/
  low : Nat
  /-- The greatest second byte. -/
  high : Nat
  /-- The bits of the code point in the first byte. -/
  bits : Nat
deriving DecidableEq, Repr

/-- Reads a first byte.  The bounds of the second byte keep out longer forms of short characters,
surrogates, and everything above U+10FFFF. -/
def leadByte? (b : UInt8) : Option LeadByte :=
  let n := b.toNat
  if n < 0x80 then some ⟨0, 0, 0, n⟩
  else if n < 0xC2 then none
  else if n < 0xE0 then some ⟨1, 0x80, 0xBF, n - 0xC0⟩
  else if n = 0xE0 then some ⟨2, 0xA0, 0xBF, 0⟩
  else if n = 0xED then some ⟨2, 0x80, 0x9F, 0xD⟩
  else if n < 0xF0 then some ⟨2, 0x80, 0xBF, n - 0xE0⟩
  else if n = 0xF0 then some ⟨3, 0x90, 0xBF, 0⟩
  else if n < 0xF4 then some ⟨3, 0x80, 0xBF, n - 0xF0⟩
  else if n = 0xF4 then some ⟨3, 0x80, 0x8F, 4⟩
  else none

/-- Reads `n` more bytes, the next one between `low` and `high` and later ones between 0x80 and
0xBF, and adds their bits.  The first byte out of bounds is left in the rest. -/
def readFollowing : (n low high bits : Nat) → List UInt8 → Option Nat × List UInt8
  | 0, _, _, bits, bs => (some bits, bs)
  | _ + 1, _, _, _, [] => (none, [])
  | n + 1, low, high, bits, b :: bs =>
    if low ≤ b.toNat ∧ b.toNat ≤ high then
      readFollowing n 0x80 0xBF (64 * bits + (b.toNat - 0x80)) bs
    else (none, b :: bs)

theorem length_readFollowing_le (n low high bits : Nat) (bs : List UInt8) :
    (readFollowing n low high bits bs).2.length ≤ bs.length := by
  induction n generalizing low high bits bs with
  | zero => simp [readFollowing]
  | succ n ih =>
    cases bs with
    | nil => simp [readFollowing]
    | cons b bs =>
      rw [readFollowing]
      split
      · exact Nat.le_succ_of_le (ih ..)
      · simp

/-- The pieces of a sequence of bytes: characters, and `none` for each malformed piece. -/
def utf8Pieces : List UInt8 → List (Option Char)
  | [] => []
  | b :: bs =>
    match leadByte? b with
    | none => none :: utf8Pieces bs
    | some lead =>
      let result := readFollowing lead.following lead.low lead.high lead.bits bs
      result.1.map Char.ofNat :: utf8Pieces result.2
termination_by bs => bs.length
decreasing_by
  · simp
  · exact Nat.lt_succ_of_le (length_readFollowing_le ..)

/-- The text that the bytes write, with U+FFFD for each malformed piece. -/
def decodeUtf8Lossy (bs : List UInt8) : String :=
  String.ofList ((utf8Pieces bs).map fun piece => piece.getD '\uFFFD')

/-- The text that the bytes write, if no piece is malformed. -/
def decodeUtf8? (bs : List UInt8) : Option String :=
  ((utf8Pieces bs).mapM id).map String.ofList

end SchemaMigration.Text
