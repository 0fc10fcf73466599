import Mathlib.Tactic.Common
import SchemaMigration.Text.Utf8

/-!
# Reading UTF-8 back

What a text becomes in UTF-8 is read back as the text, by the strict reader and by the lenient one.
The argument goes character by character: "the bytes of a character in front of any others are one
piece, that character".  For the first two bytes the bounds that the reader sets on the second byte
matter; they are met because the writer uses the shortest form and because no character is a
surrogate.
-/

namespace SchemaMigration.Text

section Bytes

variable {n : Nat} {bs : List UInt8}

/-- The code point of a character: no surrogate, and below U+110000. -/
theorem toNat_lt_or (c : Char) : c.toNat < 0xD800 ∨ 0xDFFF < c.toNat ∧ c.toNat < 0x110000 := c.valid

/-- A byte within the bounds is read, and adds its six bits. -/
theorem readFollowing_succ {low high bits d : Nat} (hd : d < 64) (hlow : low ≤ 0x80 + d)
    (hhigh : 0x80 + d ≤ high) :
    readFollowing (n + 1) low high bits (UInt8.ofNat (0x80 + d) :: bs)
      = readFollowing n 0x80 0xBF (64 * bits + d) bs := by
  have hbyte : (UInt8.ofNat (0x80 + d)).toNat = 0x80 + d := by
    rw [UInt8.toNat_ofNat']
    omega
  rw [readFollowing, hbyte, if_pos ⟨hlow, hhigh⟩, Nat.add_sub_cancel_left]

/-- All bytes after the second one have the same bounds. -/
theorem readFollowing_later {bits d : Nat} (hd : d < 64) :
    readFollowing (n + 1) 0x80 0xBF bits (UInt8.ofNat (0x80 + d) :: bs)
      = readFollowing n 0x80 0xBF (64 * bits + d) bs :=
  readFollowing_succ hd (by omega) (by omega)

theorem leadByte?_one (h : n < 0x80) : leadByte? (UInt8.ofNat n) = some ⟨0, 0, 0, n⟩ := by
  have hbyte : (UInt8.ofNat n).toNat = n := by
    rw [UInt8.toNat_ofNat']
    omega
  rw [leadByte?, hbyte, if_pos h]

theorem leadByte?_two (hlow : 0x80 ≤ n) (hhigh : n < 0x800) :
    leadByte? (UInt8.ofNat (0xC0 + n / 64)) = some ⟨1, 0x80, 0xBF, n / 64⟩ := by
  have hbyte : (UInt8.ofNat (0xC0 + n / 64)).toNat = 0xC0 + n / 64 := by
    rw [UInt8.toNat_ofNat']
    omega
  rw [leadByte?, hbyte, if_neg (by omega), if_neg (by omega), if_pos (by omega),
    Nat.add_sub_cancel_left]

/-- The second byte of three is within bounds: above those of shorter forms, below the
surrogates. -/
theorem leadByte?_three (hlow : 0x800 ≤ n) (hhigh : n < 0x10000)
    (hsurrogate : n < 0xD800 ∨ 0xDFFF < n) :
    ∃ low high, leadByte? (UInt8.ofNat (0xE0 + n / 4096)) = some ⟨2, low, high, n / 4096⟩ ∧
      low ≤ 0x80 + n / 64 % 64 ∧ 0x80 + n / 64 % 64 ≤ high := by
  have hbyte : (UInt8.ofNat (0xE0 + n / 4096)).toNat = 0xE0 + n / 4096 := by
    rw [UInt8.toNat_ofNat']
    omega
  rw [leadByte?, hbyte, if_neg (by omega), if_neg (by omega), if_neg (by omega)]
  by_cases hfirst : n / 4096 = 0
  · refine ⟨0xA0, 0xBF, ?_, by omega, by omega⟩
    rw [if_pos (by omega), hfirst]
  · rw [if_neg (by omega)]
    by_cases hlast : n / 4096 = 0xD
    -- Above U+D7FF, characters with this first byte would be surrogates.
    · refine ⟨0x80, 0x9F, ?_, by omega, by omega⟩
      rw [if_pos (by omega), hlast]
    · refine ⟨0x80, 0xBF, ?_, by omega, by omega⟩
      rw [if_neg (by omega), if_pos (by omega), Nat.add_sub_cancel_left]

/-- The second byte of four is within bounds: above those of shorter forms, below U+110000. -/
theorem leadByte?_four (hlow : 0x10000 ≤ n) (hhigh : n < 0x110000) :
    ∃ low high, leadByte? (UInt8.ofNat (0xF0 + n / 262144)) = some ⟨3, low, high, n / 262144⟩ ∧
      low ≤ 0x80 + n / 4096 % 64 ∧ 0x80 + n / 4096 % 64 ≤ high := by
  have hbyte : (UInt8.ofNat (0xF0 + n / 262144)).toNat = 0xF0 + n / 262144 := by
    rw [UInt8.toNat_ofNat']
    omega
  rw [leadByte?, hbyte, if_neg (by omega), if_neg (by omega), if_neg (by omega), if_neg (by omega),
    if_neg (by omega), if_neg (by omega)]
  by_cases hfirst : n / 262144 = 0
  · refine ⟨0x90, 0xBF, ?_, by omega, by omega⟩
    rw [if_pos (by omega), hfirst]
  · rw [if_neg (by omega)]
    by_cases hlast : n / 262144 = 4
    · refine ⟨0x80, 0x8F, ?_, by omega, by omega⟩
      rw [if_neg (by omega), if_pos (by omega), hlast]
    · refine ⟨0x80, 0xBF, ?_, by omega, by omega⟩
      rw [if_pos (by omega), Nat.add_sub_cancel_left]

end Bytes

/-- What the reader does after a first byte. -/
theorem utf8Pieces_lead {b : UInt8} {lead : LeadByte} {bs rest : List UInt8} {n : Nat}
    (hlead : leadByte? b = some lead)
    (hrest : readFollowing lead.following lead.low lead.high lead.bits bs = (some n, rest)) :
    utf8Pieces (b :: bs) = some (Char.ofNat n) :: utf8Pieces rest := by
  rw [utf8Pieces, hlead]
  show (readFollowing lead.following lead.low lead.high lead.bits bs).1.map Char.ofNat
    :: utf8Pieces (readFollowing lead.following lead.low lead.high lead.bits bs).2 = _
  rw [hrest, Option.map_some]

/-- The bytes of a character in front of any others are one piece, that character. -/
theorem utf8Pieces_encodeChar (c : Char) (bs : List UInt8) :
    utf8Pieces (encodeChar c ++ bs) = some c :: utf8Pieces bs := by
  -- The rest is about the code point alone, in the four ranges that the encoder tells apart.
  have hvalid := toNat_lt_or c
  have hchar : Char.ofNat c.toNat = c := Char.ofNat_toNat c
  rw [encodeChar]
  generalize c.toNat = n at hvalid hchar
  subst hchar
  by_cases hone : n < 0x80
  · rw [if_pos hone]
    exact utf8Pieces_lead (leadByte?_one hone) rfl
  rw [if_neg hone]
  by_cases htwo : n < 0x800
  · rw [if_pos htwo, List.cons_append, List.singleton_append]
    refine utf8Pieces_lead (leadByte?_two (by omega) htwo) ?_
    have hsum : 64 * (n / 64) + n % 64 = n := by omega
    rw [readFollowing_later (by omega), readFollowing, hsum]
  rw [if_neg htwo]
  by_cases hthree : n < 0x10000
  · rw [if_pos hthree, List.cons_append, List.cons_append, List.singleton_append]
    obtain ⟨low, high, hlead, hlow, hhigh⟩ := leadByte?_three (by omega) hthree (by omega)
    refine utf8Pieces_lead hlead ?_
    have hsum : 64 * (64 * (n / 4096) + n / 64 % 64) + n % 64 = n := by omega
    rw [readFollowing_succ (by omega) hlow hhigh, readFollowing_later (by omega), readFollowing,
      hsum]
  · rw [if_neg hthree, List.cons_append, List.cons_append, List.cons_append, List.singleton_append]
    obtain ⟨low, high, hlead, hlow, hhigh⟩ := leadByte?_four (n := n) (by omega) (by omega)
    refine utf8Pieces_lead hlead ?_
    have hsum : 64 * (64 * (64 * (n / 262144) + n / 4096 % 64) + n / 64 % 64) + n % 64 = n := by
      omega
    rw [readFollowing_succ (by omega) hlow hhigh, readFollowing_later (by omega),
      readFollowing_later (by omega), readFollowing, hsum]

/-- The pieces of a text's bytes are its characters. -/
theorem utf8Pieces_encodeUtf8 (cs : List Char) : utf8Pieces (encodeUtf8 cs) = cs.map some := by
  induction cs with
  | nil => simp [encodeUtf8, utf8Pieces]
  | cons c cs ih =>
    rw [encodeUtf8, List.flatMap_cons, utf8Pieces_encodeChar, ← encodeUtf8, ih, List.map_cons]

/-- No two texts have the same bytes. -/
theorem encodeUtf8_inj {cs ds : List Char} : encodeUtf8 cs = encodeUtf8 ds ↔ cs = ds := by
  refine ⟨fun h => ?_, fun h => by rw [h]⟩
  have hpieces := congrArg utf8Pieces h
  rw [utf8Pieces_encodeUtf8, utf8Pieces_encodeUtf8] at hpieces
  exact (List.map_inj_right fun _ _ => Option.some.inj).1 hpieces

theorem decodeUtf8?_encodeUtf8 (cs : List Char) :
    decodeUtf8? (encodeUtf8 cs) = some (String.ofList cs) := by
  have hall : (cs.map some).mapM id = some cs := by
    induction cs with
    | nil => rfl
    | cons c cs ih => rw [List.map_cons, List.mapM_cons, ih]; rfl
  rw [decodeUtf8?, utf8Pieces_encodeUtf8, hall, Option.map_some]

theorem decodeUtf8Lossy_encodeUtf8 (cs : List Char) :
    decodeUtf8Lossy (encodeUtf8 cs) = String.ofList cs := by
  rw [decodeUtf8Lossy, utf8Pieces_encodeUtf8, List.map_map]
  congr 1
  exact List.map_id' cs

/-- A character of ASCII is one byte, its code point. -/
theorem encodeChar_of_lt {c : Char} (h : c.toNat < 0x80) :
    encodeChar c = [UInt8.ofNat c.toNat] := by
  rw [encodeChar, if_pos h]

end SchemaMigration.Text
