import SchemaMigration.Proofs.Text.Utf8
import SchemaMigration.Text.Percent

/-!
# Percent forms

A text in percent form has each of its bytes as a percent sign and two digits.  Decoding gives the
bytes back, whichever letter case the digits have, and it does so once: a percent sign among the
bytes is one of the text's own.
-/

namespace SchemaMigration.Text

/-- What holds of all characters of ASCII, one after the other. -/
theorem forall_ascii {p : Char → Prop} (h : ∀ n < 0x80, p (Char.ofNat n)) {c : Char}
    (hc : c.toNat < 0x80) : p c := by
  have hp := h c.toNat hc
  rwa [Char.ofNat_toNat] at hp

section Digits

variable {c : Char} {n : Nat}

/-- A digit stands in one of three ranges. -/
theorem toNat_of_hexDigit? (h : hexDigit? c = some n) :
    (48 ≤ c.toNat ∧ c.toNat ≤ 57) ∨ (97 ≤ c.toNat ∧ c.toNat ≤ 102) ∨
      (65 ≤ c.toNat ∧ c.toNat ≤ 70) := by
  rw [hexDigit?] at h
  split at h
  · next hc => exact Or.inl hc
  split at h
  · next hc => exact Or.inr (Or.inl hc)
  split at h
  · next hc => exact Or.inr (Or.inr hc)
  · contradiction

theorem lt_of_hexDigit? (h : hexDigit? c = some n) : c.toNat < 0x80 := by
  have hc := toNat_of_hexDigit? h
  omega

/-- A character of ASCII is the one byte of its code point. -/
theorem hexByte?_of_hexDigit? (h : hexDigit? c = some n) :
    hexByte? (UInt8.ofNat c.toNat) = some n := by
  have hc := lt_of_hexDigit? h
  have hbyte : (UInt8.ofNat c.toNat).toNat = c.toNat := by
    rw [UInt8.toNat_ofNat']
    omega
  rw [hexByte?, hbyte, Char.ofNat_toNat, h]

end Digits

/-- A byte that is no percent sign stays. -/
theorem percentDecode_cons_of_ne {b : UInt8} (h : b ≠ 0x25) (bs : List UInt8) :
    percentDecode (b :: bs) = b :: percentDecode bs := by
  rcases bs with _ | ⟨high, _ | ⟨low, rest⟩⟩ <;> simp only [percentDecode, if_neg h]

/-- A percent sign with two digits is the byte that they write. -/
theorem percentDecode_percent {high low : UInt8} {h l : Nat} (hhigh : hexByte? high = some h)
    (hlow : hexByte? low = some l) (rest : List UInt8) :
    percentDecode (0x25 :: high :: low :: rest) =
      UInt8.ofNat (16 * h + l) :: percentDecode rest := by
  rw [percentDecode, if_pos rfl, hhigh, hlow]

/-- `PercentForm form bytes`: the form writes each of the bytes as a percent sign and two
hexadecimal digits, which may be in either letter case. -/
inductive PercentForm : List Char → List UInt8 → Prop
  | nil : PercentForm [] []
  | cons {high low : Char} {form : List Char} {b : UInt8} {bytes : List UInt8}
      (hhigh : hexDigit? high = some (b.toNat / 16)) (hlow : hexDigit? low = some (b.toNat % 16))
      (rest : PercentForm form bytes) : PercentForm ('%' :: high :: low :: form) (b :: bytes)

namespace PercentForm

variable {form : List Char} {bytes : List UInt8}

/-- A form consists of percent signs and digits. -/
theorem eq_or_hexDigit? (h : PercentForm form bytes) {c : Char} (hc : c ∈ form) :
    c = '%' ∨ ∃ n, hexDigit? c = some n := by
  induction h with
  | nil => contradiction
  | cons hhigh hlow _ ih =>
    rcases List.mem_cons.1 hc with rfl | hc
    · exact Or.inl rfl
    rcases List.mem_cons.1 hc with rfl | hc
    · exact Or.inr ⟨_, hhigh⟩
    rcases List.mem_cons.1 hc with rfl | hc
    · exact Or.inr ⟨_, hlow⟩
    · exact ih hc

theorem eq_nil_iff (h : PercentForm form bytes) : form = [] ↔ bytes = [] := by
  cases h <;> simp

/-- Decoding a percent form gives the bytes back. -/
theorem percentDecode (h : PercentForm form bytes) :
    percentDecode (encodeUtf8 form) = bytes := by
  induction h with
  | nil => rfl
  | @cons high low form b bytes hhigh hlow _ ih =>
    have hbytes : encodeUtf8 ('%' :: high :: low :: form)
        = 0x25 :: UInt8.ofNat high.toNat :: UInt8.ofNat low.toNat :: encodeUtf8 form := by
      rw [encodeUtf8, List.flatMap_cons, List.flatMap_cons, List.flatMap_cons,
        encodeChar_of_lt (lt_of_hexDigit? hhigh), encodeChar_of_lt (lt_of_hexDigit? hlow)]
      rfl
    have hsum : 16 * (b.toNat / 16) + b.toNat % 16 = b.toNat := Nat.div_add_mod ..
    rw [hbytes, percentDecode_percent (hexByte?_of_hexDigit? hhigh) (hexByte?_of_hexDigit? hlow),
      hsum, UInt8.ofNat_toNat, ih]

end PercentForm

/-- Without percent signs there is nothing to decode. -/
theorem percentDecode_of_not_mem {bs : List UInt8} (h : 0x25 ∉ bs) : percentDecode bs = bs := by
  induction bs with
  | nil => rfl
  | cons b bs ih =>
    rw [List.mem_cons, not_or] at h
    rw [percentDecode_cons_of_ne (Ne.symm h.1), ih h.2]

/-- Encoding leaves a text alone that holds no special character. -/
theorem percentEncode_of_plain {special : Char → Bool} {cs : List Char}
    (h : ∀ c ∈ cs, special c = false) : percentEncode special cs = cs := by
  induction cs with
  | nil => rfl
  | cons c cs ih =>
    have hc := h c List.mem_cons_self
    have hcs := ih fun d hd => h d (List.mem_cons_of_mem c hd)
    rw [percentEncode, List.flatMap_cons, ← percentEncode, hcs, hc]
    rfl

end SchemaMigration.Text
