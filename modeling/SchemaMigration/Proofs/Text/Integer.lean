import Mathlib.Data.List.TakeWhile
import Mathlib.Tactic.Common
import SchemaMigration.Text.Blank
import SchemaMigration.Text.Integer

/-!
# Reading decimal integers back

Digits are read as the number that they write, so that a number in decimal is read as itself, with
or without zeros in front of it.  The reader of signed numbers takes the decimals below 2⁶³ and
refuses all others (`readInt64?_toString`).
-/

namespace SchemaMigration.Text

theorem digit?_of_isDigit {c : Char} (h : c.isDigit = true) :
    digit? c = some (c.toNat - '0'.toNat) := by
  have hrange : '0' ≤ c ∧ c ≤ '9' := Char.isDigit_iff_toNat.1 h
  rw [digit?, if_pos hrange]

/-- A run of digits is read to its end. -/
theorem readDigits?_of_isDigit {cs : List Char} (h : ∀ c ∈ cs, c.isDigit = true) (high : Nat) :
    readDigits? high cs = some (Nat.ofDigitChars 10 cs high) := by
  induction cs generalizing high with
  | nil => rfl
  | cons c cs ih =>
    rw [readDigits?, digit?_of_isDigit (h c List.mem_cons_self), Nat.ofDigitChars_cons]
    exact ih (fun d hd => h d (List.mem_cons_of_mem c hd)) _

theorem isDigit_of_mem_toDigits {n : Nat} {c : Char} (h : c ∈ Nat.toDigits 10 n) :
    c.isDigit = true :=
  Nat.isDigit_of_mem_toDigits (by omega) (by omega) h

theorem readNat?_of_isDigit {cs : List Char} (hne : cs ≠ []) (h : ∀ c ∈ cs, c.isDigit = true) :
    readNat? cs = some (Nat.ofDigitChars 10 cs 0) := by
  cases cs with
  | nil => exact absurd rfl hne
  | cons c cs => exact readDigits?_of_isDigit h 0

theorem readNat?_toDigits (n : Nat) : readNat? (Nat.toDigits 10 n) = some n := by
  rw [readNat?_of_isDigit Nat.toDigits_ne_nil fun c hc => isDigit_of_mem_toDigits hc,
    Nat.ofDigitChars_ten_toDigits]

theorem toList_toString (n : Nat) : (toString n).toList = Nat.toDigits 10 n := by
  rw [Nat.toString_eq_ofList_toDigits, String.toList_ofList]

/-! ## Zeros in front -/

theorem toList_padded (width n : Nat) : (padded width n).toList =
    List.replicate (width - (Nat.toDigits 10 n).length) '0' ++ Nat.toDigits 10 n :=
  String.toList_ofList

theorem isDigit_of_mem_padded {width n : Nat} {c : Char} (h : c ∈ (padded width n).toList) :
    c.isDigit = true := by
  rw [toList_padded, List.mem_append] at h
  rcases h with hzero | hdigit
  · rw [List.eq_of_mem_replicate hzero]
    decide
  · exact isDigit_of_mem_toDigits hdigit

/-- Zeros in front of a number do not change it, however many digits it has itself. -/
theorem readNat?_padded (width n : Nat) : readNat? (padded width n).toList = some n := by
  have hne : (padded width n).toList ≠ [] := by
    rw [toList_padded]
    exact List.append_ne_nil_of_right_ne_nil _ Nat.toDigits_ne_nil
  rw [readNat?_of_isDigit hne fun c hc => isDigit_of_mem_padded hc, toList_padded,
    Nat.ofDigitChars_append, Nat.ofDigitChars_replicate_zero, Nat.mul_zero,
    Nat.ofDigitChars_ten_toDigits]

/-! ## Numbers of 64 bits -/

/-- Without a sign the whole text is read. -/
theorem readUInt64?_of_readNat? {s : String} {n : Nat} (hsign : s.toList.head? ≠ some '+')
    (h : readNat? s.toList = some n) (hn : n < UInt64.size) :
    readUInt64? s = some (UInt64.ofNat n) := by
  rw [readUInt64?]
  cases hs : s.toList with
  | nil => rw [hs] at h; contradiction
  | cons c cs =>
    have hc : c ≠ '+' := fun hplus => hsign (by rw [hs, hplus, List.head?_cons])
    rw [hs] at h
    simp [hc, h, hn]

/-- A number of 64 bits in decimal is read as itself. -/
theorem readUInt64?_toString (n : UInt64) : readUInt64? (toString n.toNat) = some n := by
  have hsign : (toString n.toNat).toList.head? ≠ some '+' := by
    intro hplus
    rw [toList_toString] at hplus
    exact absurd (isDigit_of_mem_toDigits (List.mem_of_mem_head? hplus)) (by decide)
  have hread : readNat? (toString n.toNat).toList = some n.toNat := by
    rw [toList_toString, readNat?_toDigits]
  rw [readUInt64?_of_readNat? hsign hread n.toNat_lt_size, UInt64.ofNat_toNat]

/-- Digits are read without looking for a sign. -/
theorem readInt?_of_isDigit {cs : List Char} (h : ∀ c ∈ cs, c.isDigit = true) :
    readInt? cs = (readNat? cs).map Int.ofNat := by
  unfold readInt?
  split
  · exact absurd (h '-' List.mem_cons_self) (by decide)
  · exact absurd (h '+' List.mem_cons_self) (by decide)
  · rfl

/-- A number in decimal is read as itself if it has a place among the signed numbers, and not at all
otherwise. -/
theorem readInt64?_toString (n : Nat) :
    readInt64? (toString n) = if n < 0x8000000000000000 then some (Int64.ofNat n) else none := by
  have hread : readInt? (toString n).toList = some (Int.ofNat n) := by
    rw [toList_toString, readInt?_of_isDigit fun c hc => isDigit_of_mem_toDigits hc,
      readNat?_toDigits, Option.map_some]
  rw [readInt64?, hread]
  dsimp only
  have hrange : -0x8000000000000000 ≤ Int.ofNat n ∧ Int.ofNat n < 0x8000000000000000 ↔
      n < 0x8000000000000000 := by
    rw [Int.ofNat_eq_natCast]
    omega
  by_cases h : n < 0x8000000000000000
  · rw [if_pos h, if_pos (hrange.2 h)]
    rfl
  · rw [if_neg h, if_neg (mt hrange.1 h)]

/-! ## Blanks around numbers -/

theorem isBlankChar_of_isDigit {c : Char} (h : c.isDigit = true) : isBlankChar c = false := by
  have hrange : 48 ≤ c.toNat ∧ c.toNat ≤ 57 := Char.isDigit_iff_toNat.1 h
  rw [isBlankChar, List.any_eq_false]
  intro r hr
  simp only [blankRanges, List.mem_cons, List.not_mem_nil, or_false] at hr
  rcases hr with rfl | rfl | rfl | rfl | rfl | rfl | rfl | rfl | rfl | rfl <;>
  · simp
    omega

theorem dropWhile_of_not_blank {cs : List Char} (h : ∀ c ∈ cs, isBlankChar c = false) :
    cs.dropWhile isBlankChar = cs := by
  rw [List.dropWhile_eq_self_iff]
  intro hlength
  rw [h _ (List.getElem_mem hlength)]
  exact Bool.false_ne_true

/-- Trimming takes nothing from a text without blanks. -/
theorem trimChars_of_not_blank {cs : List Char} (h : ∀ c ∈ cs, isBlankChar c = false) :
    trimChars cs = cs := by
  have hreverse : ∀ c ∈ cs.reverse, isBlankChar c = false := fun c hc => h c (List.mem_reverse.1 hc)
  rw [trimChars, dropWhile_of_not_blank h, dropWhile_of_not_blank hreverse, List.reverse_reverse]

theorem trim_toString (n : Nat) : trim (toString n) = toString n := by
  have hdigits : ∀ c ∈ (toString n).toList, isBlankChar c = false := by
    intro c hc
    rw [toList_toString] at hc
    exact isBlankChar_of_isDigit (isDigit_of_mem_toDigits hc)
  rw [trim, trimChars_of_not_blank hdigits, String.ofList_toList]

end SchemaMigration.Text
