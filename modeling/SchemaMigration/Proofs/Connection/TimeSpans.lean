import SchemaMigration.Connection.Wire
import SchemaMigration.Proofs.Text.Integer
import SchemaMigration.Text.Search

/-!
# Spans of time as text

A span of time is written as hours, minutes, seconds and millionths of a second, between colons and
a point, the last three with zeros in front.  Such a text is read back at its separators whatever
the numbers are (`TimeSpan.read?_text`).

A server sends the hours as days and hours, and they are counted together in 32 bits.

> What is read back is the span that was sent if and only if its hours are fewer than 2³²; otherwise
> it is shorter by a multiple of 2³² hours (`WireValue.time_exact`).
-/

namespace SchemaMigration

/-- A span of time; none of its numbers is bounded. -/
structure TimeSpan where
  negative : Bool
  hours : Nat
  minutes : Nat
  seconds : Nat
  /-- Millionths of a second. -/
  micros : Nat
deriving DecidableEq, Repr

namespace TimeSpan

/-- The numbers of a span with their separators; the hours have no zeros in front. -/
def numbers (t : TimeSpan) : List Char :=
  (toString t.hours).toList ++ ':' :: ((Text.padded 2 t.minutes).toList ++
    ':' :: ((Text.padded 2 t.seconds).toList ++ '.' :: (Text.padded 6 t.micros).toList))

/-- A span as a text: a minus sign if it is negative, then the numbers. -/
def text (t : TimeSpan) : String := String.ofList ((if t.negative then ['-'] else []) ++ t.numbers)

/-- Reads the numbers of a span at their separators. -/
def readNumbers? (negative : Bool) (cs : List Char) : Option TimeSpan :=
  match Text.splitAtEach ':' cs with
  | [hours, minutes, rest] =>
    match Text.splitAtEach '.' rest with
    | [seconds, micros] => do
      let hours ← Text.readNat? hours
      let minutes ← Text.readNat? minutes
      let seconds ← Text.readNat? seconds
      let micros ← Text.readNat? micros
      return { negative, hours, minutes, seconds, micros }
    | _ => none
  | _ => none

/-- Reads a span: a minus sign or none, then the numbers. -/
def read? (s : String) : Option TimeSpan :=
  match s.toList with
  | '-' :: cs => readNumbers? true cs
  | cs => readNumbers? false cs

/-! ## Reading back -/

theorem not_mem_padded {c : Char} (hc : c.isDigit = false) (width n : Nat) :
    c ∉ (Text.padded width n).toList := by
  intro hmem
  rw [Text.isDigit_of_mem_padded hmem] at hc
  contradiction

/-- The separators are where the numbers were put together, since no number holds one. -/
theorem readNumbers?_numbers (t : TimeSpan) : readNumbers? t.negative t.numbers = some t := by
  have hhours : ':' ∉ (toString t.hours).toList := by
    intro hmem
    rw [Text.toList_toString] at hmem
    exact absurd (Text.isDigit_of_mem_toDigits hmem) (by decide)
  have hrest :
      ':' ∉ (Text.padded 2 t.seconds).toList ++ '.' :: (Text.padded 6 t.micros).toList := by
    rw [List.mem_append, List.mem_cons]
    rintro (hmem | hpoint | hmem)
    · exact not_mem_padded (by decide) _ _ hmem
    · exact absurd hpoint (by decide)
    · exact not_mem_padded (by decide) _ _ hmem
  rw [readNumbers?, numbers, Text.splitAtEach_append hhours,
    Text.splitAtEach_append (not_mem_padded (by decide) 2 t.minutes),
    Text.splitAtEach_of_not_mem hrest]
  dsimp only
  rw [Text.splitAtEach_append (not_mem_padded (by decide) 2 t.seconds),
    Text.splitAtEach_of_not_mem (not_mem_padded (by decide) 6 t.micros)]
  dsimp only
  rw [Text.toList_toString, Text.readNat?_toDigits, Text.readNat?_padded, Text.readNat?_padded,
    Text.readNat?_padded]
  rfl

/-- The numbers start with a digit, which is no sign. -/
theorem head?_numbers (t : TimeSpan) : t.numbers.head? ≠ some '-' := by
  rw [numbers, Text.toList_toString]
  cases hdigits : Nat.toDigits 10 t.hours with
  | nil => exact absurd hdigits Nat.toDigits_ne_nil
  | cons c cs =>
    have hc : c.isDigit = true :=
      Text.isDigit_of_mem_toDigits (n := t.hours) (hdigits ▸ List.mem_cons_self)
    rw [List.cons_append, List.head?_cons]
    rintro ⟨⟩
    contradiction

/-- The text of a span is read back as the span. -/
theorem read?_text (t : TimeSpan) : read? t.text = some t := by
  have hnumbers := t.readNumbers?_numbers
  rw [read?, text, String.toList_ofList]
  cases hsign : t.negative with
  | true =>
    rw [hsign] at hnumbers
    exact hnumbers
  | false =>
    rw [hsign] at hnumbers
    rw [if_neg Bool.false_ne_true, List.nil_append]
    split
    · next hminus => exact absurd (by rw [hminus, List.head?_cons]) t.head?_numbers
    · exact hnumbers

end TimeSpan

namespace WireValue

variable (negative : Bool) (days : UInt32) (hours minutes seconds : UInt8) (micro : UInt32)

/-- 32 bits hold the hours up to multiples of 2³². -/
theorem toNat_totalHours :
    (totalHours days hours).toNat = (days.toNat * 24 + hours.toNat) % 0x100000000 := by
  rw [totalHours, UInt32.toNat_add, UInt32.toNat_mul, UInt8.toNat_toUInt32, Nat.mod_add_mod]
  rfl

/-- Counting the hours changes nothing if and only if they have a place in 32 bits. -/
theorem toNat_totalHours_iff :
    (totalHours days hours).toNat = days.toNat * 24 + hours.toNat ↔
      days.toNat * 24 + hours.toNat < 0x100000000 := by
  rw [toNat_totalHours]
  exact Nat.mod_eq_iff_lt (by decide)

/-- The text of a received span, with its days counted as hours. -/
theorem timeText_eq : timeText negative days hours minutes seconds micro =
    TimeSpan.text ⟨negative, (totalHours days hours).toNat, minutes.toNat, seconds.toNat,
      micro.toNat⟩ := by
  rw [← String.toList_inj, TimeSpan.text, TimeSpan.numbers, timeText, String.toList_ofList]
  cases negative <;> simp

/-- **When a span of time keeps its hours.**  A received span becomes a text that is read back at
its separators, with the sign, minutes, seconds and millionths that were sent, and with the hours
that were sent up to multiples of 2³².  So it is read back as the span that was sent if and only if
its hours are fewer than 2³², which is when counting them does not wrap. -/
theorem time_exact :
    ∃ text : String, (time negative days hours minutes seconds micro).toValue = .text text ∧
      TimeSpan.read? text =
        some ⟨negative, (days.toNat * 24 + hours.toNat) % 0x100000000, minutes.toNat, seconds.toNat,
          micro.toNat⟩ ∧
      (TimeSpan.read? text =
        some ⟨negative, days.toNat * 24 + hours.toNat, minutes.toNat, seconds.toNat, micro.toNat⟩ ↔
          days.toNat * 24 + hours.toNat < 0x100000000) ∧
      ((totalHours days hours).toNat = days.toNat * 24 + hours.toNat ↔
        days.toNat * 24 + hours.toNat < 0x100000000) := by
  have hread : TimeSpan.read? (timeText negative days hours minutes seconds micro) =
      some ⟨negative, (totalHours days hours).toNat, minutes.toNat, seconds.toNat,
        micro.toNat⟩ := by
    rw [timeText_eq, TimeSpan.read?_text]
  refine ⟨_, rfl, ?_, ?_, toNat_totalHours_iff days hours⟩
  · rw [hread, toNat_totalHours]
  · rw [hread, ← toNat_totalHours_iff]
    simp

example : (time true 178956970 15 59 59 999999).toValue = .text "-4294967295:59:59.999999" := by
  rfl

/-- One hour more, and the text is that of no time at all. -/
theorem time_wraps :
    (time false 178956970 16 0 0 0).toValue = .text "0:00:00.000000" ∧
    (time false 0 0 0 0 0).toValue = .text "0:00:00.000000" ∧
    TimeSpan.read? "0:00:00.000000" = some ⟨false, 0, 0, 0, 0⟩ ∧
    TimeSpan.read? "0:00:00.000000" ≠ some ⟨false, 178956970 * 24 + 16, 0, 0, 0⟩ := by
  decide +kernel

end WireValue

end SchemaMigration
