import SchemaMigration.Connection.Wire
import SchemaMigration.Proofs.Text.Integer
import SchemaMigration.Proofs.Text.Utf8

/-!
# Values there and back

Values that are sent to a server and come back in a row are the same values (`toRow_ofValue`): a
text travels as UTF-8, which the lenient reader of rows reads without a replacement.

A server also has unsigned numbers, and the upper half of them has no place among the integers of a
row.  Those are kept as their decimal digits, and

> the reader of integers takes a decimal exactly when its number has a place (`int?_decimal`),

so that no digits are taken for another number: what is asked for as an integer is the number that
was received, or nothing (`values_survive`).
-/

namespace SchemaMigration

/-- The digits of a number are read as the number if it is below 2⁶³, and not at all otherwise. -/
theorem Value.int?_decimal (n : Nat) :
    (Value.text (toString n)).int? =
      if n < 0x8000000000000000 then some (Int64.ofNat n) else none := by
  rw [int?, Text.trim_toString, Text.readInt64?_toString]

namespace WireValue

theorem toValue_ofValue (v : Value) : (ofValue v).toValue = v := by
  cases v with
  | null => rfl
  | int n => rfl
  | text s => rw [ofValue, toValue, Text.decodeUtf8Lossy_encodeUtf8, String.ofList_toList]

/-- A row of values that were sent is these values, in order. -/
theorem toRow_ofValue (values : List Value) :
    toRow (values.map fun v => some (ofValue v)) = values := by
  rw [toRow, List.map_map]
  exact (List.map_congr_left fun v _ => toValue_ofValue v).trans (List.map_id values)

section

variable {n : UInt64}

/-- An unsigned number of the lower half is the same integer. -/
theorem toValue_uint_of_lt (h : n.toNat < 0x8000000000000000) :
    (uint n).toValue = .int n.toInt64 ∧ n.toInt64.toInt = n.toNat := by
  have hint : n.toInt64 = Int64.ofNat n.toNat := by
    rw [← UInt64.toInt64_ofNat', UInt64.ofNat_toNat]
  refine ⟨by rw [toValue, if_pos h], ?_⟩
  rw [hint, Int64.toInt_ofNat_of_lt h]

/-- One of the upper half is its digits. -/
theorem toValue_uint_of_le (h : 0x8000000000000000 ≤ n.toNat) :
    (uint n).toValue = .text (toString n.toNat) := by
  rw [toValue, if_neg (Nat.not_lt.mpr h)]

end

/-- **Conversions lose nothing.**  Any values come back from the server as they were sent.  An
unsigned number is read as itself where the integers of rows reach; beyond, it is a text with the
digits of this number, which is not read as an integer. -/
theorem values_survive :
    (∀ values : List Value, toRow (values.map fun v => some (ofValue v)) = values) ∧
    (∀ n : UInt64, n.toNat < 0x8000000000000000 →
      ∃ i : Int64, i.toInt = n.toNat ∧ (uint n).toValue.int? = some i) ∧
    (∀ n : UInt64, 0x8000000000000000 ≤ n.toNat →
      ∃ digits : String, (uint n).toValue = .text digits ∧ digits.toList = Nat.toDigits 10 n.toNat ∧
        Text.readUInt64? digits = some n ∧ (uint n).toValue.int? = none) := by
  refine ⟨toRow_ofValue, fun n h => ?_, fun n h => ?_⟩
  · obtain ⟨hvalue, hint⟩ := toValue_uint_of_lt h
    exact ⟨n.toInt64, hint, by rw [hvalue, Value.int?]⟩
  · have hvalue := toValue_uint_of_le h
    refine ⟨toString n.toNat, hvalue, Text.toList_toString _, Text.readUInt64?_toString n, ?_⟩
    rw [hvalue, Value.int?_decimal, if_neg (Nat.not_lt.mpr h)]

/-- A text with characters of every length, the least integer, and the two numbers at the seam of the
halves. -/
theorem values_survive_at_ends :
    toRow [some .null, some (.int Int64.minValue), some (.bytes [0x61, 0, 0xC3, 0xA4, 0xEF, 0xBF,
        0xBD, 0xF0, 0x9F, 0x98, 0x80]), some (.bytes [])] =
      [.null, .int Int64.minValue, .text "a\x00ä\uFFFD😀", .text ""] ∧
    (∃ i : Int64, i.toInt = 9223372036854775807 ∧
      (uint 9223372036854775807).toValue.int? = some i) ∧
    ∃ digits : String, (uint 9223372036854775808).toValue = .text digits ∧
      digits.toList = "9223372036854775808".toList ∧
      (uint 9223372036854775808).toValue.int? = none := by
  obtain ⟨hrows, hlower, hupper⟩ := values_survive
  refine ⟨?_, hlower 9223372036854775807 (by decide), ?_⟩
  · exact hrows [.null, .int Int64.minValue, .text "a\x00ä\uFFFD😀", .text ""]
  · obtain ⟨digits, hvalue, hdigits, -, hnone⟩ := hupper 9223372036854775808 (by decide)
    exact ⟨digits, hvalue, hdigits.trans (by decide), hnone⟩

end WireValue

end SchemaMigration
