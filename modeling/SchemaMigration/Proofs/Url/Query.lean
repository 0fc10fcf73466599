import SchemaMigration.Proofs.Text.Percent
import SchemaMigration.Url.Query

/-!
# The fields of a query string

Fields whose names and values stand for themselves are read back from the query string that writes
them, in order, repeated ones included.
-/

namespace SchemaMigration.Url

/-- A text of ASCII that neither separates fields nor stands for other characters. -/
def FieldPlain (cs : List Char) : Prop :=
  ∀ c ∈ cs, c.toNat < 0x80 ∧ c ∉ ['+', '%', '&', '=']

namespace FieldPlain

variable {cs : List Char}

theorem not_mem (h : FieldPlain cs) {c : Char} (hc : c ∈ ['+', '%', '&', '=']) : c ∉ cs :=
  fun hmem => (h c hmem).2 hc

/-- Decoding leaves a plain text alone. -/
theorem formDecode (h : FieldPlain cs) : formDecode cs = String.ofList cs := by
  have hspaces : cs.map (fun c => if c = '+' then ' ' else c) = cs := by
    refine (List.map_congr_left fun c hc => ?_).trans (List.map_id cs)
    exact if_neg fun heq => h.not_mem (by decide) (heq ▸ hc)
  have hbytes : 0x25 ∉ Text.encodeUtf8 cs := by
    rw [Text.encodeUtf8, List.mem_flatMap]
    rintro ⟨c, hc, hbyte⟩
    rw [Text.encodeChar_of_lt (h c hc).1, List.mem_singleton] at hbyte
    have hcode : c.toNat = '%'.toNat := by
      have hascii := (h c hc).1
      have hnat : 0x25 = (UInt8.ofNat c.toNat).toNat := congrArg UInt8.toNat hbyte
      rw [UInt8.toNat_ofNat'] at hnat
      have hpercent : '%'.toNat = 0x25 := rfl
      omega
    exact h.not_mem (c := '%') (by decide) (Char.toNat_inj.1 hcode ▸ hc)
  rw [Url.formDecode, hspaces, Text.percentDecode_of_not_mem hbytes,
    Text.decodeUtf8Lossy_encodeUtf8]

end FieldPlain

/-- A field as a query string writes it. -/
def fieldText (field : String × String) : List Char := field.1.toList ++ '=' :: field.2.toList

theorem formField_fieldText {field : String × String} (hname : FieldPlain field.1.toList)
    (hvalue : FieldPlain field.2.toList) : formField (fieldText field) = field := by
  rw [formField, fieldText, Text.splitAtFirst_append (hname.not_mem (by decide))]
  dsimp only
  rw [Option.getD_some, hname.formDecode, hvalue.formDecode, String.ofList_toList,
    String.ofList_toList]

/-- What is joined consists of the pieces and the separator. -/
theorem eq_or_mem_of_mem_intercalate {separator c : Char} {pieces : List (List Char)}
    (h : c ∈ List.intercalate [separator] pieces) :
    c = separator ∨ ∃ piece ∈ pieces, c ∈ piece := by
  induction pieces with
  | nil => contradiction
  | cons first rest ih =>
    cases rest with
    | nil =>
      rw [List.intercalate_singleton] at h
      exact Or.inr ⟨first, List.mem_cons_self, h⟩
    | cons second rest =>
      rw [List.intercalate_cons_cons, List.append_assoc, List.mem_append, List.singleton_append,
        List.mem_cons] at h
      rcases h with h | h | h
      · exact Or.inr ⟨first, List.mem_cons_self, h⟩
      · exact Or.inl h
      · rcases ih h with hsep | ⟨piece, hpiece, hc⟩
        · exact Or.inl hsep
        · exact Or.inr ⟨piece, List.mem_cons_of_mem first hpiece, hc⟩

/-- Plain fields are read back from the query string that writes them. -/
theorem formFields_intercalate {fields : List (String × String)}
    (h : ∀ field ∈ fields, FieldPlain field.1.toList ∧ FieldPlain field.2.toList) :
    formFields (List.intercalate ['&'] (fields.map fieldText)) = fields := by
  by_cases hnil : fields = []
  · subst hnil
    rfl
  have hpieces : ∀ piece ∈ fields.map fieldText, '&' ∉ piece := by
    intro piece hpiece
    obtain ⟨field, hfield, rfl⟩ := List.mem_map.1 hpiece
    have hplain := h field hfield
    rw [fieldText, List.mem_append, List.mem_cons]
    rintro (hc | hc | hc)
    · exact hplain.1.not_mem (by decide) hc
    · contradiction
    · exact hplain.2.not_mem (by decide) hc
  have hkept : (fields.map fieldText).filter (· ≠ []) = fields.map fieldText := by
    refine List.filter_eq_self.2 fun piece hpiece => decide_eq_true ?_
    obtain ⟨field, -, rfl⟩ := List.mem_map.1 hpiece
    simp [fieldText]
  rw [formFields, Text.splitAtEach_intercalate (by simpa using hnil) hpieces, hkept, List.map_map]
  refine (List.map_congr_left fun field hfield => ?_).trans (List.map_id fields)
  exact formField_fieldText (h field hfield).1 (h field hfield).2

end SchemaMigration.Url
