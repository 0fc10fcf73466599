import SchemaMigration.Text.Quoted
import SchemaMigration.Text.Search

/-!
# Where a word occurs

The search for a word in a text finds exactly the words that stand in the text in one piece
(`occursIn_iff`).  Three facts say what joining texts does to the occurrences of a word: a character
that the word lacks keeps its occurrences apart (`infix_append_cons_iff`), some texts add none at
the end of any other (`Inert`), and doubling characters that the word lacks changes nothing
(`infix_doubled_iff`).
-/

namespace SchemaMigration.Text

variable {w xs ys cs a b : List Char} {c : Char}

theorem occursIn_iff : occursIn w cs = true ↔ w <:+: cs := by
  induction cs with
  | nil => rw [occursIn, List.isEmpty_iff, List.infix_nil]
  | cons c cs ih =>
    rw [occursIn, Bool.or_eq_true, List.isPrefixOf_iff_prefix, ih, List.infix_cons_iff]

theorem contains_iff {hay needle : String} :
    contains hay needle = true ↔ needle.toList <:+: hay.toList := occursIn_iff

/-! ## Joined texts -/

theorem eq_nil_of_prefix_cons (hc : c ∉ w) (h : w <+: c :: ys) : w = [] := by
  cases w with
  | nil => rfl
  | cons first rest =>
    obtain ⟨rfl, -⟩ := List.cons_prefix_cons.mp h
    exact absurd List.mem_cons_self hc

theorem infix_cons_iff_of_not_mem (hc : c ∉ w) : w <:+: c :: ys ↔ w <:+: ys := by
  rw [List.infix_cons_iff]
  refine or_iff_right_of_imp fun h => ?_
  rw [eq_nil_of_prefix_cons hc h]
  exact List.nil_infix

/-- A word lies on one side of a character that it lacks. -/
theorem infix_append_cons_iff (hc : c ∉ w) :
    w <:+: xs ++ c :: ys ↔ w <:+: xs ∨ w <:+: ys := by
  rw [List.infix_append_iff, infix_cons_iff_of_not_mem hc]
  constructor
  · intro h
    rcases h with hbefore | hafter | ⟨l₁, l₂, rfl, h₁, h₂⟩
    · exact .inl hbefore
    · exact .inr hafter
    · -- an occurrence across the seam would go on with `c`, which the word lacks
      have hnil : l₂ = [] :=
        eq_nil_of_prefix_cons (fun hmem => hc (List.mem_append_right l₁ hmem)) h₂
      rw [hnil, List.append_nil]
      exact .inl h₁.isInfix
  · intro h
    rcases h with hbefore | hafter
    · exact .inl hbefore
    · exact .inr (.inl hafter)

/-- Put behind any text, `a` adds no occurrence of `w`. -/
def Inert (w a : List Char) : Prop := ∀ xs, w <:+: xs ++ a ↔ w <:+: xs

theorem Inert.nil : Inert w [] := fun xs => by rw [List.append_nil]

theorem Inert.append (ha : Inert w a) (hb : Inert w b) : Inert w (a ++ b) := fun xs => by
  rw [← List.append_assoc, hb, ha]

/-- A text is inert when the word does not occur in it, and does not begin before it either. -/
theorem inert_of_apart (hinside : occursIn w a = false)
    (hacross : ∀ n < w.length, (w.drop n).isPrefixOf a = false) : Inert w a := by
  intro xs
  rw [List.infix_append_iff]
  constructor
  · intro h
    rcases h with hbefore | hinfix | ⟨l₁, l₂, hw, h₁, h₂⟩
    · exact hbefore
    · rw [← occursIn_iff, hinside] at hinfix
      cases hinfix
    · have hdrop : w.drop l₁.length = l₂ := by rw [hw, List.drop_left]
      cases l₂ with
      | nil =>
        -- the word ends with `xs`
        rw [hw, List.append_nil]
        exact h₁.isInfix
      | cons first rest =>
        have hlength : l₁.length < w.length := by simp [hw]
        have hapart := hacross _ hlength
        rw [hdrop, List.isPrefixOf_iff_prefix.mpr h₂] at hapart
        cases hapart
  · exact .inl

/-! ## Doubled characters -/

theorem prefix_doubled_iff {special : Char → Bool} (hw : ∀ c ∈ w, special c = false) :
    w <+: doubled special cs ↔ w <+: cs := by
  induction cs generalizing w with
  | nil => rfl
  | cons c cs ih =>
    cases w with
    | nil => simp
    | cons first rest =>
      obtain ⟨hfirst, hrest⟩ := List.forall_mem_cons.mp hw
      rw [doubled, List.cons_prefix_cons]
      split
      · next hc =>
        have hne : first ≠ c := fun heq => by simp [heq, hc] at hfirst
        simp [hne]
      · rw [List.cons_prefix_cons, ih hrest]

/-- Doubling characters that a word lacks neither makes nor breaks an occurrence. -/
theorem infix_doubled_iff {special : Char → Bool} (hw : ∀ c ∈ w, special c = false) :
    w <:+: doubled special cs ↔ w <:+: cs := by
  induction cs with
  | nil => rfl
  | cons c cs ih =>
    cases hc : special c with
    | false =>
      have hstart : w <+: doubled special (c :: cs) ↔ w <+: c :: cs := prefix_doubled_iff hw
      rw [doubled, if_neg (by simp [hc])] at hstart ⊢
      rw [List.infix_cons_iff, List.infix_cons_iff, hstart, ih]
    | true =>
      -- the word can begin at neither of the two copies of `c`
      have hmem : c ∉ w := fun hmem => by simp [hw c hmem] at hc
      rw [doubled, if_pos hc]
      simp only [infix_cons_iff_of_not_mem hmem, ih]

/-! ## Upper case -/

/-- The characters of a text with its letters in upper case. -/
def upper (s : String) : List Char := s.toList.map Char.toUpper

theorem toList_upperAscii {s : String} : (upperAscii s).toList = upper s := String.toList_ofList

@[simp] theorem upper_append {s t : String} : upper (s ++ t) = upper s ++ upper t := by
  simp [upper]

/-- Nothing but a letter becomes a letter. -/
theorem toUpper_eq_iff {c d : Char}
    (hd : d.toNat < 65 ∨ 90 < d.toNat ∧ d.toNat < 97 ∨ 122 < d.toNat) :
    c.toUpper = d ↔ c = d := by
  by_cases hlower : 'a'.val ≤ c.val ∧ c.val ≤ 'z'.val
  · have hlow : 97 ≤ c.toNat := hlower.1
    have hhigh : c.toNat ≤ 122 := hlower.2
    have hupper : c.toUpper.val = c.val + ('A'.val - 'a'.val) := by
      rw [show c.toUpper = _ from dif_pos hlower]
    have hshift : ('A'.val - 'a'.val).toNat = 0x100000000 - 32 := by decide
    have hsub : c.toUpper.toNat = c.toNat - 32 := by
      rw [Char.toNat, hupper, UInt32.toNat_add, hshift, ← Char.toNat]
      omega
    refine iff_of_false (fun heq => ?_) (fun heq => ?_)
    · rw [heq] at hsub
      omega
    · rw [heq] at hlow hhigh
      omega
  · rw [show c.toUpper = c from dif_neg hlower]

theorem map_toUpper_doubled {special : Char → Bool} (h : ∀ c, special c.toUpper = special c) :
    (doubled special cs).map Char.toUpper = doubled special (cs.map Char.toUpper) := by
  induction cs with
  | nil => rfl
  | cons c cs ih =>
    rw [doubled, List.map_cons, doubled, h]
    split <;> simp [ih]

end SchemaMigration.Text
