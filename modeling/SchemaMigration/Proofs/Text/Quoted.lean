import SchemaMigration.Text.Quoted

/-!
# Reading quoted text

Quoted text is read from its first character on, with nothing to go by but the quotes and the
characters that are written twice.  The reader finds what was quoted, whatever this is and whatever
stands behind the closing quote, as long as it does not begin with another quote; and it reads
nothing but quoted text (`unquote_eq_some_iff`).
-/

namespace SchemaMigration.Text

/-- Reads from behind an opening quote: what was quoted, and what is left behind the closing quote.
A special character that is written twice stands for itself.  A quote that is not closes the text,
and any other special character that is not makes it unreadable. -/
def readQuoted (quote : Char) (special : Char → Bool) :
    List Char → Option (List Char × List Char)
  | [] => none
  | c :: cs =>
    if special c then
      match cs with
      | [] => if c = quote then some ([], []) else none
      | d :: rest =>
        if d = c then (readQuoted quote special rest).map fun read => (c :: read.1, read.2)
        else if c = quote then some ([], d :: rest)
        else none
    else (readQuoted quote special cs).map fun read => (c :: read.1, read.2)

/-- Reads from the opening quote on. -/
def unquote (quote : Char) (special : Char → Bool) : List Char → Option (List Char × List Char)
  | [] => none
  | c :: cs => if c = quote then readQuoted quote special cs else none

section

variable {quote : Char} {special : Char → Bool} {cs s rest : List Char} {c : Char}

theorem readQuoted_plain (hc : special c = false) (cs : List Char) :
    readQuoted quote special (c :: cs) =
      (readQuoted quote special cs).map fun read => (c :: read.1, read.2) := by
  cases cs <;> simp [readQuoted, hc]

theorem readQuoted_twice (hc : special c = true) (cs : List Char) :
    readQuoted quote special (c :: c :: cs) =
      (readQuoted quote special cs).map fun read => (c :: read.1, read.2) := by
  simp [readQuoted, hc]

theorem readQuoted_close (hquote : special quote = true) (hrest : rest.head? ≠ some quote) :
    readQuoted quote special (quote :: rest) = some ([], rest) := by
  cases rest with
  | nil => simp [readQuoted, hquote]
  | cons d rest =>
    have hd : d ≠ quote := fun heq => hrest (by rw [heq]; rfl)
    simp [readQuoted, hquote, hd]

/-- What was quoted is read, whatever characters it has at its ends or next to each other. -/
theorem readQuoted_doubled (hquote : special quote = true) (s : List Char)
    (hrest : rest.head? ≠ some quote) :
    readQuoted quote special (doubled special s ++ quote :: rest) = some (s, rest) := by
  induction s with
  | nil => exact readQuoted_close hquote hrest
  | cons c s ih =>
    cases hc : special c with
    | false =>
      rw [doubled, if_neg (by simp [hc]), List.cons_append, readQuoted_plain hc, ih]
      rfl
    | true =>
      rw [doubled, if_pos hc, List.cons_append, List.cons_append, readQuoted_twice hc, ih]
      rfl

/-- Whatever is read was quoted. -/
theorem eq_of_readQuoted (h : readQuoted quote special cs = some (s, rest)) :
    cs = doubled special s ++ quote :: rest ∧ rest.head? ≠ some quote := by
  fun_induction readQuoted quote special cs generalizing s with
  | case1 => cases h
  | case2 =>
    cases h
    exact ⟨rfl, by simp⟩
  | case3 => cases h
  | case4 c rest' hc ih =>
    obtain ⟨read, hread, heq⟩ := Option.map_eq_some_iff.mp h
    cases heq
    obtain ⟨rfl, hrest⟩ := ih hread
    exact ⟨by rw [doubled, if_pos hc]; rfl, hrest⟩
  | case5 d rest' _ hd =>
    cases h
    exact ⟨rfl, by simpa using hd⟩
  | case6 => cases h
  | case7 c cs hc ih =>
    obtain ⟨read, hread, heq⟩ := Option.map_eq_some_iff.mp h
    cases heq
    obtain ⟨rfl, hrest⟩ := ih hread
    exact ⟨by rw [doubled, if_neg hc]; rfl, hrest⟩

/-- Exactly the quoted texts are read, each as what was quoted, and nothing behind them is
touched. -/
theorem unquote_eq_some_iff (hquote : special quote = true) :
    unquote quote special cs = some (s, rest) ↔
      cs = quote :: (doubled special s ++ quote :: rest) ∧ rest.head? ≠ some quote := by
  constructor
  · intro h
    cases cs with
    | nil => cases h
    | cons c cs =>
      rw [unquote] at h
      split at h
      case isTrue hc =>
        obtain ⟨rfl, hrest⟩ := eq_of_readQuoted h
        exact ⟨by rw [hc], hrest⟩
      case isFalse => cases h
  · rintro ⟨rfl, hrest⟩
    rw [unquote, if_pos rfl]
    exact readQuoted_doubled hquote s hrest

theorem toList_quoted (quote : Char) (special : Char → Bool) (s : String) :
    (quoted quote special s).toList = quote :: (doubled special s.toList ++ [quote]) := by
  rw [quoted, String.toList_ofList]

theorem toList_quoted_append (quote : Char) (special : Char → Bool) (s : String)
    (rest : List Char) :
    (quoted quote special s).toList ++ rest =
      quote :: (doubled special s.toList ++ quote :: rest) := by
  rw [toList_quoted, List.cons_append, List.append_assoc, List.singleton_append]

/-- Different texts are different when they are quoted. -/
theorem quoted_inj (hquote : special quote = true) {s t : String} :
    quoted quote special s = quoted quote special t ↔ s = t := by
  have hread : ∀ s : String, unquote quote special (quoted quote special s).toList =
      some (s.toList, []) :=
    fun s => (unquote_eq_some_iff hquote).mpr ⟨toList_quoted quote special s, by simp⟩
  refine ⟨fun h => ?_, congrArg _⟩
  have hs := hread s
  rw [h, hread t] at hs
  exact (String.toList_inj.mp (Prod.mk.inj (Option.some.inj hs)).1).symm

end

/-- Two classes of characters that are doubled one after the other are doubled together. -/
theorem doubled_doubled {p q : Char → Bool} (h : ∀ c, p c = true → q c = false)
    (cs : List Char) :
    doubled q (doubled p cs) = doubled (fun c => q c || p c) cs := by
  induction cs with
  | nil => rfl
  | cons c cs ih =>
    cases hp : p c with
    | true => simp [doubled, hp, h c hp, ih]
    | false => cases hq : q c <;> simp [doubled, hp, hq, ih]

end SchemaMigration.Text
