/-!
# Searching and splitting

Occurrence of one text inside another, splitting at a separator, and ASCII case folding.
-/

namespace SchemaMigration.Text

/-- Whether `needle` stands somewhere in the list; the empty needle stands everywhere. -/
def occursIn (needle : List Char) : List Char → Bool
  | [] => needle.isEmpty
  | c :: cs => needle.isPrefixOf (c :: cs) || occursIn needle cs

/-- Whether the text `hay` contains the text `needle`. -/
def contains (hay needle : String) : Bool := occursIn needle.toList hay.toList

/-- The pieces between separators.  There is always one piece more than there are separators, so
the empty list has one empty piece. -/
def splitAtEach (separator : Char) : List Char → List (List Char)
  | [] => [[]]
  | c :: cs =>
    if c = separator then [] :: splitAtEach separator cs
    else
      match splitAtEach separator cs with
      | [] => [[c]]
      | piece :: rest => (c :: piece) :: rest

/-- The text before the first separator, and the text after it if there is one. -/
def splitAtFirst (separator : Char) (cs : List Char) : List Char × Option (List Char) :=
  match cs.dropWhile (· ≠ separator) with
  | [] => (cs, none)
  | _ :: rest => (cs.takeWhile (· ≠ separator), some rest)

/-- The text before the last separator, if there is a separator, and the text after it. -/
def splitAtLast (separator : Char) (cs : List Char) : Option (List Char) × List Char :=
  let after := (cs.reverse.takeWhile (· ≠ separator)).reverse
  if after.length = cs.length then (none, cs)
  else (some (cs.take (cs.length - after.length - 1)), after)

/-- Upper case for the letters `a` to `z`, all else unchanged. -/
def upperAscii (s : String) : String := String.ofList (s.toList.map Char.toUpper)

/-- Lower case for the letters `A` to `Z`, all else unchanged. -/
def lowerAscii (s : String) : String := String.ofList (s.toList.map Char.toLower)

theorem splitAtEach_ne_nil (separator : Char) (cs : List Char) : splitAtEach separator cs ≠ [] := by
  cases cs with
  | nil => simp [splitAtEach]
  | cons c cs =>
    rw [splitAtEach]
    split
    · simp
    · split <;> simp

/-- A text without the separator is one piece. -/
theorem splitAtEach_of_not_mem {separator : Char} {cs : List Char} (h : separator ∉ cs) :
    splitAtEach separator cs = [cs] := by
  induction cs with
  | nil => rfl
  | cons c cs ih =>
    rw [List.mem_cons, not_or] at h
    rw [splitAtEach, if_neg (Ne.symm h.1), ih h.2]

/-- The first separator ends a piece. -/
theorem splitAtEach_append {separator : Char} {before : List Char} (h : separator ∉ before)
    (rest : List Char) :
    splitAtEach separator (before ++ separator :: rest) = before :: splitAtEach separator rest := by
  induction before with
  | nil => rw [List.nil_append, splitAtEach, if_pos rfl]
  | cons c cs ih =>
    rw [List.mem_cons, not_or] at h
    rw [List.cons_append, splitAtEach, if_neg (Ne.symm h.1), ih h.2]

theorem splitAtFirst_of_not_mem {separator : Char} {cs : List Char} (h : separator ∉ cs) :
    splitAtFirst separator cs = (cs, none) := by
  have hall : ∀ c ∈ cs, decide (c ≠ separator) = true := fun c hc =>
    decide_eq_true fun heq => h (heq ▸ hc)
  have hnone : cs.dropWhile (fun c => decide (c ≠ separator)) = [] := by
    rw [← List.append_nil cs, List.dropWhile_append_of_pos hall, List.dropWhile_nil]
  rw [splitAtFirst, hnone]

theorem splitAtFirst_append {separator : Char} {before : List Char} (h : separator ∉ before)
    (rest : List Char) :
    splitAtFirst separator (before ++ separator :: rest) = (before, some rest) := by
  have hall : ∀ c ∈ before, decide (c ≠ separator) = true := fun c hc =>
    decide_eq_true fun heq => h (heq ▸ hc)
  rw [splitAtFirst, List.dropWhile_append_of_pos hall, List.takeWhile_append_of_pos hall]
  simp

theorem splitAtLast_append {separator : Char} {after : List Char} (h : separator ∉ after)
    (before : List Char) :
    splitAtLast separator (before ++ separator :: after) = (some before, after) := by
  -- The text is searched from its end, where `after` stands the other way round.
  have hreverse : (before ++ separator :: after).reverse
      = after.reverse ++ separator :: before.reverse := by simp
  have hall : ∀ c ∈ after.reverse, decide (c ≠ separator) = true := fun c hc =>
    decide_eq_true fun heq => h (heq ▸ List.mem_reverse.mp hc)
  have hafter : ((before ++ separator :: after).reverse.takeWhile (· ≠ separator)).reverse
      = after := by
    rw [hreverse, List.takeWhile_append_of_pos hall, List.takeWhile_cons_of_neg (by simp),
      List.append_nil, List.reverse_reverse]
  have hlength : (before ++ separator :: after).length - after.length - 1 = before.length := by
    rw [List.length_append, List.length_cons]
    omega
  rw [splitAtLast, hafter, if_neg (by rw [List.length_append, List.length_cons]; omega), hlength,
    List.take_left]

/-- Putting the separators back gives the text that was split. -/
theorem intercalate_splitAtEach (separator : Char) (cs : List Char) :
    List.intercalate [separator] (splitAtEach separator cs) = cs := by
  induction cs with
  | nil => rfl
  | cons c cs ih =>
    rw [splitAtEach]
    split
    · next hc =>
      cases hs : splitAtEach separator cs with
      | nil => exact absurd hs (splitAtEach_ne_nil separator cs)
      | cons piece rest => rw [List.intercalate_cons_cons, ← hs, ih, hc]; rfl
    · split
      · next hs => exact absurd hs (splitAtEach_ne_nil separator cs)
      · next piece rest hs =>
        rw [hs] at ih
        rw [← ih]
        cases rest <;> simp [List.intercalate]

/-- Pieces without the separator are the pieces of what they are joined to. -/
theorem splitAtEach_intercalate {separator : Char} {pieces : List (List Char)} (hne : pieces ≠ [])
    (h : ∀ piece ∈ pieces, separator ∉ piece) :
    splitAtEach separator (List.intercalate [separator] pieces) = pieces := by
  induction pieces with
  | nil => contradiction
  | cons first rest ih =>
    have hfirst := h first List.mem_cons_self
    cases rest with
    | nil => rw [List.intercalate_singleton, splitAtEach_of_not_mem hfirst]
    | cons second rest =>
      have hrest := ih (List.cons_ne_nil second rest) fun piece hpiece =>
        h piece (List.mem_cons_of_mem first hpiece)
      rw [List.intercalate_cons_cons, List.append_assoc, List.singleton_append,
        splitAtEach_append hfirst, hrest]

end SchemaMigration.Text
