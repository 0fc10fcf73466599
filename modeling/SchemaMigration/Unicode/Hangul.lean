/-!
# Hangul syllables

A syllable is one character, and it is also the sequence of its letters: a leading consonant, a
vowel, and perhaps a trailing consonant.  The code points are laid out so that either form is
computed from the other.
-/

namespace SchemaMigration.Unicode.Hangul

/-- The first syllable. -/
def syllableBase : Nat := 0xAC00

/-- The first of 19 leading consonants. -/
def leadingBase : Nat := 0x1100

/-- The first of 21 vowels. -/
def vowelBase : Nat := 0x1161

/-- One before the first of 27 trailing consonants: the place of no consonant at all. -/
def trailingBase : Nat := 0x11A7

/-- Whether a code point is one of the 19 · 21 · 28 syllables. -/
def IsSyllable (n : Nat) : Prop := syllableBase ≤ n ∧ n < syllableBase + 11172

instance (n : Nat) : Decidable (IsSyllable n) :=
  inferInstanceAs (Decidable (syllableBase ≤ n ∧ n < syllableBase + 11172))

/-- The letters of a syllable. -/
def decompose? (c : Char) : Option (List Char) :=
  if IsSyllable c.toNat then
    let index := c.toNat - syllableBase
    let leading := Char.ofNat (leadingBase + index / 588)
    let vowel := Char.ofNat (vowelBase + index / 28 % 21)
    let trailing := index % 28
    if trailing = 0 then some [leading, vowel]
    else some [leading, vowel, Char.ofNat (trailingBase + trailing)]
  else none

/-- A leading consonant and a vowel make a syllable, and such a syllable takes up a trailing
consonant. -/
def compose? (a b : Char) : Option Char :=
  let n := a.toNat
  let m := b.toNat
  if leadingBase ≤ n ∧ n < leadingBase + 19 ∧ vowelBase ≤ m ∧ m < vowelBase + 21 then
    some (Char.ofNat (syllableBase + ((n - leadingBase) * 21 + (m - vowelBase)) * 28))
  else if IsSyllable n ∧ (n - syllableBase) % 28 = 0 ∧ trailingBase < m ∧ m < trailingBase + 28 then
    some (Char.ofNat (n + (m - trailingBase)))
  else none

end SchemaMigration.Unicode.Hangul
