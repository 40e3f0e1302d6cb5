/-!
# Hangul syllables

A precomposed Hangul syllable is a leading consonant, a vowel and possibly a trailing consonant
(*jamo*), and its code point is computed from theirs: 19 leads, 21 vowels, and 27 trails or none.
Code points are plain numbers here.
-/

set_option autoImplicit false

namespace Gazetteer.Text.Hangul

def firstSyllable : Nat := 0xAC00

def firstLead : Nat := 0x1100

def firstVowel : Nat := 0x1161

/-- The code point before the first trailing consonant, so that number 0 means "no trail". -/
def noTrail : Nat := 0x11A7

/-- Precomposed syllables: 19 leads, 21 vowels and 28 ways to end. -/
def syllables : Nat := 19 * 21 * 28

def isSyllable (n : Nat) : Bool := firstSyllable ≤ n && n < firstSyllable + syllables

/-- The two or three jamo of a precomposed syllable. -/
def split? (n : Nat) : Option (List Nat) :=
  if isSyllable n then
    let number := n - firstSyllable
    let body := [firstLead + number / (21 * 28), firstVowel + number % (21 * 28) / 28]
    some (if number % 28 = 0 then body else body ++ [noTrail + number % 28])
  else none

/-- Joins a lead and a vowel, or a syllable that ends in its vowel and a trail. -/
def join? (a b : Nat) : Option Nat :=
  if firstLead ≤ a && a < firstLead + 19 && firstVowel ≤ b && b < firstVowel + 21 then
    some (firstSyllable + ((a - firstLead) * 21 + (b - firstVowel)) * 28)
  else if isSyllable a && (a - firstSyllable) % 28 == 0 && noTrail < b && b < noTrail + 28 then
    some (a + (b - noTrail))
  else none

end Gazetteer.Text.Hangul
