import Gazetteer.Proofs.Text.Words

/-!
# Tokens

The tokens of a text are found by splitting its normal spelling, and as that is put together from its
words, they are its words without the stop words (`tokenize_eq`). Two facts about them: **the tokens
of two texts with a space between them are those of the first and then those of the second**
(`tokenize_append_space`), whatever the second begins with, since nothing crosses a space; and every
character of a token is a letter or digit, or the dot that stands above a small letter when a dotted
capital was lowered (`isTokenChar_of_mem_tokenize`).
-/

set_option autoImplicit false

namespace Gazetteer

namespace Text

/-! ## The characters of words -/

/-- What words are made of: letters and digits, and the dot of a dotted capital in lower case. -/
def IsTokenChar (c : Char) : Prop := isAlphanumeric c = true ∨ c = '\u0307'

theorem isTokenChar_of_mem_lowerChars {c d : Char} (hc : isAlphanumeric c = true)
    (hd : d ∈ lowerChars c) : IsTokenChar d := by
  by_cases hdotted : c.toNat = 0x130
  · have hpair : lowerChars c = ['i', '\u0307'] := by rw [lowerChars, if_pos hdotted]
    rw [hpair, List.mem_pair] at hd
    rcases hd with rfl | rfl
    · exact Or.inl (by decide +kernel)
    · exact Or.inr rfl
  · rw [lowerChars_eq hdotted, List.mem_singleton] at hd
    rw [hd, IsTokenChar, isAlphanumeric_lowerChar]
    exact Or.inl hc

theorem isTokenChar_of_mem_wordsIn {cs w : List Char} (h : w ∈ wordsIn cs) :
    ∀ c ∈ w, IsTokenChar c := by
  rw [wordsIn_eq_map] at h
  obtain ⟨run, hrun, rfl⟩ := List.mem_map.mp h
  intro d hd
  obtain ⟨c, hc, hd⟩ := List.mem_flatMap.mp hd
  exact isTokenChar_of_mem_lowerChars (alphanumeric_of_mem_letterRuns hrun c hc) hd

end Text

/-! ## Tokens -/

/-- Splitting the normal spelling gives the words it was put together from. -/
theorem tokenize_eq (s : String) (language : Language) :
    tokenize s language = (Text.wordsOf s).filter fun w => !language.isStopWord w := by
  rw [tokenize, Text.splitBlank_normalize, Text.wordsOf_eq]

theorem isTokenChar_of_mem_tokenize {text token : String} {language : Language}
    (h : token ∈ tokenize text language) : ∀ c ∈ token.toList, Text.IsTokenChar c := by
  rw [tokenize_eq, Text.wordsOf_eq] at h
  obtain ⟨w, hw, rfl⟩ := List.mem_map.mp (List.mem_filter.mp h).1
  rw [String.toList_ofList]
  exact Text.isTokenChar_of_mem_wordsIn hw

theorem wordsOf_append_space (a b : String) :
    Text.wordsOf (a ++ " " ++ b) = Text.wordsOf a ++ Text.wordsOf b := by
  have hlist : (a ++ " " ++ b).toList = a.toList ++ ' ' :: b.toList := by
    rw [String.toList_append, String.toList_append, List.append_assoc]
    rfl
  rw [Text.wordsOf_eq, hlist, Text.wordsIn_append_space, List.map_append]
  rfl

/--
**The tokens of texts with a space between them are the tokens of each.** The second text may begin
with marks or with the vowel of a syllable, and the first may end in anything: a space is joined to
neither.
-/
theorem tokenize_append_space (a b : String) (language : Language) :
    tokenize (a ++ " " ++ b) language = tokenize a language ++ tokenize b language := by
  rw [tokenize_eq, tokenize_eq, tokenize_eq, wordsOf_append_space, List.filter_append]

end Gazetteer
