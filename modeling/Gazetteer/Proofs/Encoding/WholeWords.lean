import Gazetteer.Proofs.Encoding.Counting
import Gazetteer.Proofs.Text.Tokens

/-!
# Whole words among the features

Pieces of words and whole words share one space of features, and training counts them in one map. A
whole word stands between two marks, and a piece may hold a mark too: that of the beginning or that
of the end. What keeps them apart is that no word has a mark of its own
(`unmarked_of_mem_tokenize`), so a piece with both marks would be all of the word
(`eq_of_marked_within`), and pieces are shorter than what they are cut from. So **a whole word is
counted as often as the word occurs** (`WholeWordsApart`), in the features of a text and in the
vocabulary of a collection.
-/

set_option autoImplicit false

namespace Gazetteer

namespace FeatureKind

/-! ## Marks -/

/-- The feature that stands for a whole word. -/
def wholeWord (word : String) : String := String.ofList (marked word)

theorem wholeWord_inj {a b : String} : wholeWord a = wholeWord b ↔ a = b := by
  rw [wholeWord, wholeWord, String.ofList_inj, marked, marked, List.append_left_inj,
    List.cons_inj_right, String.toList_inj]

/-- Neither mark is a character of the word. -/
structure Unmarked (word : List Char) : Prop where
  first : '<' ∉ word
  last : '>' ∉ word

theorem unmarked_of_mem_tokenize {text token : String} {language : Language}
    (h : token ∈ tokenize text language) : Unmarked token.toList := by
  have hmarks : ¬ Text.IsTokenChar '<' ∧ ¬ Text.IsTokenChar '>' := by
    simp only [Text.IsTokenChar]
    decide +kernel
  have hchars := isTokenChar_of_mem_tokenize h
  exact ⟨fun hmem => hmarks.1 (hchars _ hmem), fun hmem => hmarks.2 (hchars _ hmem)⟩

/-- A stretch of a marked word that begins and ends as marked words do is all of it. -/
theorem eq_of_marked_within {word inner : List Char} (hword : Unmarked word)
    (h : '<' :: inner ++ ['>'] <:+: '<' :: word ++ ['>']) : inner = word := by
  obtain ⟨front, back, heq⟩ := h
  -- behind the first character there is no other mark of a beginning
  have hfront : front = [] := by
    cases front with
    | nil => rfl
    | cons c front =>
      have hrest : front ++ ('<' :: inner ++ ['>']) ++ back = word ++ ['>'] :=
        (List.cons.inj heq).2
      have hmem : '<' ∈ word ++ ['>'] := by
        rw [← hrest]
        simp
      exact absurd (List.mem_append.mp hmem) (by simp [hword.first])
  -- and before the last character no other mark of an end
  have hback : back = [] := by
    cases hlast : back.getLast? with
    | none => exact List.getLast?_eq_none_iff.mp hlast
    | some c =>
      obtain ⟨back, rfl⟩ := List.getLast?_eq_some_iff.mp hlast
      rw [← List.append_assoc] at heq
      have hrest : front ++ ('<' :: inner ++ ['>']) ++ back = '<' :: word :=
        (List.append_inj' heq rfl).1
      have hmem : '>' ∈ '<' :: word := by
        rw [← hrest]
        simp
      exact absurd (List.mem_cons.mp hmem) (by simp [hword.last])
  rw [hfront, hback, List.nil_append, List.append_nil] at heq
  exact List.append_cancel_right (List.cons.inj heq).2

/-! ## Pieces -/

theorem infix_of_mem_windows {α : Type} {width : Nat} {l piece : List α} :
    piece ∈ windows width l → piece <:+: l ∧ piece.length = width := by
  induction l with
  | nil => exact fun h => absurd h List.not_mem_nil
  | cons a rest ih =>
    intro h
    rw [windows] at h
    split at h
    · rename_i hwidth
      rcases List.mem_cons.mp h with rfl | h
      · exact ⟨(List.take_prefix _ _).isInfix, List.length_take_of_le hwidth⟩
      · obtain ⟨hpiece, hlength⟩ := ih h
        exact ⟨hpiece.trans (List.suffix_cons a rest).isInfix, hlength⟩
    · cases h

/-- The features of a word behind the first, which is the whole word. -/
def piecesOf (width : Nat) (word : String) : List String := (gramsOf width word).tail

theorem gramsOf_eq (width : Nat) (word : String) :
    gramsOf width word = wholeWord word :: piecesOf width word := rfl

/-- **No piece of a word is taken for a whole word.** -/
theorem wholeWord_not_mem_piecesOf {word : String} (hword : Unmarked word.toList) (width : Nat)
    (w : String) : wholeWord w ∉ piecesOf width word := by
  intro h
  rw [piecesOf, gramsOf, List.tail_cons] at h
  split at h
  · cases h
  · rename_i hlonger
    obtain ⟨piece, hpiece, heq⟩ := List.mem_map.mp h
    obtain ⟨hwithin, hlength⟩ := infix_of_mem_windows hpiece
    rw [wholeWord, String.ofList_inj] at heq
    rw [heq] at hwithin hlength
    -- it would be as long as the marked word, which is longer than a piece
    have hsame : w = word := String.toList_inj.mp (eq_of_marked_within hword hwithin)
    rw [hsame] at hlength
    omega

theorem count_gramsOf {word : String} (hword : Unmarked word.toList) (width : Nat) (w : String) :
    (gramsOf width word).count (wholeWord w) = [word].count w := by
  have hpieces := List.count_eq_zero.mpr (wholeWord_not_mem_piecesOf hword width w)
  rw [gramsOf_eq, List.count_cons, hpieces, List.count_singleton]
  simp only [beq_iff_eq, wholeWord_inj, Nat.zero_add]

theorem count_flatMap_gramsOf (width : Nat) (w : String) {words : List String}
    (h : ∀ word ∈ words, Unmarked word.toList) :
    (words.flatMap (gramsOf width)).count (wholeWord w) = words.count w := by
  induction words with
  | nil => rfl
  | cons word words ih =>
    obtain ⟨hword, hwords⟩ := List.forall_mem_cons.mp h
    rw [List.flatMap_cons, List.count_append, count_gramsOf hword, ih hwords,
      ← List.count_append, List.singleton_append]

end FeatureKind

/-! ## Texts and collections -/

/-- The words of a text that count: neither stop words nor too short. -/
def keptWords (text : String) (language : Language) (minTokenLength : UInt64) : List String :=
  (tokenize text language).filter fun w => minTokenLength.toNat ≤ w.length

/-- All words that count in a collection of documents, repetitions included. -/
def TrainingOptions.wordsOf (o : TrainingOptions) (documents : List String) : List String :=
  documents.flatMap fun d => keptWords d o.language o.minTokenLength

open FeatureKind

theorem unmarked_of_mem_keptWords {text : String} {language : Language} {minTokenLength : UInt64} :
    ∀ word ∈ keptWords text language minTokenLength, Unmarked word.toList :=
  fun _ hword => unmarked_of_mem_tokenize (List.mem_filter.mp hword).1

theorem FeatureKind.features_grams (width : UInt64) (text : String) (language : Language)
    (minTokenLength : UInt64) : (grams width).features text language minTokenLength =
      (keptWords text language minTokenLength).flatMap (gramsOf width.toNat) := rfl

theorem FeatureKind.count_features (width : UInt64) (text : String) (language : Language)
    (minTokenLength : UInt64) (w : String) :
    ((grams width).features text language minTokenLength).count (wholeWord w) =
      (keptWords text language minTokenLength).count w := by
  rw [features_grams]
  exact count_flatMap_gramsOf width.toNat w unmarked_of_mem_keptWords

/-- A marked word no longer than a piece is not cut, and no piece of a longer one has both marks. -/
example : (grams 3).features "2 ab" .english 1 = ["<2>", "<ab>", "<ab", "ab>"] := by
  decide +kernel

theorem Vocabulary.count_occurrences (width : UInt64) (o : TrainingOptions)
    (documents : List String) (w : String) :
    (occurrences (.grams width) o documents).count (wholeWord w) =
      (o.wordsOf documents).count w := by
  induction documents with
  | nil => rfl
  | cons d documents ih =>
    have hsplit : occurrences (.grams width) o (d :: documents) =
        (FeatureKind.grams width).features d o.language o.minTokenLength ++
          occurrences (.grams width) o documents := rfl
    rw [hsplit, List.count_append, ih, count_features, TrainingOptions.wordsOf,
      TrainingOptions.wordsOf, List.flatMap_cons, List.count_append]

/-- A vocabulary has the counts of all features that occur often enough, in words of 32 bits. -/
theorem Vocabulary.frequency?_train (kind : FeatureKind) (o : TrainingOptions)
    (documents : List String) (f : String) :
    (train kind o documents).1.frequency? f =
      let count := (occurrences kind o documents).count f
      if 0 < count ∧ o.minFrequency ≤ UInt32.ofNat count then some (UInt32.ofNat count)
      else none := by
  show ((tally (occurrences kind o documents)).filter (o.minFrequency ≤ ·)).get? f = _
  rw [SortedMap.get?_filter, get?_tally]
  by_cases hf : f ∈ occurrences kind o documents
  · simp only [if_pos hf, Option.filter_some, List.count_pos_iff.mpr hf, true_and,
      decide_eq_true_eq]
  · simp only [if_neg hf, Option.filter_none, List.count_eq_zero.mpr hf, Nat.lt_irrefl, false_and,
      if_false]

section Frequencies

variable (width : UInt64) (o : TrainingOptions) (documents : List String) (w : String)

theorem Vocabulary.frequency?_wholeWord :
    (train (.grams width) o documents).1.frequency? (wholeWord w) =
      let count := (o.wordsOf documents).count w
      if 0 < count ∧ o.minFrequency ≤ UInt32.ofNat count then some (UInt32.ofNat count)
      else none := by
  rw [frequency?_train, count_occurrences]

/-- As long as the occurrences of a word can be counted, its frequency is their number. -/
theorem Vocabulary.frequency?_wholeWord_eq_some_iff
    (hcountable : (o.wordsOf documents).count w < 0x100000000) (n : UInt32) :
    (train (.grams width) o documents).1.frequency? (wholeWord w) = some n ↔
      n.toNat = (o.wordsOf documents).count w ∧ 0 < n.toNat ∧ o.minFrequency ≤ n := by
  have htoNat : (UInt32.ofNat ((o.wordsOf documents).count w)).toNat =
      (o.wordsOf documents).count w := UInt32.toNat_ofNat_of_lt' hcountable
  simp only [frequency?_wholeWord, Option.ite_none_right_eq_some, Option.some.injEq]
  constructor
  · rintro ⟨⟨hpos, hmin⟩, rfl⟩
    exact ⟨htoNat, htoNat.symm ▸ hpos, hmin⟩
  · rintro ⟨hn, hpos, hmin⟩
    have hsame : UInt32.ofNat ((o.wordsOf documents).count w) = n :=
      UInt32.toNat_inj.mp (htoNat.trans hn.symm)
    exact ⟨⟨hn ▸ hpos, hsame.symm ▸ hmin⟩, hsame⟩

end Frequencies

/-- Pieces of words of a given width are never taken for whole words. -/
structure WholeWordsApart (width : UInt64) : Prop where
  /-- Among the features of a text, a whole word is there as often as the word. -/
  features : ∀ text language minTokenLength w,
    ((FeatureKind.grams width).features text language minTokenLength).count (wholeWord w) =
      (keptWords text language minTokenLength).count w
  /-- No piece of a word that counts is a whole word. -/
  pieces : ∀ text language minTokenLength, ∀ word ∈ keptWords text language minTokenLength,
    ∀ w, wholeWord w ∉ piecesOf width.toNat word
  /--
  After training, the frequency of a whole word is how often the word occurs in the collection, as
  a word of 32 bits; it has none if the word does not occur or not often enough.
  -/
  frequency : ∀ (o : TrainingOptions) documents w,
    (Vocabulary.train (.grams width) o documents).1.frequency? (wholeWord w) =
      let count := (o.wordsOf documents).count w
      if 0 < count ∧ o.minFrequency ≤ UInt32.ofNat count then some (UInt32.ofNat count) else none
  /--
  So it is in an encoder, for whole texts or for parts, that was trained with options that make
  sense: as long as the occurrences can be counted, the frequency is their number, and there is one
  exactly if that is not below the least frequency.
  -/
  trained : ∀ (e : Encoder) texts (o : TrainingOptions), e.base.shape.kind = .grams width →
    o.fault? = none → ∃ v, (e.train texts o).state.base.vocabulary = some v ∧
      ∀ w, let count := (o.wordsOf (texts.flatMap e.documents)).count w
        count < 0x100000000 → ∀ n, v.frequency? (wholeWord w) = some n ↔
          n.toNat = count ∧ o.minFrequency ≤ n

/-- **Whole words are counted apart from the pieces of words**, for every width of these. -/
theorem wholeWordsApart (width : UInt64) : WholeWordsApart width where
  features := count_features width
  pieces := fun _ _ _ word hword w =>
    wholeWord_not_mem_piecesOf (unmarked_of_mem_keptWords word hword) width.toNat w
  frequency := Vocabulary.frequency?_wholeWord width
  trained := by
    intro e texts o hkind ho
    refine ⟨(e.trained texts o).1, by rw [e.train_eq texts ho, Encoder.base_withVocabulary], ?_⟩
    intro w count hcountable n
    rw [Encoder.trained, hkind, Vocabulary.frequency?_wholeWord_eq_some_iff width o _ w hcountable]
    -- a frequency that is not below the least is not zero
    have hpos : o.minFrequency ≤ n → 0 < n.toNat := fun hmin =>
      (TrainingOptions.minFrequency_pos (TrainingOptions.minFrequency_ne_zero ho)).trans_le
        (UInt32.le_iff_toNat_le.mp hmin)
    exact and_congr_right fun _ => and_iff_right_of_imp hpos

end Gazetteer
