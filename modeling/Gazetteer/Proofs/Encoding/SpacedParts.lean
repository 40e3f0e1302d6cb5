import Gazetteer.Proofs.Encoding.Training
import Gazetteer.Proofs.Text.Blanks
import Gazetteer.Proofs.Text.Splitting
import Gazetteer.Proofs.Text.Tokens

/-!
# Separators that make no difference

An encoder for parts cuts a text before it looks for words, so a cut might tear a word, or a letter
from its accent, or leave out a word that stands in the separator. A separator that begins and ends
with a space and has no token of its own does none of this (`Transparent`): the parts have the
tokens of the whole, in the same order (`tokenize_splitAround`). Everything that training and
encoding do with a text they do with its tokens, so **the encoder for parts is the encoder for whole texts**
(`PartsEncoder.agrees_train`).
-/

set_option autoImplicit false

namespace Gazetteer

/-! ## Tokens -/

/-- A separator that keeps off the words around it and is no token itself. -/
structure Transparent (separator : String) (language : Language) : Prop where
  spaced : Text.Spaced separator.toList
  tokenless : tokenize separator language = []

/-- The tokens of a list of characters. -/
def tokensIn (language : Language) (cs : List Char) : List String :=
  tokenize (String.ofList cs) language

theorem tokensIn_eq (language : Language) (cs : List Char) :
    tokensIn language cs =
      ((Text.wordsIn cs).map String.ofList).filter fun w => !language.isStopWord w := by
  rw [tokensIn, tokenize_eq, Text.wordsOf_eq, String.toList_ofList]

theorem tokensIn_append_spaced {separator : List Char} (h : Text.Spaced separator)
    (language : Language) (before after : List Char) :
    tokensIn language (before ++ (separator ++ after)) =
      tokensIn language before ++ (tokensIn language separator ++ tokensIn language after) := by
  simp only [tokensIn_eq, Text.wordsIn_append_spaced h, List.map_append, List.filter_append]

theorem Transparent.tokensIn_append {separator : String} {language : Language}
    (h : Transparent separator language) (before after : List Char) :
    tokensIn language (before ++ (separator.toList ++ after)) =
      tokensIn language before ++ tokensIn language after := by
  have hnone : tokensIn language separator.toList = [] := by
    rw [tokensIn, String.ofList_toList, h.tokenless]
  rw [tokensIn_append_spaced h.spaced, hnone, List.nil_append]

/-- Wherever a text is cut at such a separator, its parts have its tokens. -/
theorem Transparent.tokensIn_of_leftmostSplit {separator : String} {language : Language}
    (h : Transparent separator language) {text : List Char} {parts : List (List Char)}
    (hsplit : Text.LeftmostSplit separator.toList text parts) :
    parts.flatMap (tokensIn language) = tokensIn language text := by
  induction hsplit with
  | last absent => exact List.flatMap_singleton _ _
  | next first rest ih => rw [List.flatMap_cons, ih, h.tokensIn_append]

theorem Transparent.ne_empty {separator : String} {language : Language}
    (h : Transparent separator language) : separator ≠ "" := by
  rintro rfl
  exact absurd h.spaced.first nofun

/-- **The parts of a text have the tokens of the text, in the same order.** -/
theorem Transparent.tokenize_splitAround {separator : String} {language : Language}
    (h : Transparent separator language) (text : String) :
    (Text.splitAround separator text).flatMap (tokenize · language) = tokenize text language := by
  have hparts := h.tokensIn_of_leftmostSplit (Text.leftmostSplit_splitAround h.ne_empty text)
  have htoken : ∀ s : String, tokensIn language s.toList = tokenize s language := by
    intro s
    rw [tokensIn, String.ofList_toList]
  rw [List.flatMap_map, htoken] at hparts
  simpa only [htoken] using hparts

/-! ## Features -/

/-- Features are made token by token. -/
theorem FeatureKind.flatMap_features {texts : List String} {text : String} {language : Language}
    (h : texts.flatMap (tokenize · language) = tokenize text language) (kind : FeatureKind)
    (minTokenLength : UInt64) :
    texts.flatMap (fun t => kind.features t language minTokenLength) =
      kind.features text language minTokenLength := by
  cases kind with
  | words => simp only [features, ← h, List.filter_flatMap]
  | grams width => simp only [features, ← h, List.filter_flatMap, List.flatMap_assoc]

/-- Texts that have the tokens of another text hit what that hits. -/
theorem BucketEncoder.hitsOf_eq {texts : List String} {text : String} {v : Vocabulary}
    (h : texts.flatMap (tokenize · v.language) = tokenize text v.language) (e : BucketEncoder) :
    e.hitsOf v texts = e.hitsOf v [text] := by
  have hknown : texts.flatMap (e.knownFeatures v) = e.knownFeatures v text := by
    unfold knownFeatures
    rw [← FeatureKind.flatMap_features h, List.filter_flatMap]
  rw [hitsOf, hitsOf, hknown, List.flatMap_singleton]

theorem Vocabulary.train_congr {kind : FeatureKind} {o : TrainingOptions}
    {documents others : List String}
    (h : occurrences kind o documents = occurrences kind o others) :
    train kind o documents = train kind o others := by
  unfold train
  rw [h]

/-! ## Encoding and training -/

namespace PartsEncoder

variable {e : PartsEncoder}

theorem flatMap_tokenize_split {language : Language} (h : Transparent e.separator language)
    (text : String) : (e.split text).flatMap (tokenize · language) = tokenize text language :=
  h.tokenize_splitAround text

theorem encode_eq_base {v : Vocabulary} (hv : e.base.vocabulary = some v)
    (h : Transparent e.separator v.language) (text : String) :
    TextEncoder.encode e text = TextEncoder.encode e.base text := by
  show e.base.encodeParts (e.split text) = e.base.encodeParts [text]
  rw [BucketEncoder.encodeParts_eq hv, BucketEncoder.encodeParts_eq hv,
    e.base.hitsOf_eq (flatMap_tokenize_split h text)]

/--
An encoder for parts has become the one for whole texts: both trainings succeed, and leave the same
vocabulary and the same vector for every text.
-/
structure Agrees (parts : Step PartsEncoder EncoderError TrainingReport)
    (whole : Step BucketEncoder EncoderError TrainingReport) : Prop where
  /-- Both find the same number of features and keep the same number. -/
  report : ∃ p w, parts.result = .ok p ∧ whole.result = .ok w ∧
    p.distinct = w.distinct ∧ p.kept = w.kept
  vocabulary : ∃ v, parts.state.base.vocabulary = some v ∧ whole.state.vocabulary = some v
  encode : ∀ text, ∃ vector, TextEncoder.encode parts.state text = .ok vector ∧
    TextEncoder.encode whole.state text = .ok vector

/--
**Around a separator that makes no difference, training and encoding part by part is training and
encoding as a whole**, for every collection and every text.
-/
theorem agrees_train (e : PartsEncoder) {o : TrainingOptions} (ho : o.fault? = none)
    (h : Transparent e.separator o.language) (corpus : List String) :
    Agrees (TextEncoder.train e corpus o) (TextEncoder.train e.base corpus o) := by
  have hoccurrences : Vocabulary.occurrences e.base.shape.kind o (corpus.flatMap e.split) =
      Vocabulary.occurrences e.base.shape.kind o corpus := by
    rw [Vocabulary.occurrences, Vocabulary.occurrences, List.flatMap_assoc]
    simp only [FeatureKind.flatMap_features (flatMap_tokenize_split h _)]
  have htrain := Vocabulary.train_congr hoccurrences
  show Agrees (PartsEncoder.train e corpus o) (BucketEncoder.trainOn e.base corpus o)
  unfold train BucketEncoder.trainOn
  simp only [ho, htrain]
  refine ⟨⟨_, _, rfl, rfl, rfl, rfl⟩, ⟨_, rfl, rfl⟩, fun text => ?_⟩
  -- both encoders have the new vocabulary, and its language is that of the options
  let v := (Vocabulary.train e.base.shape.kind o corpus).1
  let trained : PartsEncoder := { e with base := { e.base with vocabulary := some v } }
  have hsame : TextEncoder.encode trained text = TextEncoder.encode trained.base text :=
    encode_eq_base (e := trained) (v := v) rfl h text
  exact ⟨_, hsame.trans (BucketEncoder.encodeParts_eq rfl [text]),
    BucketEncoder.encodeParts_eq rfl [text]⟩

/-- An encoder for the parts around the default separator. -/
def headings : PartsEncoder where
  base := ⟨{}, none, rfl⟩
  separator := defaultSeparator
  separates := by decide

/-- One separator runs into the next, and an accent stands right behind one. -/
theorem agrees_train_headings :
    ({} : TrainingOptions).fault? = none ∧ Transparent headings.separator .english ∧
      headings.split "Caf / / \u0301e" = ["Caf", "/ \u0301e"] ∧
      Agrees (TextEncoder.train headings ["Caf / / \u0301e"] {})
        (TextEncoder.train headings.base ["Caf / / \u0301e"] {}) := by
  have ho : ({} : TrainingOptions).fault? = none := by decide
  have hseparator : Transparent headings.separator .english :=
    ⟨⟨by decide, by decide⟩, by decide +kernel⟩
  exact ⟨ho, hseparator, by decide +kernel, agrees_train headings ho hseparator _⟩

end PartsEncoder

end Gazetteer
