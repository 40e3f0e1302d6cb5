import Gazetteer.Proofs.Encoding.Counting
import Gazetteer.Proofs.Encoding.SpacedParts

/-!
# Vectors of joined texts

The vector of a text with several parts is the sum of the vectors of its parts. So if two texts are
joined by the separator, their vectors should be added; but then the joined text has to fall into
these two again, and it does so only if no occurrence of the separator begins in the first. A
separator that overlaps itself, behind a text that ends as it begins, is found too early
(`not_encode_joined`).

`JoinContract` says when joining is adding: where the cut is made behind the first text, and where
it makes no difference where cuts are made. Only for separators that overlap themselves and are not
`Transparent` does it depend on the texts.
-/

set_option autoImplicit false

namespace Gazetteer

theorem BucketEncoder.hitsOf_append (e : BucketEncoder) (v : Vocabulary)
    (parts others : List String) :
    e.hitsOf v (parts ++ others) = e.hitsOf v parts ++ e.hitsOf v others := by
  rw [hitsOf, hitsOf, hitsOf, List.flatMap_append, List.flatMap_append]

namespace PartsEncoder

variable {e : PartsEncoder} {v : Vocabulary} {a b : String}

/-! ## Taking apart what was joined -/

/-- Two texts with the separator between them. -/
def join (e : PartsEncoder) (a b : String) : String := a ++ e.separator ++ b

theorem toList_join (e : PartsEncoder) (a b : String) :
    (e.join a b).toList = a.toList ++ (e.separator.toList ++ b.toList) := by
  rw [join, String.toList_append, String.toList_append, List.append_assoc]

theorem leftmostSplit_split (e : PartsEncoder) (text : String) :
    Text.LeftmostSplit e.separator.toList text.toList ((e.split text).map String.toList) :=
  Text.leftmostSplit_splitAround e.separates text

/-- A list of parts that is a way to cut a text is the parts of the text. -/
theorem split_eq {text : String} {parts : List String}
    (h : Text.LeftmostSplit e.separator.toList text.toList (parts.map String.toList)) :
    e.split text = parts :=
  (List.map_inj_right fun _ _ => String.toList_inj.mp).mp ((e.leftmostSplit_split text).unique h)

theorem split_of_absent (h : ∀ n, ¬ e.separator.toList <+: a.toList.drop n) : e.split a = [a] :=
  split_eq (.last h)

theorem split_join (h : Text.CutBehind e.separator.toList a.toList) (b : String) :
    e.split (e.join a b) = e.split a ++ e.split b := by
  have hne : e.separator.toList ≠ [] := fun hnil => e.separates (String.toList_eq_nil_iff.mp hnil)
  rw [split_of_absent (h.not_prefix_drop hne)]
  refine split_eq ?_
  rw [toList_join]
  exact (e.leftmostSplit_split b).joined h

/-- Two texts, the second without the separator, are taken apart exactly if it is cut behind the
first. -/
theorem split_join_eq_iff (hb : ¬ e.separator.toList <:+: b.toList) :
    e.split (e.join a b) = [a, b] ↔ Text.CutBehind e.separator.toList a.toList := by
  constructor
  · intro h
    have hsplit := e.leftmostSplit_split (e.join a b)
    rw [h, toList_join] at hsplit
    exact hsplit.cutBehind
  · intro h
    have hne : e.separator.toList ≠ [] := fun hnil =>
      e.separates (String.toList_eq_nil_iff.mp hnil)
    rw [split_join h, split_of_absent (h.not_prefix_drop hne),
      split_of_absent (Text.not_prefix_drop_of_not_infix hb)]
    rfl

/-! ## Adding -/

theorem Transparent.tokenize_join (h : Transparent e.separator v.language) (a b : String) :
    [a, b].flatMap (tokenize · v.language) = tokenize (e.join a b) v.language := by
  have htokens := h.tokensIn_append a.toList b.toList
  rw [← toList_join] at htokens
  simpa [tokensIn] using htokens.symm

/-- Joining adds hits where the cut is made between the two, or where it does not matter. -/
theorem hitsOf_split_join
    (h : Text.CutBehind e.separator.toList a.toList ∨ Transparent e.separator v.language)
    (b : String) :
    e.base.hitsOf v (e.split (e.join a b)) =
      e.base.hitsOf v (e.split a) ++ e.base.hitsOf v (e.split b) := by
  rcases h with hcut | htransparent
  · rw [split_join hcut, BucketEncoder.hitsOf_append]
  · have hwhole : ∀ text, e.base.hitsOf v (e.split text) = e.base.hitsOf v [text] := fun text =>
      e.base.hitsOf_eq (flatMap_tokenize_split htransparent text)
    rw [hwhole, hwhole, hwhole, ← BucketEncoder.hitsOf_append, List.singleton_append,
      e.base.hitsOf_eq (Transparent.tokenize_join htransparent a b)]

/-- Where hits are added and can be counted, vectors are added. -/
theorem encode_of_hitsOf {text : String} (hv : e.base.vocabulary = some v)
    (hhits : e.base.hitsOf v (e.split text) =
      e.base.hitsOf v (e.split a) ++ e.base.hitsOf v (e.split b))
    (hcount : ∀ c, (e.base.hitsOf v (e.split text)).count c ≤ Binary32.countLimit) :
    ∃ x y, TextEncoder.encode e a = .ok x ∧ TextEncoder.encode e b = .ok y ∧
      TextEncoder.encode e text = .ok (Array.zipWith (· + ·) x y) := by
  obtain ⟨x, hx, hxsize, hxcount⟩ := BucketEncoder.isCount_encodeParts hv (e.split a)
  obtain ⟨y, hy, hysize, hycount⟩ := BucketEncoder.isCount_encodeParts hv (e.split b)
  obtain ⟨z, hz, hzsize, hzcount⟩ := BucketEncoder.isCount_encodeParts hv (e.split text)
  have hsum : z = Array.zipWith (· + ·) x y := by
    refine Array.ext (by rw [Array.size_zipWith]; omega) fun c hc hc' => ?_
    rw [Array.size_zipWith] at hc'
    -- the component stands for the same count on both sides
    have hfit := hcount c
    rw [hhits, List.count_append] at hfit
    have hxc := hxcount c (by omega)
    have hyc := hycount c (by omega)
    have hzc := hzcount c hc
    rw [Nat.min_eq_right (by omega)] at hxc hyc
    rw [hhits, List.count_append, Nat.min_eq_right hfit] at hzc
    rw [Array.getElem_zipWith]
    exact hzc.eq (hxc.add hyc hfit)
  exact ⟨x, y, hx, hy, hsum ▸ hz⟩

/-- What joining does to parts and to vectors. -/
structure JoinContract (e : PartsEncoder) (v : Vocabulary) : Prop where
  /-- What was joined is taken apart again exactly if no occurrence begins earlier. -/
  split : ∀ a b, ¬ e.separator.toList <:+: b.toList →
    (e.split (e.join a b) = [a, b] ↔ Text.CutBehind e.separator.toList a.toList)
  /-- To be safe behind all texts without it is for a separator not to overlap itself. -/
  safe : (∀ a : List Char, ¬ e.separator.toList <:+: a → Text.CutBehind e.separator.toList a) ↔
    Text.OverlapFree e.separator.toList
  /-- Joining is adding where the cut is made between the two, or where it does not matter. -/
  sum : ∀ a b,
    Text.CutBehind e.separator.toList a.toList ∨ Transparent e.separator v.language →
    (∀ c, (e.base.hitsOf v (e.split (e.join a b))).count c ≤ Binary32.countLimit) →
    ∃ x y, TextEncoder.encode e a = .ok x ∧ TextEncoder.encode e b = .ok y ∧
      TextEncoder.encode e (e.join a b) = .ok (Array.zipWith (· + ·) x y)

/-- **Joining two texts adds their vectors**, if the joined text falls into the two again. -/
theorem joinContract (hv : e.base.vocabulary = some v) : JoinContract e v where
  split _ _ := split_join_eq_iff
  safe := Text.forall_cutBehind_iff
  sum _ b h hcount := encode_of_hitsOf hv (hitsOf_split_join h b) hcount

/-- Words around a separator that overlaps itself, with a vocabulary if there is one. -/
def around (vocabulary : Option Vocabulary) : PartsEncoder where
  base := ⟨⟨3, 1, .words⟩, vocabulary, rfl⟩
  separator := "aa"
  separates := by decide

def twins : PartsEncoder := around (some ⟨.english, 1, .ofList [("xa", 1), ("y", 1)]⟩)

/-- Joining is not always adding: after training, `"xaaay"` is cut behind `"x"`. -/
theorem not_encode_joined :
    (TextEncoder.train (around none) ["xa", "y"] {}).state = twins ∧
    ¬ ∀ a b : String, ¬ twins.separator.toList <:+: a.toList →
      ¬ twins.separator.toList <:+: b.toList →
      (∀ v, twins.base.vocabulary = some v → ∀ c,
        (twins.base.hitsOf v (twins.split a)).count c ≤ Binary32.countLimit ∧
        (twins.base.hitsOf v (twins.split b)).count c ≤ Binary32.countLimit ∧
        (twins.base.hitsOf v (twins.split (twins.join a b))).count c ≤ Binary32.countLimit) →
      ∃ x y, TextEncoder.encode twins a = .ok x ∧ TextEncoder.encode twins b = .ok y ∧
        TextEncoder.encode twins (twins.join a b) = .ok (Array.zipWith (· + ·) x y) := by
  refine ⟨by decide +kernel, fun h => ?_⟩
  have hlength : ∀ v, twins.base.vocabulary = some v →
      (twins.base.hitsOf v (twins.split "xa")).length ≤ Binary32.countLimit ∧
      (twins.base.hitsOf v (twins.split "y")).length ≤ Binary32.countLimit ∧
      (twins.base.hitsOf v (twins.split (twins.join "xa" "y"))).length ≤ Binary32.countLimit := by
    intro v hv
    cases hv
    decide +kernel
  obtain ⟨x, y, hx, hy, hsum⟩ := h "xa" "y" (by decide) (by decide) fun v hv c =>
    ⟨Nat.le_trans List.count_le_length (hlength v hv).1,
      Nat.le_trans List.count_le_length (hlength v hv).2.1,
      Nat.le_trans List.count_le_length (hlength v hv).2.2⟩
  have hxa : TextEncoder.encode twins "xa" = .ok #[.zero, .zero, .one] := by decide +kernel
  have hye : TextEncoder.encode twins "y" = .ok #[.one, .zero, .zero] := by decide +kernel
  have hjoined : TextEncoder.encode twins (twins.join "xa" "y") = .ok #[.zero, .zero, .zero] := by
    decide +kernel
  obtain rfl := Except.ok.inj (hxa.symm.trans hx)
  obtain rfl := Except.ok.inj (hye.symm.trans hy)
  have heq := Except.ok.inj (hjoined.symm.trans hsum)
  exact absurd heq (by decide +kernel)

/-- Behind a text that does not end as the separator begins, even this separator is safe. -/
theorem joinContract_twins :
    ∃ v, twins.base.vocabulary = some v ∧ JoinContract twins v ∧
      twins.split (twins.join "y" "xa") = ["y", "xa"] := by
  have hcontract := joinContract (e := twins) rfl
  refine ⟨_, rfl, hcontract, (hcontract.split "y" "xa" (by decide)).mpr ?_⟩
  intro n hn
  obtain rfl : n = 0 := by
    have hlength : ("y".toList).length = 1 := by decide
    omega
  decide

end PartsEncoder

end Gazetteer
