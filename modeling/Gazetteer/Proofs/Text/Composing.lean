import Gazetteer.Proofs.Text.Decompositions
import Mathlib.Data.List.Chain

/-!
# Composing as a run

`composeAfter` walks along a text with a starter in hand and the marks that found no partner, and
decides at each character whether it is joined, begins anew, or waits. `ComposesAfter` says the same
with one rule for each decision, so that what holds of composed texts is proved by cases on the
decisions. A rule also says which pairs were looked up: all of them have the property `P`.

A text is composed of letters and marks that stand in canonical order and cannot be taken apart
(`Decomposed`). Whatever was decided on the way, **taking the outcome apart gives them back**
(`Composes.canonicalOrder_flatMap`).
-/

set_option autoImplicit false

namespace Gazetteer.Text

/-! ## Canonical order -/

/-- `d` may stand right behind `c`: it is a starter, or a mark of no lower class. -/
def MayFollow (c d : Char) : Prop := combiningClass d = 0 ∨ combiningClass c ≤ combiningClass d

/-- A text whose marks stand in canonical order. -/
def Ordered (cs : List Char) : Prop := cs.IsChain MayFollow

theorem ordered_insertMark {c : Char} : ∀ {cs : List Char}, Ordered cs → Ordered (insertMark c cs) := by
  intro cs
  induction cs with
  | nil => intro _; exact .singleton c
  | cons d rest ih =>
    intro h
    obtain ⟨hhead, hrest⟩ := List.isChain_cons.mp h
    rw [insertMark]
    split
    · rename_i hpass
      refine List.isChain_cons.mpr ⟨?_, ih hrest⟩
      -- behind `d` stands `c` now, or what stood there
      intro e he
      have hc : MayFollow d c := Or.inr (by omega)
      cases rest with
      | nil =>
        rw [insertMark, List.head?_cons, Option.mem_some_iff] at he
        exact he ▸ hc
      | cons f rest =>
        rw [insertMark] at he
        split at he
        · exact hhead e he
        · rw [List.head?_cons, Option.mem_some_iff] at he
          exact he ▸ hc
    · rename_i hstop
      refine List.isChain_cons_cons.mpr ⟨?_, h⟩
      unfold MayFollow
      omega

theorem ordered_canonicalOrder (cs : List Char) : Ordered (canonicalOrder cs) := by
  induction cs with
  | nil => exact .nil
  | cons c rest ih => exact ordered_insertMark ih

theorem canonicalOrder_of_ordered {cs : List Char} (h : Ordered cs) : canonicalOrder cs = cs := by
  induction cs with
  | nil => rfl
  | cons c rest ih =>
    obtain ⟨hhead, hrest⟩ := List.isChain_cons.mp h
    show insertMark c (canonicalOrder rest) = c :: rest
    rw [ih hrest]
    cases rest with
    | nil => rfl
    | cons d rest =>
      have hfollow : MayFollow c d := hhead d rfl
      unfold MayFollow at hfollow
      rw [insertMark, if_neg (by omega)]

/-- Two marks of different classes come to the same places, whichever is put in first. -/
theorem insertMark_comm {c d : Char} (hc : combiningClass c ≠ 0) (hd : combiningClass d ≠ 0)
    (hne : combiningClass c ≠ combiningClass d) :
    ∀ cs : List Char, insertMark c (insertMark d cs) = insertMark d (insertMark c cs) := by
  intro cs
  induction cs with
  | nil =>
    simp only [insertMark]
    split <;> split <;> first | rfl | omega
  | cons e rest ih =>
    by_cases hce : 0 < combiningClass e ∧ combiningClass e < combiningClass c <;>
      by_cases hde : 0 < combiningClass e ∧ combiningClass e < combiningClass d
    · simp only [insertMark, if_pos hce, if_pos hde, ih]
    · have hdc : 0 < combiningClass d ∧ combiningClass d < combiningClass c := by omega
      simp only [insertMark, if_pos hce, if_neg hde, if_pos hdc]
    · have hcd : 0 < combiningClass c ∧ combiningClass c < combiningClass d := by omega
      simp only [insertMark, if_neg hce, if_pos hde, if_pos hcd]
    · simp only [insertMark, if_neg hce, if_neg hde]
      split <;> split <;> first | rfl | omega

theorem canonicalOrder_append (cs ds : List Char) :
    canonicalOrder (cs ++ ds) = cs.foldr insertMark (canonicalOrder ds) := List.foldr_append

/-- A mark may be written in front of marks of lower classes. -/
theorem canonicalOrder_move {c : Char} {marks : List Char} (rest : List Char)
    (h : ∀ d ∈ marks, combiningClass d ≠ 0 ∧ combiningClass d < combiningClass c) :
    canonicalOrder (c :: marks ++ rest) = canonicalOrder (marks ++ c :: rest) := by
  induction marks with
  | nil => rfl
  | cons d marks ih =>
    obtain ⟨hd, hlt⟩ := h d List.mem_cons_self
    have hmarks := ih fun e he => h e (List.mem_cons_of_mem d he)
    show insertMark c (insertMark d (canonicalOrder (marks ++ rest))) =
      insertMark d (canonicalOrder (marks ++ c :: rest))
    rw [insertMark_comm (by omega) hd (by omega), ← hmarks]
    rfl

/-- Without one of its marks a text is still in order. -/
theorem Ordered.erase_mark {front back : List Char} {c : Char} (h : Ordered (front ++ c :: back))
    (hc : combiningClass c ≠ 0) : Ordered (front ++ back) := by
  obtain ⟨hfront, hback, hjoin⟩ := List.isChain_append.mp h
  obtain ⟨hhead, hrest⟩ := List.isChain_cons.mp hback
  refine List.isChain_append.mpr ⟨hfront, hrest, fun x hx y hy => ?_⟩
  have hxc : MayFollow x c := hjoin x hx c rfl
  have hcy : MayFollow c y := hhead y hy
  unfold MayFollow at *
  omega

theorem Ordered.of_append {front back : List Char} (h : Ordered (front ++ back)) :
    Ordered front ∧ Ordered back :=
  ⟨(List.isChain_append.mp h).1, (List.isChain_append.mp h).2.1⟩

/-! ## Letters and marks -/

/-- A text taken apart: its marks stand in order, and nothing in it can be taken apart. -/
structure Decomposed (cs : List Char) : Prop where
  whole : ∀ c ∈ cs, decompose c = [c]
  ordered : Ordered cs

theorem mem_insertMark {c d : Char} {cs : List Char} : d ∈ insertMark c cs ↔ d = c ∨ d ∈ cs := by
  induction cs with
  | nil => rw [insertMark, List.mem_singleton]; simp
  | cons e rest ih =>
    rw [insertMark]
    split
    · rw [List.mem_cons, ih, List.mem_cons]
      exact or_left_comm
    · rw [List.mem_cons]

theorem mem_canonicalOrder {d : Char} {cs : List Char} : d ∈ canonicalOrder cs ↔ d ∈ cs := by
  induction cs with
  | nil => rfl
  | cons c rest ih =>
    show d ∈ insertMark c (canonicalOrder rest) ↔ d ∈ c :: rest
    rw [mem_insertMark, ih, List.mem_cons]

/-- What the composed form of a text is composed of. -/
theorem decomposed_canonicalOrder (cs : List Char) :
    Decomposed (canonicalOrder (cs.flatMap decompose)) where
  whole := by
    intro d hd
    obtain ⟨c, -, hc⟩ := List.mem_flatMap.mp (mem_canonicalOrder.mp hd)
    exact decompose_of_mem_decompose hc
  ordered := ordered_canonicalOrder _

/-! ## The run -/

/-- The starter is within reach of `c`: no mark of its class or a higher one stands between. -/
def Reaches (held : List Char) (c : Char) : Prop :=
  ∀ d ∈ held.head?, combiningClass d < combiningClass c

/--
Composing what follows a starter, where `held` are the marks since the starter that found no
partner, the nearest first. All pairs that are looked up on the way have the property `P`.
-/
inductive ComposesAfter (P : Char → Char → Prop) : Char → List Char → List Char → List Char → Prop
  | done {starter : Char} {held : List Char} :
    ComposesAfter P starter held [] (starter :: held.reverse)
  | join {starter joined c : Char} {held rest out : List Char} (reaches : Reaches held c)
    (met : P starter c) (pair : composePair starter c = some joined)
    (tail : ComposesAfter P joined held rest out) : ComposesAfter P starter held (c :: rest) out
  | next {starter c : Char} {held rest out : List Char}
    (apart : Reaches held c → P starter c ∧ composePair starter c = none)
    (begins : combiningClass c = 0) (tail : ComposesAfter P c [] rest out) :
    ComposesAfter P starter held (c :: rest) (starter :: held.reverse ++ out)
  | wait {starter c : Char} {held rest out : List Char}
    (apart : Reaches held c → P starter c ∧ composePair starter c = none)
    (mark : combiningClass c ≠ 0) (tail : ComposesAfter P starter (c :: held) rest out) :
    ComposesAfter P starter held (c :: rest) out

/-- Composing a text: marks without a starter stay. -/
inductive Composes (P : Char → Char → Prop) : List Char → List Char → Prop
  | nil : Composes P [] []
  | mark {c : Char} {rest out : List Char} (mark : combiningClass c ≠ 0)
    (tail : Composes P rest out) : Composes P (c :: rest) (c :: out)
  | starter {c : Char} {rest out : List Char} (begins : combiningClass c = 0)
    (block : ComposesAfter P c [] rest out) : Composes P (c :: rest) out

/-- The class of the nearest mark that waits. -/
def nearestClass : List Char → Nat
  | [] => 0
  | d :: _ => combiningClass d

theorem reachable_iff {held : List Char} {c : Char} :
    (held.isEmpty || decide (nearestClass held < combiningClass c)) = true ↔ Reaches held c := by
  cases held with
  | nil => simp [Reaches]
  | cons d rest =>
    simp only [List.isEmpty_cons, Bool.false_or, nearestClass, Reaches, List.head?_cons,
      Option.mem_some_iff, forall_eq']
    exact decide_eq_true_iff

/-- What `composeAfter` does with the next character, in a form that names its decisions. -/
theorem composeAfter_cons (starter : Char) (held : List Char) (c : Char) (rest : List Char) :
    (∃ joined, Reaches held c ∧ composePair starter c = some joined ∧
        composeAfter starter held (nearestClass held) (c :: rest) =
          composeAfter joined held (nearestClass held) rest) ∨
      (Reaches held c → composePair starter c = none) ∧
        composeAfter starter held (nearestClass held) (c :: rest) =
          if combiningClass c = 0 then starter :: held.reverse ++ composeAfter c [] 0 rest
          else composeAfter starter (c :: held) (combiningClass c) rest := by
  have hreach := @reachable_iff held c
  by_cases hreaches : Reaches held c
  · rw [composeAfter, if_pos (hreach.mpr hreaches)]
    cases hpair : composePair starter c with
    | some joined => exact Or.inl ⟨joined, hreaches, rfl, rfl⟩
    | none => exact Or.inr ⟨fun _ => rfl, rfl⟩
  · rw [composeAfter, if_neg (mt hreach.mp hreaches)]
    exact Or.inr ⟨fun h => absurd h hreaches, rfl⟩

theorem ComposesAfter.eq {P : Char → Char → Prop} {starter : Char} {held rest out : List Char}
    (h : ComposesAfter P starter held rest out) :
    composeAfter starter held (nearestClass held) rest = out := by
  induction h with
  | done => rfl
  | @join starter joined c held rest out hreaches _ hpair _ ih =>
    rcases composeAfter_cons starter held c rest with ⟨joined', _, hpair', heq⟩ | ⟨hapart, _⟩
    · rw [hpair, Option.some.injEq] at hpair'
      rw [heq, ← hpair', ih]
    · rw [hapart hreaches] at hpair
      cases hpair
  | @next starter c held rest out hapart hbegins _ ih =>
    rcases composeAfter_cons starter held c rest with ⟨joined, hreaches, hpair, _⟩ | ⟨_, heq⟩
    · rw [(hapart hreaches).2] at hpair
      cases hpair
    · rw [heq, if_pos hbegins]
      exact congrArg _ ih
  | @wait starter c held rest out hapart hmark _ ih =>
    rcases composeAfter_cons starter held c rest with ⟨joined, hreaches, hpair, _⟩ | ⟨_, heq⟩
    · rw [(hapart hreaches).2] at hpair
      cases hpair
    · rw [heq, if_neg hmark]
      exact ih

theorem Composes.eq {P : Char → Char → Prop} {cs out : List Char} (h : Composes P cs out) :
    compose cs = out := by
  induction h with
  | nil => rfl
  | mark hmark _ ih => rw [compose, if_neg hmark, ih]
  | starter hbegins hblock =>
    rw [compose, if_pos hbegins]
    exact hblock.eq

/-! ## Which pairs are looked up -/

/-- The pairs that are looked up while what follows a starter is composed. -/
def pairsMetAfter (starter : Char) (held : List Char) : List Char → List (Char × Char)
  | [] => []
  | c :: rest =>
    let reachable := held.isEmpty || nearestClass held < combiningClass c
    let tail :=
      match if reachable then composePair starter c else none with
      | some joined => pairsMetAfter joined held rest
      | none =>
        if combiningClass c = 0 then pairsMetAfter c [] rest
        else pairsMetAfter starter (c :: held) rest
    if reachable then (starter, c) :: tail else tail

/-- The pairs that are looked up while a text is composed. -/
def pairsMet : List Char → List (Char × Char)
  | [] => []
  | c :: rest => if combiningClass c = 0 then pairsMetAfter c [] rest else pairsMet rest

section PairsMet

variable {P : Char → Char → Prop}

theorem composesAfter_of_pairsMet : ∀ (rest : List Char) (starter : Char) (held : List Char),
    (∀ pair ∈ pairsMetAfter starter held rest, P pair.1 pair.2) →
      ComposesAfter P starter held rest (composeAfter starter held (nearestClass held) rest) := by
  intro rest
  induction rest with
  | nil => intro starter held _; exact .done
  | cons c rest ih =>
    intro starter held hmet
    -- what is decided of a character that is not joined
    have hapart (hnone : Reaches held c → P starter c ∧ composePair starter c = none)
        (hmet : ∀ pair ∈ if combiningClass c = 0 then pairsMetAfter c [] rest
          else pairsMetAfter starter (c :: held) rest, P pair.1 pair.2) :
        ComposesAfter P starter held (c :: rest)
          (if combiningClass c = 0 then starter :: held.reverse ++ composeAfter c [] 0 rest
          else composeAfter starter (c :: held) (combiningClass c) rest) := by
      split at hmet
      · rename_i hbegins
        rw [if_pos hbegins]
        exact .next hnone hbegins (ih c [] hmet)
      · rename_i hmark
        rw [if_neg hmark]
        exact .wait hnone hmark (ih starter (c :: held) hmet)
    rw [pairsMetAfter] at hmet
    rw [composeAfter]
    have hreach := @reachable_iff held c
    by_cases hreaches : Reaches held c
    · simp only [if_pos (hreach.mpr hreaches)] at hmet ⊢
      obtain ⟨hpair, htail⟩ := List.forall_mem_cons.mp hmet
      cases hjoined : composePair starter c with
      | some joined =>
        rw [hjoined] at htail
        exact .join hreaches hpair hjoined (ih joined held htail)
      | none =>
        rw [hjoined] at htail
        exact hapart (fun _ => ⟨hpair, hjoined⟩) htail
    · simp only [if_neg (mt hreach.mp hreaches)] at hmet ⊢
      exact hapart (fun h => absurd h hreaches) hmet

theorem composes_of_pairsMet {cs : List Char} :
    (∀ pair ∈ pairsMet cs, P pair.1 pair.2) → Composes P cs (compose cs) := by
  induction cs with
  | nil => exact fun _ => .nil
  | cons c rest ih =>
    intro hmet
    rw [pairsMet] at hmet
    rw [compose]
    split at hmet
    · rename_i hc
      rw [if_pos hc]
      exact .starter hc (composesAfter_of_pairsMet rest c [] hmet)
    · rename_i hc
      rw [if_neg hc]
      exact .mark hc (ih hmet)

theorem composes_compose (cs : List Char) : Composes (fun _ _ => True) cs (compose cs) :=
  composes_of_pairsMet fun _ _ => trivial

end PairsMet

/-! ## Nothing is lost -/

/-- What stands behind a starter on the way: marks that wait, and letters and marks still to come. -/
structure Waiting (held rest : List Char) : Prop where
  marks : ∀ d ∈ held, combiningClass d ≠ 0
  decomposed : Decomposed (held.reverse ++ rest)

section Waiting

variable {starter c d : Char} {held rest : List Char}

theorem Waiting.wait (h : Waiting held (c :: rest)) (hc : combiningClass c ≠ 0) :
    Waiting (c :: held) rest where
  marks := List.forall_mem_cons.mpr ⟨hc, h.marks⟩
  decomposed := by
    rw [List.reverse_cons, List.append_assoc]
    exact h.decomposed

theorem Decomposed.tail {c : Char} {cs : List Char} (h : Decomposed (c :: cs)) : Decomposed cs where
  whole := fun d hd => h.whole d (List.mem_cons_of_mem c hd)
  ordered := (List.isChain_cons.mp h.ordered).2

/-- Behind a starter that has just come nothing waits. -/
theorem Decomposed.waiting {c : Char} {cs : List Char} (h : Decomposed (c :: cs)) :
    Waiting [] cs where
  marks := fun _ hd => absurd hd List.not_mem_nil
  decomposed := h.tail

theorem Waiting.next (h : Waiting held (c :: rest)) : Waiting [] rest :=
  Decomposed.waiting
    { whole := fun d hd => h.decomposed.whole d (List.mem_append_right _ hd)
      ordered := h.decomposed.ordered.of_append.2 }

/-- Nothing that waits has a higher class than what comes next, unless a starter comes. -/
theorem Waiting.le (h : Waiting held (c :: rest)) (hd : d ∈ held) :
    combiningClass c = 0 ∨ combiningClass d ≤ combiningClass c := by
  induction held generalizing c rest with
  | nil => cases hd
  | cons e held ih =>
    have hordered : Ordered (held.reverse ++ e :: c :: rest) := by
      have h := h.decomposed.ordered
      rwa [List.reverse_cons, List.append_assoc] at h
    have hec : MayFollow e c := (List.isChain_cons_cons.mp hordered.of_append.2).1
    have hmark : combiningClass e ≠ 0 := h.marks e List.mem_cons_self
    rcases List.mem_cons.mp hd with rfl | hd
    · exact hec
    · have hwaiting : Waiting held (e :: c :: rest) :=
        { marks := fun x hx => h.marks x (List.mem_cons_of_mem e hx)
          decomposed :=
            { whole := fun x hx => h.decomposed.whole x (by simpa using hx)
              ordered := hordered } }
      rcases ih hwaiting hd with hzero | hle
      · exact absurd hzero hmark
      · exact hec.imp_right hle.trans

/-- What reaches the starter has a higher class than all that waits. -/
theorem Waiting.lt_of_reaches (h : Waiting held rest) (hreaches : Reaches held c) (hd : d ∈ held) :
    combiningClass d < combiningClass c := by
  cases held with
  | nil => cases hd
  | cons e held =>
    have hec : combiningClass e < combiningClass c := hreaches e rfl
    rcases List.mem_cons.mp hd with rfl | hd
    · exact hec
    · have hwaiting : Waiting held (e :: rest) :=
        { marks := fun x hx => h.marks x (List.mem_cons_of_mem e hx)
          decomposed := by
            have hdecomposed := h.decomposed
            rwa [List.reverse_cons, List.append_assoc] at hdecomposed }
      have hmark : combiningClass e ≠ 0 := h.marks e List.mem_cons_self
      rcases hwaiting.le hd with hzero | hle
      · exact absurd hzero hmark
      · omega

theorem Waiting.join (h : Waiting held (c :: rest)) (hreaches : Reaches held c) :
    Waiting held rest where
  marks := h.marks
  decomposed :=
    { whole := fun d hd => h.decomposed.whole d (by
        rw [List.mem_append] at hd ⊢
        exact hd.imp_right (List.mem_cons_of_mem c))
      ordered := by
        by_cases hc : combiningClass c = 0
        · -- a starter reaches the one in hand only if nothing waits
          cases held with
          | nil => exact h.next.decomposed.ordered
          | cons d held =>
            have hlt : combiningClass d < combiningClass c := hreaches d rfl
            omega
        · exact h.decomposed.ordered.erase_mark hc }

theorem Waiting.flatMap_decompose (h : Waiting held rest) :
    held.reverse.flatMap decompose = held.reverse := by
  have hwhole : ∀ d ∈ held.reverse, decompose d = [d] := fun d hd =>
    h.decomposed.whole d (List.mem_append_left _ hd)
  rw [List.flatMap_congr hwhole, List.flatMap_singleton']

end Waiting

theorem canonicalOrder_append_congr (front : List Char) {cs ds : List Char}
    (h : canonicalOrder cs = canonicalOrder ds) :
    canonicalOrder (front ++ cs) = canonicalOrder (front ++ ds) := by
  rw [canonicalOrder_append, canonicalOrder_append, h]

/-- Taking the outcome apart gives back the starter, what waited and what was to come. -/
theorem ComposesAfter.canonicalOrder_flatMap {P : Char → Char → Prop} {starter : Char}
    {held rest out : List Char} (h : ComposesAfter P starter held rest out)
    (hwaiting : Waiting held rest) :
    canonicalOrder (out.flatMap decompose) =
      canonicalOrder (decompose starter ++ (held.reverse ++ rest)) := by
  induction h with
  | done => rw [List.flatMap_cons, hwaiting.flatMap_decompose, List.append_nil]
  | @join starter joined c held rest out hreaches _ hpair _ ih =>
    have hmarks : ∀ d ∈ held.reverse, combiningClass d ≠ 0 ∧ combiningClass d < combiningClass c :=
      fun d hd => ⟨hwaiting.marks d (List.mem_reverse.mp hd),
        hwaiting.lt_of_reaches hreaches (List.mem_reverse.mp hd)⟩
    rw [ih (hwaiting.join hreaches), (decompose_of_composePair hpair).1, List.append_assoc,
      List.singleton_append, ← List.cons_append]
    exact canonicalOrder_append_congr _ (canonicalOrder_move rest hmarks)
  | @next starter c held rest out _ _ _ ih =>
    have hc : decompose c = [c] := hwaiting.decomposed.whole c (by simp)
    have hrest := ih hwaiting.next
    rw [hc, List.reverse_nil, List.nil_append] at hrest
    rw [List.flatMap_append, List.flatMap_cons, hwaiting.flatMap_decompose, List.append_assoc]
    exact canonicalOrder_append_congr _ (canonicalOrder_append_congr _ hrest)
  | wait _ hmark _ ih =>
    rw [ih (hwaiting.wait hmark), List.reverse_cons, List.append_assoc]
    rfl

/-- **Taking a composed text apart gives back what it was composed of.** -/
theorem Composes.canonicalOrder_flatMap {P : Char → Char → Prop} {cs out : List Char}
    (h : Composes P cs out) (hcs : Decomposed cs) :
    canonicalOrder (out.flatMap decompose) = cs := by
  rw [← canonicalOrder_of_ordered hcs.ordered]
  induction h with
  | nil => rfl
  | @mark c rest out hmark _ ih =>
    rw [List.flatMap_cons, hcs.whole c List.mem_cons_self]
    exact canonicalOrder_append_congr [c] (ih hcs.tail)
  | @starter c rest out _ hblock =>
    rw [hblock.canonicalOrder_flatMap hcs.waiting, hcs.whole c List.mem_cons_self]
    rfl

end Gazetteer.Text
