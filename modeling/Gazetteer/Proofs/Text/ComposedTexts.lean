import Gazetteer.Proofs.Text.Composing

/-!
# Texts that are composed already

A text is composed when it is its own composed compatibility form. The form of any text is composed
(`isComposed_compatibilityForm`), and **every piece of a composed text is composed**
(`IsComposed.piece`). The second is not obvious, since what a letter was joined to depends on the
marks around it: a piece that ends among the marks of a letter has been composed of less than stood
there. `Thins` says how much less.
-/

set_option autoImplicit false

namespace Gazetteer.Text

/-- A text in its composed compatibility form. -/
def IsComposed (cs : List Char) : Prop := compatibilityForm cs = cs

theorem Composes.isComposed {P : Char → Char → Prop} {cs out : List Char} (h : Composes P cs out)
    (hcs : Decomposed cs) : IsComposed out := by
  rw [IsComposed, compatibilityForm, h.canonicalOrder_flatMap hcs, h.eq]

/-- **Bringing a text into its composed compatibility form twice is no more than doing it once.** -/
theorem isComposed_compatibilityForm (cs : List Char) : IsComposed (compatibilityForm cs) :=
  (composes_compose _).isComposed (decomposed_canonicalOrder cs)

/-- Every composed text has been composed of letters and marks. -/
theorem IsComposed.exists_composes {cs : List Char} (h : IsComposed cs) :
    ∃ parts, Decomposed parts ∧ Composes (fun _ _ => True) parts cs := by
  refine ⟨_, decomposed_canonicalOrder cs, ?_⟩
  have hrun := composes_compose (canonicalOrder (cs.flatMap decompose))
  rw [← compatibilityForm, h] at hrun
  exact hrun

/-! ## Pieces of a composed text -/

/-- What is left of a text when marks are taken out and the end is cut off. -/
structure Thins (cs ds : List Char) : Prop where
  subset : ds ⊆ cs
  ordered : ∀ front, Ordered (front ++ cs) → Ordered (front ++ ds)

theorem Thins.decomposed {cs ds : List Char} (h : Thins cs ds) (hcs : Decomposed cs) :
    Decomposed ds where
  whole := fun c hc => hcs.whole c (h.subset hc)
  ordered := h.ordered [] hcs.ordered

theorem Thins.nil (cs : List Char) : Thins cs [] where
  subset := List.nil_subset cs
  ordered := fun front h => by rw [List.append_nil]; exact h.of_append.1

theorem Thins.cons {cs ds : List Char} (c : Char) (h : Thins cs ds) : Thins (c :: cs) (c :: ds) where
  subset := List.cons_subset_cons c h.subset
  ordered := fun front hfront => by
    have hnext := h.ordered (front ++ [c])
    rw [List.append_assoc, List.append_assoc] at hnext
    exact hnext hfront

theorem Thins.skip {cs ds : List Char} {c : Char} (hc : combiningClass c ≠ 0) (h : Thins cs ds) :
    Thins (c :: cs) ds where
  subset := List.subset_cons_of_subset c h.subset
  ordered := fun front hfront => h.ordered front (hfront.erase_mark hc)

section Pieces

variable {P : Char → Char → Prop} {starter : Char} {cs held rest out : List Char}

/-- With fewer marks in the way, the starter comes to stand with those that are left. -/
theorem ComposesAfter.exists_shorter {kept ys : List Char}
    (h : ComposesAfter P starter held rest out) (hwaiting : Waiting held rest)
    (hlength : ys.length = kept.length + 1) (hys : ys <+: out) :
    ∀ {dropped : List Char}, held = dropped ++ kept →
      ∃ rest', Thins rest rest' ∧ ComposesAfter P starter kept rest' ys := by
  -- where the block of the starter ends, the piece is the starter with the marks that are kept
  have hblock {s : Char} {dropped more : List Char}
      (h : ys <+: s :: (dropped ++ kept).reverse ++ more) : ys = s :: kept.reverse := by
    rw [List.reverse_append, ← List.cons_append, List.append_assoc] at h
    refine (List.prefix_of_prefix_length_le h (List.prefix_append _ _) ?_).eq_of_length ?_ <;>
      simp [hlength]
  induction h with
  | @done starter held =>
    rintro dropped rfl
    rw [← List.append_nil (starter :: _)] at hys
    rw [hblock hys]
    exact ⟨[], .nil [], .done⟩
  | @join starter joined c held rest out hreaches hmet hpair _ ih =>
    intro dropped hheld
    obtain ⟨rest', hthins, hrun⟩ := ih (hwaiting.join hreaches) hys hheld
    refine ⟨c :: rest', hthins.cons c, .join (fun d hd => ?_) hmet hpair hrun⟩
    exact hwaiting.lt_of_reaches hreaches
      (hheld ▸ List.mem_append_right _ (List.mem_of_mem_head? hd))
  | next =>
    rintro dropped rfl
    rw [hblock hys]
    exact ⟨[], .nil _, .done⟩
  | wait _ hmark _ ih =>
    rintro dropped rfl
    obtain ⟨rest', hthins, hrun⟩ := ih (hwaiting.wait hmark) hys (List.cons_append ..).symm
    exact ⟨rest', hthins.skip hmark, hrun⟩

/-- A piece that holds the starter and all that waits has been composed of less of the rest. -/
theorem ComposesAfter.exists_prefix (h : ComposesAfter P starter held rest out) :
    Waiting held rest → ∀ {ys : List Char}, held.length < ys.length → ys <+: out →
      ∃ rest', Thins rest rest' ∧ ComposesAfter P starter held rest' ys := by
  induction h with
  | done =>
    intro _ ys hlength hys
    rw [hys.eq_of_length_le (by rw [List.length_cons, List.length_reverse]; exact hlength)]
    exact ⟨[], .nil [], .done⟩
  | @join starter joined c held rest out hreaches hmet hpair _ ih =>
    intro hwaiting ys hlength hys
    obtain ⟨rest', hthins, hrun⟩ := ih (hwaiting.join hreaches) hlength hys
    exact ⟨c :: rest', hthins.cons c, .join hreaches hmet hpair hrun⟩
  | @next starter c held rest out hapart hbegins _ ih =>
    intro hwaiting ys hlength hys
    obtain ⟨more, rfl⟩ := List.prefix_of_prefix_length_le (List.prefix_append _ out) hys
      (by rw [List.length_cons, List.length_reverse]; exact hlength)
    cases more with
    | nil =>
      rw [List.append_nil]
      exact ⟨[], .nil _, .done⟩
    | cons d more =>
      have hmore : d :: more <+: out := (List.prefix_append_right_inj _).mp hys
      obtain ⟨rest', hthins, hrun⟩ := ih hwaiting.next (by simp) hmore
      exact ⟨c :: rest', hthins.cons c, .next hapart hbegins hrun⟩
  | @wait starter c held rest out hapart hmark hrun ih =>
    intro hwaiting ys hlength hys
    by_cases hall : held.length + 1 < ys.length
    · obtain ⟨rest', hthins, hrun⟩ := ih (hwaiting.wait hmark) hall hys
      exact ⟨c :: rest', hthins.cons c, .wait hapart hmark hrun⟩
    · -- the piece ends before the mark
      obtain ⟨rest', hthins, hrun⟩ := hrun.exists_shorter (hwaiting.wait hmark)
        (by omega) hys (List.singleton_append ..).symm
      exact ⟨rest', hthins.skip hmark, hrun⟩

theorem Composes.exists_prefix (h : Composes P cs out) :
    Decomposed cs → ∀ {ys : List Char}, ys <+: out → ∃ cs', Thins cs cs' ∧ Composes P cs' ys := by
  induction h with
  | nil =>
    intro _ ys hys
    rw [List.prefix_nil.mp hys]
    exact ⟨[], .nil [], .nil⟩
  | @mark c rest out hmark _ ih =>
    intro hcs ys hys
    cases ys with
    | nil => exact ⟨[], .nil _, .nil⟩
    | cons d ys =>
      obtain ⟨rfl, htail⟩ := List.cons_prefix_cons.mp hys
      obtain ⟨cs', hthins, hrun⟩ := ih hcs.tail htail
      exact ⟨d :: cs', hthins.cons d, .mark hmark hrun⟩
  | @starter c rest out hbegins hblock =>
    intro hcs ys hys
    cases ys with
    | nil => exact ⟨[], .nil _, .nil⟩
    | cons d ys =>
      obtain ⟨rest', hthins, hrun⟩ := hblock.exists_prefix hcs.waiting (by simp) hys
      exact ⟨c :: rest', hthins.cons c, .starter hbegins hrun⟩

/-- Marks in front of a text stay there. -/
theorem Composes.append_marks (h : Composes P cs out) :
    ∀ {marks : List Char}, (∀ d ∈ marks, combiningClass d ≠ 0) →
      Composes P (marks ++ cs) (marks ++ out) := by
  intro marks
  induction marks with
  | nil => exact fun _ => h
  | cons d marks ih =>
    intro hmarks
    obtain ⟨hd, hrest⟩ := List.forall_mem_cons.mp hmarks
    exact .mark hd (ih hrest)

/-- Behind the first character of a block stand marks that waited, and what came after them. -/
theorem ComposesAfter.exists_tail (h : ComposesAfter P starter held rest out) :
    Waiting held rest →
      ∃ first ys parts, out = first :: ys ∧ Decomposed parts ∧ Composes P parts ys := by
  induction h with
  | @done starter held =>
    intro hwaiting
    have hmarks : ∀ d ∈ held.reverse, combiningClass d ≠ 0 := fun d hd =>
      hwaiting.marks d (List.mem_reverse.mp hd)
    have hrun := Composes.append_marks (P := P) .nil hmarks
    exact ⟨starter, held.reverse, held.reverse ++ [], rfl, hwaiting.decomposed,
      by rwa [List.append_nil] at hrun ⊢⟩
  | join hreaches _ _ _ ih => exact fun hwaiting => ih (hwaiting.join hreaches)
  | @next starter c held rest out _ hbegins hblock _ =>
    intro hwaiting
    have hmarks : ∀ d ∈ held.reverse, combiningClass d ≠ 0 := fun d hd =>
      hwaiting.marks d (List.mem_reverse.mp hd)
    exact ⟨starter, held.reverse ++ out, held.reverse ++ c :: rest, rfl, hwaiting.decomposed,
      (Composes.starter hbegins hblock).append_marks hmarks⟩
  | wait _ hmark _ ih => exact fun hwaiting => ih (hwaiting.wait hmark)

end Pieces

theorem IsComposed.front {cs ys : List Char} (h : IsComposed cs) (hys : ys <+: cs) :
    IsComposed ys := by
  obtain ⟨parts, hparts, hrun⟩ := h.exists_composes
  obtain ⟨parts', hthins, hrun'⟩ := hrun.exists_prefix hparts hys
  exact hrun'.isComposed (hthins.decomposed hparts)

theorem IsComposed.tail {c : Char} {cs : List Char} (h : IsComposed (c :: cs)) : IsComposed cs := by
  obtain ⟨parts, hparts, hrun⟩ := h.exists_composes
  cases hrun with
  | mark _ hrun => exact hrun.isComposed hparts.tail
  | starter _ hblock =>
    obtain ⟨first, ys, parts', heq, hparts', hrun'⟩ := hblock.exists_tail hparts.waiting
    obtain ⟨-, rfl⟩ := List.cons.inj heq
    exact hrun'.isComposed hparts'

/-- **Every piece of a composed text is composed.** -/
theorem IsComposed.piece {cs ys : List Char} (h : IsComposed cs) (hys : ys <:+: cs) :
    IsComposed ys := by
  obtain ⟨front, back, rfl⟩ := hys
  have hfront : IsComposed (front ++ ys) := h.front (List.prefix_append _ back)
  clear h
  induction front with
  | nil => exact hfront
  | cons c front ih => exact ih hfront.tail

/-! ## What stands in a composed text -/

section Closure

variable {P : Char → Char → Prop} {p : Char → Prop} {starter : Char} {cs held rest out : List Char}

/--
A block begins with the starter that is left after all joining, and goes on with what waited. What
was joined came from behind all that waited, and if nothing was, the starter is still the same.
-/
theorem ComposesAfter.exists_front (hp : ∀ {a m j}, p a → composePair a m = some j → p j)
    (h : ComposesAfter P starter held rest out) : Waiting held rest → p starter →
      ∃ first more joined, out = first :: (held.reverse ++ more) ∧ p first ∧
        decompose first = decompose starter ++ joined ∧
        (∀ m ∈ joined, ∀ d ∈ held, combiningClass d < combiningClass m) ∧
        (joined = [] → first = starter) := by
  induction h with
  | @done starter held =>
    intro _ hs
    exact ⟨starter, [], [], by rw [List.append_nil], hs, by rw [List.append_nil],
      fun _ hm => absurd hm List.not_mem_nil, fun _ => rfl⟩
  | @join starter joined c held rest out hreaches _ hpair _ ih =>
    intro hwaiting hs
    obtain ⟨first, more, marks, hout, hfirst, hparts, hmarks, -⟩ :=
      ih (hwaiting.join hreaches) (hp hs hpair)
    refine ⟨first, more, c :: marks, hout, hfirst, ?_, ?_, fun h => absurd h (List.cons_ne_nil _ _)⟩
    · rw [hparts, (decompose_of_composePair hpair).1, List.append_assoc, List.singleton_append]
    · exact List.forall_mem_cons.mpr ⟨fun d hd => hwaiting.lt_of_reaches hreaches hd, hmarks⟩
  | @next starter c held rest out _ _ _ _ =>
    intro _ hs
    exact ⟨starter, out, [], rfl, hs, by rw [List.append_nil],
      fun _ hm => absurd hm List.not_mem_nil, fun _ => rfl⟩
  | @wait starter c held rest out _ hmark _ ih =>
    intro hwaiting hs
    obtain ⟨first, more, marks, hout, hfirst, hparts, hmarks, hsame⟩ := ih (hwaiting.wait hmark) hs
    refine ⟨first, c :: more, marks, ?_, hfirst, hparts, fun m hm d hd =>
      hmarks m hm d (List.mem_cons_of_mem c hd), hsame⟩
    rw [hout, List.reverse_cons, List.append_assoc, List.singleton_append]

/-- A starter that nothing is joined to begins its block. -/
theorem ComposesAfter.exists_front_of_joins_nothing (hnone : ∀ d, composePair starter d = none)
    (hwaiting : Waiting held rest) (h : ComposesAfter P starter held rest out) :
    ∃ more, out = starter :: more := by
  obtain ⟨first, more, -, rfl, rfl, -, -, -⟩ := h.exists_front (p := fun x => x = starter)
    (fun ha hpair => by rw [ha, hnone] at hpair; cases hpair) hwaiting rfl
  exact ⟨_, rfl⟩

/-- What holds of all parts and is kept by joining holds of every character of the outcome. -/
theorem ComposesAfter.forall_mem (hp : ∀ {a m j}, p a → composePair a m = some j → p j)
    (h : ComposesAfter P starter held rest out) : p starter → (∀ c ∈ held, p c) →
      (∀ c ∈ rest, p c) → ∀ c ∈ out, p c := by
  induction h with
  | done =>
    intro hs hheld _
    exact List.forall_mem_cons.mpr ⟨hs, fun c hc => hheld c (List.mem_reverse.mp hc)⟩
  | join _ _ hpair _ ih =>
    intro hs hheld hrest
    exact ih (hp hs hpair) hheld (List.forall_mem_cons.mp hrest).2
  | next _ _ _ ih =>
    intro hs hheld hrest
    obtain ⟨hc, hrest⟩ := List.forall_mem_cons.mp hrest
    refine List.forall_mem_append.mpr ⟨?_, ih hc (fun _ hd => absurd hd List.not_mem_nil) hrest⟩
    exact List.forall_mem_cons.mpr ⟨hs, fun d hd => hheld d (List.mem_reverse.mp hd)⟩
  | wait _ _ _ ih =>
    intro hs hheld hrest
    obtain ⟨hc, hrest⟩ := List.forall_mem_cons.mp hrest
    exact ih hs (List.forall_mem_cons.mpr ⟨hc, hheld⟩) hrest

theorem Composes.forall_mem (hp : ∀ {a m j}, p a → composePair a m = some j → p j)
    (h : Composes P cs out) : (∀ c ∈ cs, p c) → ∀ c ∈ out, p c := by
  induction h with
  | nil => exact fun h => h
  | mark _ _ ih =>
    intro hcs
    obtain ⟨hc, hrest⟩ := List.forall_mem_cons.mp hcs
    exact List.forall_mem_cons.mpr ⟨hc, ih hrest⟩
  | starter _ hblock =>
    intro hcs
    obtain ⟨hc, hrest⟩ := List.forall_mem_cons.mp hcs
    exact hblock.forall_mem hp hc (fun _ hd => absurd hd List.not_mem_nil) hrest

theorem IsComposed.forall_mem (hwhole : ∀ {c}, decompose c = [c] → p c)
    (hp : ∀ {a m j}, p a → composePair a m = some j → p j) (h : IsComposed cs) : ∀ c ∈ cs, p c := by
  obtain ⟨parts, hparts, hrun⟩ := h.exists_composes
  exact hrun.forall_mem hp fun c hc => hwhole (hparts.whole c hc)

end Closure

end Gazetteer.Text
