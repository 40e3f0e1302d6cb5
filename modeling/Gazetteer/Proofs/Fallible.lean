import Mathlib.Data.List.Forall2

/-!
# Steps that can fail

What can fail is tried with one thing after the other, until it fails or the list is done. Two
lemmas say when it gets to the end: `mapM_eq_ok_iff` for steps that have nothing to do with one
another, and `foldlM_eq_ok` for steps each of which goes on from the one before. For the second kind
it takes an invariant, because a step that succeeds has to leave something with which the next one
succeeds too.
-/

set_option autoImplicit false

namespace Gazetteer

/-! ## The same with each of a list -/

/-- If it succeeds with all, this is what comes of each. -/
theorem mapM_eq_ok_iff {α β δ : Type} {f : α → Except δ β} {xs : List α} :
    ∀ {ys : List β}, xs.mapM f = .ok ys ↔ List.Forall₂ (fun x y => f x = .ok y) xs ys := by
  induction xs with
  | nil =>
    intro ys
    rw [List.mapM_nil, List.forall₂_nil_left_iff]
    exact ⟨fun h => (Except.ok.inj h).symm, fun h => congrArg Except.ok h.symm⟩
  | cons x rest ih =>
    intro ys
    rw [List.mapM_cons, List.forall₂_cons_left_iff]
    constructor
    · -- it succeeds with all, so it does with the first and with the rest
      intro h
      cases hx : f x with
      | error e =>
        rw [hx] at h
        cases h
      | ok y =>
        cases hrest : rest.mapM f with
        | error e =>
          rw [hx, hrest] at h
          cases h
        | ok more =>
          rw [hx, hrest] at h
          exact ⟨y, more, rfl, ih.mp hrest, (Except.ok.inj h).symm⟩
    · rintro ⟨y, more, hx, hrest, rfl⟩
      rw [hx, ih.mpr hrest]
      rfl

theorem exists_mapM_eq_ok {α β δ : Type} {f : α → Except δ β} {xs : List α}
    (h : ∀ x ∈ xs, ∃ y, f x = .ok y) : ∃ ys, xs.mapM f = .ok ys := by
  induction xs with
  | nil => exact ⟨[], rfl⟩
  | cons x rest ih =>
    obtain ⟨y, hx⟩ := h x List.mem_cons_self
    obtain ⟨ys, hrest⟩ := ih fun x' hx' => h x' (List.mem_cons_of_mem _ hx')
    exact ⟨y :: ys, mapM_eq_ok_iff.mpr (.cons hx (mapM_eq_ok_iff.mp hrest))⟩

/-- Where no step fails, trying to do it to all is doing it to all. -/
theorem mapM_eq_ok_map {α β δ : Type} {f : α → Except δ β} {g : α → β} {xs : List α}
    (h : ∀ x ∈ xs, f x = .ok (g x)) : xs.mapM f = .ok (xs.map g) := by
  rw [mapM_eq_ok_iff, List.forall₂_map_right_iff, List.forall₂_same]
  exact h

/-! ## One step after the other -/

/-- Where no step fails on what the invariant holds of, all are made, and it holds in the end. -/
theorem foldlM_eq_ok {α β δ : Type} {P : β → Prop} {f : β → α → Except δ β} {g : β → α → β}
    {xs : List α} (hstep : ∀ b, P b → ∀ x ∈ xs, f b x = .ok (g b x) ∧ P (g b x)) :
    ∀ {b : β}, P b → xs.foldlM f b = .ok (xs.foldl g b) ∧ P (xs.foldl g b) := by
  induction xs with
  | nil =>
    intro b hb
    exact ⟨rfl, hb⟩
  | cons x rest ih =>
    intro b hb
    obtain ⟨hx, hnext⟩ := hstep b hb x List.mem_cons_self
    rw [List.foldlM_cons, hx]
    exact ih (fun b' hb' x' hx' => hstep b' hb' x' (List.mem_cons_of_mem _ hx')) hnext

end Gazetteer
