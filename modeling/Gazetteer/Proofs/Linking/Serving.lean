import Gazetteer.Proofs.Linking.Answers
import Gazetteer.Proofs.Linking.Cataloging

/-!
# Serving between builds

An index goes on serving while entities are added, and nobody who searches can tell from the hits
that anything was added: **until the next training or build every mention has the same error, or the
same entities with the same similarities and ranks** (`KeepsServing`, `keepsServing_run`).

A search looks at the catalog once, at its very end, when the owners of the best hits are replaced
by their records. The best hits themselves no request but a training or a build can change
(`bestHits_serve`). The last step cannot lose an owner, because every owner is registered; for the
same reason it cannot gain one when an entity is added. All that shows is the new record of an old
identifier (`Candidate.renewed`).
-/

set_option autoImplicit false

namespace Gazetteer

/-- The candidate with the record `e`, if `e` has the identifier of its entity. -/
def Candidate.renewed (e : Entity) (c : Candidate) : Candidate :=
  if c.entity.id = e.id then { c with entity := e } else c

/-- A request that leaves encoder and index alone, whatever comes of it. -/
def Request.KeepsIndex : Request → Prop
  | .add _ | .addAll _ | .find _ _ => True
  | .train _ | .build => False

namespace Linker

/-! ## Hits that stay -/

section Hits

variable {ε : Type} [TextEncoder ε]

theorem bestHits_withEntity (l : Linker ε) (e : Entity) : (l.withEntity e).bestHits = l.bestHits :=
  rfl

theorem bestHits_serve (l : Linker ε) {r : Request} (hr : r.KeepsIndex) :
    (l.serve r).bestHits = l.bestHits := by
  cases r with
  | add e =>
    rw [serve]
    cases hfault : e.normalized.fault? with
    | some fault => rw [add_of_fault hfault, Step.refuse]
    | none => rw [add_of_sound hfault, bestHits_withEntity]
  | addAll es =>
    exact addAll_induction (P := fun l' => l'.bestHits = l.bestHits) (fun _ _ hl' _ => hl') es l rfl
  | find mention k => rfl
  | train o => cases hr
  | build => cases hr

theorem bestHits_run (requests : List Request) :
    ∀ l : Linker ε, (∀ r ∈ requests, r.KeepsIndex) →
      (l.run requests).bestHits = l.bestHits := by
  induction requests with
  | nil => exact fun _ _ => rfl
  | cons r rest ih =>
    intro l h
    show ((l.serve r).run rest).bestHits = l.bestHits
    rw [ih _ fun r' hr' => h r' (List.mem_cons_of_mem _ hr'),
      l.bestHits_serve (h r List.mem_cons_self)]

end Hits

/-! ## Records that change -/

section Records

variable {ε : Type} {l : Linker ε}

/-- Behind a registered owner there is the same record as before, or the one that was added. -/
theorem candidate?_withEntity (e : Entity) {h : RankedHit}
    (hregistered : (l.catalog.get? h.owner).isSome = true) :
    (l.withEntity e).candidate? h = (l.candidate? h).map (Candidate.renewed e) := by
  obtain ⟨d, hd⟩ := Option.isSome_iff_exists.mp hregistered
  have hid : d.id = h.owner := (l.catalog.inverse.get?_eq_some_iff.mp hd).2
  have hput : (l.withEntity e).catalog.get? h.owner = if e.id = h.owner then some e else some d :=
    hd ▸ l.catalog.inverse.get?_put e h.owner
  rw [candidate?, candidate?, hput, hd, Option.map_some, Option.map_some, Candidate.renewed, hid]
  by_cases hsame : e.id = h.owner
  · rw [if_pos hsame, if_pos hsame.symm, Option.map_some]
  · rw [if_neg hsame, if_neg (Ne.symm hsame), Option.map_some]

variable [TextEncoder ε] {mention : String} {k : Nat}

theorem OwnersRegistered.of_bestHits (hl : l.OwnersRegistered) {best : List RankedHit}
    (hbest : l.bestHits mention k = .ok best) :
    ∀ h ∈ best, (l.catalog.get? h.owner).isSome = true := by
  intro h hm
  rcases bestHits_eq_ok hbest with ⟨-, rfl⟩ | ⟨query, hits, owned, -, hhits, howned, rfl⟩
  · cases hm
  · have hkeys : ∀ hit ∈ hits, hit.key ∈ l.index.keys :=
      fun hit hhit => VectorIndex.key_mem_keys_of_find hhits hhit
    exact hl.isSome_get?_owner hkeys howned hm

/-- A search finds its best hits, each with a record. -/
theorem OwnersRegistered.map_asHit_find (hl : l.OwnersRegistered) (mention : String) (k : Nat) :
    (l.find mention k).map (List.map Candidate.asHit) = l.bestHits mention k := by
  rw [find_eq_map_bestHits]
  cases hbest : l.bestHits mention k with
  | error error => rfl
  | ok best => exact congrArg Except.ok (map_asHit_filterMap (hl.of_bestHits hbest))

theorem OwnersRegistered.find_withEntity (hl : l.OwnersRegistered) (e : Entity)
    (mention : String) (k : Nat) :
    (l.withEntity e).find mention k =
      (l.find mention k).map (List.map (Candidate.renewed e)) := by
  rw [find_eq_map_bestHits, find_eq_map_bestHits, bestHits_withEntity]
  cases hbest : l.bestHits mention k with
  | error error => rfl
  | ok best =>
    have hrecords : ∀ h ∈ best,
        (l.withEntity e).candidate? h = (l.candidate? h).map (Candidate.renewed e) :=
      fun h hm => candidate?_withEntity e (hl.of_bestHits hbest h hm)
    refine congrArg Except.ok ?_
    rw [List.map_filterMap]
    exact List.filterMap_congr hrecords

end Records

/-! ## Serving on -/

variable {ε : Type} [TextEncoder ε]

/-- What those who search can learn of the requests to come, as long as the index is not touched. -/
structure KeepsServing (l : Linker ε) : Prop where
  /-- Every mention has the error it has now, or the entities, similarities and ranks. -/
  hits : ∀ later, (∀ r ∈ later, Request.KeepsIndex r) → ∀ mention k,
    ((l.run later).find mention k).map (List.map Candidate.asHit) =
      (l.find mention k).map (List.map Candidate.asHit)
  /-- Once an entity is added, its record stands in every answer that has its identifier. -/
  added : ∀ e, (l.add e).result = .ok () →
    (l.add e).state.catalog.get? e.id = some e.normalized ∧
      ∀ mention k, (l.add e).state.find mention k =
        (l.find mention k).map (List.map (Candidate.renewed e.normalized))
  /-- An entity that is refused changes no answer. -/
  refused : ∀ e error, (l.add e).result = .error error →
    ∀ mention k, (l.add e).state.find mention k = l.find mention k

/-- **After every run, the index that was built last keeps serving.** -/
theorem keepsServing_run {l₀ : Linker ε} (hnew : l₀.IsNew) (requests : List Request) :
    KeepsServing (l₀.run requests) := by
  have hl := ownersRegistered_run hnew requests
  refine { hits := ?_, added := ?_, refused := ?_ }
  · intro later hlater mention k
    have hl' : ((l₀.run requests).run later).OwnersRegistered := by
      rw [← run_append]
      exact ownersRegistered_run hnew (requests ++ later)
    rw [hl'.map_asHit_find, hl.map_asHit_find, bestHits_run later _ hlater]
  · intro e hadd
    cases hfault : e.normalized.fault? with
    | some fault =>
      rw [add_of_fault hfault] at hadd
      cases hadd
    | none =>
      rw [add_of_sound hfault]
      exact ⟨((Catalog.inverse _).get?_put _ _).trans (if_pos rfl), hl.find_withEntity _⟩
  · intro e error hadd mention k
    rw [(add_eq_error hadd).1]

/--
The survey found two directions. One gets another record, with a new name and fewer aliases, and the
index, which knows the old one, finds it by that.
-/
theorem keepsServing_survey :
    compass.IsNew ∧
      (compass.run survey).find "north east" 2 =
        .ok [⟨(Entity.ofName "NE" "north east").withAliases ["east", "up"], .one, 1⟩,
          ⟨Entity.ofName "N.1" "north", ⟨0x3F3504F3⟩, 3⟩] ∧
      (compass.run (survey ++ [.add (Entity.ofName "NE" "where roads cross")])).find
          "north east" 2 =
        .ok [⟨Entity.ofName "NE" "where roads cross", .one, 1⟩,
          ⟨Entity.ofName "N.1" "north", ⟨0x3F3504F3⟩, 3⟩] := by
  have hbefore : (compass.run survey).find "north east" 2 =
      .ok [⟨(Entity.ofName "NE" "north east").withAliases ["east", "up"], .one, 1⟩,
        ⟨Entity.ofName "N.1" "north", ⟨0x3F3504F3⟩, 3⟩] := by
    have hscored : (compass.run survey).index.scored #[.one, .one] =
        [⟨"NE.0", .one⟩, ⟨"NE.1", ⟨0x3F3504F3⟩⟩, ⟨"N.1.0", ⟨0x3F3504F3⟩⟩] := by
      decide +kernel
    have hquery : TextEncoder.encode (compass.run survey).encoder "north east" =
        .ok #[.one, .one] := rfl
    rw [find_eq_of_pairwise hscored hquery (by decide +kernel) (by decide +kernel)
      (by decide +kernel) (by decide +kernel) rfl]
    refine congrArg Except.ok ?_
    decide +kernel
  have hacceptable : (Entity.ofName "NE" "where roads cross").Acceptable := by decide +kernel
  have hadd := add_result_eq_ok_iff (l := compass.run survey).mpr hacceptable
  refine ⟨isNew_compass, hbefore, ?_⟩
  rw [run_append, run_singleton, serve, ((keepsServing_run isNew_compass survey).added _ hadd).2,
    hbefore]
  refine congrArg Except.ok ?_
  decide +kernel

end Linker

end Gazetteer
