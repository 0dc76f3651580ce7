/-
The order of the offers. The offers come out of a hash map, and of several offers with the greatest rank the planner takes
the last one. `placement_ignores_order_iff` says when that shows: the choice for a job is the same in every order exactly if
the greatest rank has one holder, and a plan is if this is so for every shard at its turn.
-/
import Rampage.Planner.Capacity

namespace Select

variable {α β : Type} [LinearOrder β] {key : α → β}

/-- A greatest element at the end is the one that is selected. -/
theorem maxByKey_concat {l : List α} {b : α} (h : ∀ a ∈ l, key a ≤ key b) : maxByKey key (l ++ [b]) = some b := by
  induction l with
  | nil => rfl
  | cons a l ih =>
    have hrest := ih fun x hx => h x (List.mem_cons_of_mem _ hx)
    rw [List.cons_append, maxByKey, hrest]
    simp only [h a (List.mem_cons_self ..), if_true]

/-- In every order some greatest element is selected. -/
theorem maxByKey_perm {l l' : List α} (hperm : l'.Perm l) {m m' : α} (h : maxByKey key l = some m)
    (h' : maxByKey key l' = some m') : key m' = key m :=
  le_antisymm (maxByKey_le h (hperm.mem_iff.1 (maxByKey_mem h'))) (maxByKey_le h' (hperm.mem_iff.2 (maxByKey_mem h)))

end Select

namespace Rampage.Planner

open Rampage.Protocol

/-! ## The choice for a job -/

section

variable (reservations : List ResourceReservation) (policy : AdmissionPolicy) (now : Int) (job : JobSpecV1)
  (localInputsByNode : Uuid → Finset String) (offers : List ResourceOfferV1)

/-- The offer is a satisfying one with the greatest rank. -/
def IsBest (c : ResourceOfferV1 × PlacementScore) : Prop :=
  c ∈ (scored reservations policy now job offers localInputsByNode).filter (·.2.satisfies) ∧
    ∀ d ∈ (scored reservations policy now job offers localInputsByNode).filter (·.2.satisfies),
      placementRank d.2 ≤ placementRank c.2

/-- Only one node has the greatest rank. -/
def HasOneBest : Prop :=
  ∀ c d, IsBest reservations policy now job localInputsByNode offers c →
    IsBest reservations policy now job localInputsByNode offers d → c.1.nodeId = d.1.nodeId

end

section

variable {reservations : List ResourceReservation} {policy : AdmissionPolicy} {now : Int} {job : JobSpecV1}
  {localInputsByNode : Uuid → Finset String} {offers offers' : List ResourceOfferV1}

theorem scored_perm (h : offers'.Perm offers) :
    ((scored reservations policy now job offers' localInputsByNode).filter (·.2.satisfies)).Perm
      ((scored reservations policy now job offers localInputsByNode).filter (·.2.satisfies)) :=
  (h.map _).filter _

theorem IsBest.perm (h : offers'.Perm offers) {c : ResourceOfferV1 × PlacementScore}
    (hc : IsBest reservations policy now job localInputsByNode offers' c) :
    IsBest reservations policy now job localInputsByNode offers c := by
  refine ⟨(scored_perm h).mem_iff.1 hc.1, ?_⟩
  intro d hd
  exact hc.2 d ((scored_perm h).mem_iff.2 hd)

theorem isBest_of_choose {c : ResourceOfferV1 × PlacementScore}
    (h : chooseOfferWithTopology reservations policy now job offers localInputsByNode = some c) :
    IsBest reservations policy now job localInputsByNode offers c := by
  refine ⟨Select.maxByKey_mem h, ?_⟩
  intro d hd
  have hle := Select.maxByKey_le h hd
  exact hle

theorem choose_eq_none_perm (h : offers'.Perm offers) :
    chooseOfferWithTopology reservations policy now job offers' localInputsByNode = none ↔
      chooseOfferWithTopology reservations policy now job offers localInputsByNode = none := by
  unfold chooseOfferWithTopology
  rw [Select.maxByKey_eq_none, Select.maxByKey_eq_none]
  constructor
  · intro hnil
    rw [← List.perm_nil, ← hnil]
    exact (scored_perm h).symm
  · intro hnil
    rw [← List.perm_nil, ← hnil]
    exact scored_perm h

/-- A best offer is chosen when it comes last. -/
theorem exists_order_choosing {c : ResourceOfferV1 × PlacementScore}
    (h : IsBest reservations policy now job localInputsByNode offers c) :
    ∃ offers' : List ResourceOfferV1, offers'.Perm offers ∧
      chooseOfferWithTopology reservations policy now job offers' localInputsByNode = some c := by
  obtain ⟨hscored, hsatisfies⟩ := List.mem_filter.1 h.1
  obtain ⟨o, ho, rfl⟩ := List.mem_map.1 hscored
  have hperm : (offers.erase o ++ [o]).Perm offers :=
    (List.perm_append_singleton _ _).trans (List.perm_cons_erase ho).symm
  refine ⟨offers.erase o ++ [o], hperm, ?_⟩
  unfold chooseOfferWithTopology scored
  rw [List.map_append, List.filter_append, List.map_singleton, List.filter_singleton]
  simp only at hsatisfies
  rw [hsatisfies]
  refine Select.maxByKey_concat ?_
  intro d hd
  refine h.2 d ?_
  obtain ⟨hd, hdsat⟩ := List.mem_filter.1 hd
  obtain ⟨q, hq, rfl⟩ := List.mem_map.1 hd
  exact List.mem_filter.2 ⟨List.mem_map_of_mem (List.mem_of_mem_erase hq), hdsat⟩

/-- The same node is chosen in every order exactly if one node has the greatest rank. -/
theorem choose_ignores_order_iff :
    (∀ offers' : List ResourceOfferV1, offers'.Perm offers →
      (chooseOfferWithTopology reservations policy now job offers' localInputsByNode).map (·.1.nodeId) =
        (chooseOfferWithTopology reservations policy now job offers localInputsByNode).map (·.1.nodeId)) ↔
      HasOneBest reservations policy now job localInputsByNode offers := by
  constructor
  · intro hsame c d hc hd
    obtain ⟨offersC, hpermC, hchooseC⟩ := exists_order_choosing hc
    obtain ⟨offersD, hpermD, hchooseD⟩ := exists_order_choosing hd
    have hnode := (hsame offersC hpermC).trans (hsame offersD hpermD).symm
    rw [hchooseC, hchooseD] at hnode
    exact Option.some.inj hnode
  · intro hone offers' hperm
    cases h' : chooseOfferWithTopology reservations policy now job offers' localInputsByNode with
    | none => rw [(choose_eq_none_perm hperm).1 h']
    | some c =>
      cases h : chooseOfferWithTopology reservations policy now job offers localInputsByNode with
      | none =>
        rw [(choose_eq_none_perm hperm).2 h] at h'
        cases h'
      | some d =>
        rw [Option.map_some, Option.map_some, hone c d ((isBest_of_choose h').perm hperm) (isBest_of_choose h)]

/-- With one best node the whole choice is the same in every order. -/
theorem choose_perm (hnodup : (offers.map (·.nodeId)).Nodup)
    (hone : HasOneBest reservations policy now job localInputsByNode offers) (hperm : offers'.Perm offers) :
    chooseOfferWithTopology reservations policy now job offers' localInputsByNode =
      chooseOfferWithTopology reservations policy now job offers localInputsByNode := by
  cases h : chooseOfferWithTopology reservations policy now job offers localInputsByNode with
  | none => exact (choose_eq_none_perm hperm).2 h
  | some d =>
    cases h' : chooseOfferWithTopology reservations policy now job offers' localInputsByNode with
    | none =>
      rw [(choose_eq_none_perm hperm).1 h'] at h
      cases h
    | some c =>
      have hc := (isBest_of_choose h').perm hperm
      have hd := isBest_of_choose h
      obtain ⟨o, ho, rfl⟩ := List.mem_map.1 (List.mem_filter.1 hc.1).1
      obtain ⟨q, hq, rfl⟩ := List.mem_map.1 (List.mem_filter.1 hd.1).1
      rw [eq_of_nodeId_eq hnodup ho hq (hone _ _ hc hd)]

end

/-! ## The plan of a shard set -/

section

variable (set : ShardSetV1) (offers : List ResourceOfferV1) (policy : AdmissionPolicy) (now : Int)
  (locality : Uuid → Uuid → Finset String)

/-- Every shard has one best node when it is placed. -/
def PlacesUniquely : List JobSpecV1 → List ResourceReservation → Prop
  | [], _ => True
  | job :: rest, book => HasOneBest book policy now job (locality job.jobId) offers ∧ ∀ offer score,
    chooseOfferWithTopology book policy now job offers (locality job.jobId) = some (offer, score) →
      PlacesUniquely rest (bookAfter set book job offer.nodeId)

end

section

variable {set : ShardSetV1} {offers : List ResourceOfferV1} {policy : AdmissionPolicy} {now : Int}
  {locality : Uuid → Uuid → Finset String}

theorem planShards_perm (hnodup : (offers.map (·.nodeId)).Nodup) {offers' : List ResourceOfferV1} (hperm : offers'.Perm offers)
    {shards : List JobSpecV1} {book : List ResourceReservation}
    (h : PlacesUniquely set offers policy now locality shards book) (acc : List ShardPlacement) :
    planShards set offers' policy now locality shards book acc = planShards set offers policy now locality shards book acc := by
  induction shards generalizing book acc with
  | nil => rfl
  | cons job rest ih =>
    obtain ⟨hone, hrest⟩ := h
    unfold planShards
    rw [choose_perm hnodup hone hperm]
    cases hchoose : chooseOfferWithTopology book policy now job offers (locality job.jobId) with
    | none => rfl
    | some c => exact ih (hrest c.1 c.2 hchoose) _

/-- A plan that succeeds in the same way in every order has one best node for every shard. -/
theorem placesUniquely_of_same (hnodup : (offers.map (·.nodeId)).Nodup) {shards : List JobSpecV1}
    {book : List ResourceReservation} {acc placements : List ShardPlacement}
    (h : ∀ offers' : List ResourceOfferV1, offers'.Perm offers →
      planShards set offers' policy now locality shards book acc = .ok placements) :
    PlacesUniquely set offers policy now locality shards book := by
  induction shards generalizing book acc with
  | nil => trivial
  | cons job rest ih =>
    -- whichever best offer comes last, the shard is placed on it
    have hplaced : ∀ c, IsBest book policy now job (locality job.jobId) offers c →
        (placements[acc.length]?).map (·.nodeId) = some c.1.nodeId := by
      intro c hc
      obtain ⟨offers', hperm, hchoose⟩ := exists_order_choosing hc
      have hplan := h offers' hperm
      unfold planShards at hplan
      rw [hchoose] at hplan
      obtain ⟨later, rfl, -⟩ := planShards_planned hplan
      simp
    have hone : HasOneBest book policy now job (locality job.jobId) offers := by
      intro c d hc hd
      exact Option.some.inj ((hplaced c hc).symm.trans (hplaced d hd))
    refine ⟨hone, ?_⟩
    intro offer score hchoose
    have hrest : ∀ offers' : List ResourceOfferV1, offers'.Perm offers → planShards set offers' policy now locality rest
        (bookAfter set book job offer.nodeId) (acc ++ [⟨job.jobId, offer.nodeId, score⟩]) = .ok placements := by
      intro offers' hperm
      have hplan := h offers' hperm
      unfold planShards at hplan
      rw [choose_perm hnodup hone hperm, hchoose] at hplan
      exact hplan
    exact ih hrest

end

/-- In every order of the offers the choice has the same rank, and it is the same node exactly if one node has the greatest
rank. A plan is the same in every order if every shard has one best node at its turn, and if it succeeds only then. -/
theorem placement_ignores_order_iff (offers : List ResourceOfferV1) (reservations : List ResourceReservation)
    (policy : AdmissionPolicy) (now : Int) (hnodup : (offers.map (·.nodeId)).Nodup) :
    (∀ (job : JobSpecV1) (localInputsByNode : Uuid → Finset String),
      (∀ offers' : List ResourceOfferV1, offers'.Perm offers →
        (chooseOfferWithTopology reservations policy now job offers' localInputsByNode).map (fun c => placementRank c.2) =
          (chooseOfferWithTopology reservations policy now job offers localInputsByNode).map fun c => placementRank c.2) ∧
      ((∀ offers' : List ResourceOfferV1, offers'.Perm offers →
        (chooseOfferWithTopology reservations policy now job offers' localInputsByNode).map (·.1.nodeId) =
          (chooseOfferWithTopology reservations policy now job offers localInputsByNode).map (·.1.nodeId)) ↔
        HasOneBest reservations policy now job localInputsByNode offers)) ∧
    ∀ (set : ShardSetV1) (locality : Uuid → Uuid → Finset String),
      (PlacesUniquely set offers policy now locality set.shards (reservations.filter (now < ·.expiresAt)) →
        ∀ offers' : List ResourceOfferV1, offers'.Perm offers →
          planShardSet set offers' reservations policy now locality = planShardSet set offers reservations policy now locality) ∧
      ∀ placements, (∀ offers' : List ResourceOfferV1, offers'.Perm offers →
          planShardSet set offers' reservations policy now locality = .ok placements) →
        PlacesUniquely set offers policy now locality set.shards (reservations.filter (now < ·.expiresAt)) := by
  refine ⟨?_, ?_⟩
  · intro job localInputsByNode
    refine ⟨?_, choose_ignores_order_iff⟩
    intro offers' hperm
    cases h : chooseOfferWithTopology reservations policy now job offers localInputsByNode with
    | none => rw [(choose_eq_none_perm hperm).2 h]
    | some d =>
      cases h' : chooseOfferWithTopology reservations policy now job offers' localInputsByNode with
      | none =>
        rw [(choose_eq_none_perm hperm).1 h'] at h
        cases h
      | some c => exact congrArg some (Select.maxByKey_perm (scored_perm hperm) h h')
  · intro set locality
    refine ⟨?_, ?_⟩
    · intro hunique offers' hperm
      exact planShards_perm hnodup hperm hunique []
    · intro placements hsame
      exact placesUniquely_of_same hnodup hsame

open Scenario in
/-- A node of ten cores and one of four: the larger one is chosen in either order. -/
theorem placement_ignores_order_of_sizes :
    (chooseOfferWithTopology [] openPolicy 0 (coreShard 9 "a" [4]) [coreOffer 78 4, coreOffer 77 10] fun _ => ∅).map (·.1.nodeId) =
      (chooseOfferWithTopology [] openPolicy 0 (coreShard 9 "a" [4]) [coreOffer 77 10, coreOffer 78 4] fun _ => ∅).map
        (·.1.nodeId) := by
  refine ((placement_ignores_order_iff [coreOffer 77 10, coreOffer 78 4] [] openPolicy 0 (by decide)).1 (coreShard 9 "a" [4])
    fun _ => ∅).2.2 ?_ _ (List.Perm.swap _ _ _)
  have hranked : ∀ c ∈ (scored [] openPolicy 0 (coreShard 9 "a" [4]) [coreOffer 77 10, coreOffer 78 4] fun _ => ∅).filter
      (·.2.satisfies), (∀ d ∈ (scored [] openPolicy 0 (coreShard 9 "a" [4]) [coreOffer 77 10, coreOffer 78 4] fun _ => ∅).filter
        (·.2.satisfies), placementRank d.2 ≤ placementRank c.2) → c.1.nodeId = 77 := by
    decide +kernel
  intro c d hc hd
  rw [hranked c hc.1 hc.2, hranked d hd.1 hd.2]

open Scenario in
/-- Two equal nodes: the one that comes last is chosen. -/
theorem equal_offers_are_chosen_by_order :
    ¬ ∀ (offers offers' : List ResourceOfferV1) (reservations : List ResourceReservation) (policy : AdmissionPolicy) (now : Int),
      (offers.map (·.nodeId)).Nodup → offers'.Perm offers →
      (∀ (job : JobSpecV1) (localInputsByNode : Uuid → Finset String),
        (chooseOfferWithTopology reservations policy now job offers' localInputsByNode).map (·.1.nodeId) =
          (chooseOfferWithTopology reservations policy now job offers localInputsByNode).map (·.1.nodeId)) ∧
      ∀ (set : ShardSetV1) (locality : Uuid → Uuid → Finset String),
        planShardSet set offers' reservations policy now locality = planShardSet set offers reservations policy now locality := by
  intro hall
  have hsame := (hall [coreOffer 77 4, coreOffer 78 4] [coreOffer 78 4, coreOffer 77 4] [] openPolicy 0 (by decide)
    (List.Perm.swap _ _ _)).1 (coreShard 9 "a" [4]) fun _ => ∅
  exact absurd hsame (by decide +kernel)

end Rampage.Planner
