/-
Whether a blocked plan is right that nothing fits. Each strategy commits itself before capacity is tested: to the top group as a
whole, or to the runtimes that fit on their own (`FindsPlace`). A plan is blocked exactly if this finds no place
(`blocked_plan_is_truthful_iff`). The two strategies that fall back to a pipeline of the top group miss nothing unless a total
wraps (`nothingFits_of_exact`).
-/
import Rampage.Planner.Covered

namespace Rampage.Planner

open Rampage.Protocol

/-! ## What fits -/

/-- A runtime of the group has room for the model. -/
def FitsAlone (requiredBytes : Nat) (group : RuntimeGroup) : Prop := ∃ c ∈ group.2, requiredBytes ≤ c.availableBytes

/-- Some of the group's runtimes, no more than a request may use and each with pipelines, have room for the model together. -/
def FitsInPipeline (requiredBytes maxNodes : Nat) (group : RuntimeGroup) : Prop :=
  ∃ chosen : List RuntimeCandidate, chosen.Sublist group.2 ∧ chosen.length ≤ maxNodes ∧
    (∀ c ∈ chosen, c.supports .pipeline = true) ∧ requiredBytes ≤ (capacities chosen).sum

/-- No group of the live offers has a place for the model. -/
def NothingFits (request : ModelSessionRequestV1) (offers : List ResourceOfferV1) (now : Int) : Prop :=
  ∀ group ∈ runtimeGroups offers now, ¬ FitsAlone request.requiredBytes group ∧
    ¬ FitsInPipeline request.requiredBytes request.maxNodes group

/-- What a strategy commits itself to has room for the model. -/
def FindsPlace (requiredBytes : Nat) (top : RuntimeGroup) (rest : List RuntimeGroup) : ComputeStrategy → Prop
  | .maximumModelSize =>
    if formsPipeline top = true then requiredBytes ≤ groupTotal top else FitsAlone requiredBytes top
  | .speedBoost =>
    (∃ group ∈ top :: rest, tensorReady requiredBytes group.2 = true) ∨ ¬ NoneFits requiredBytes (top :: rest) ∨
      requiredBytes ≤ groupTotal top
  | .autonomousBalanced => ¬ NoneFits requiredBytes (top :: rest) ∨ requiredBytes ≤ groupTotal top
  | .maximumThroughput | .efficiency => ¬ NoneFits requiredBytes (top :: rest)

section

variable {requiredBytes : Nat} {top : RuntimeGroup} {rest : List RuntimeGroup} {strategy : ComputeStrategy} {s : Selection}

theorem not_noneFits {ranked : List RuntimeGroup} {group : RuntimeGroup} {c : RuntimeCandidate} (hg : group ∈ ranked)
    (hc : c ∈ group.2) (hfits : requiredBytes ≤ c.availableBytes) : ¬ NoneFits requiredBytes ranked :=
  fun hnone => absurd hfits (Nat.not_le.2 (hnone group hg c hc))

/-- The capacity test passes exactly if the strategy has found a place. -/
theorem capacityFits_iff (h : Choice requiredBytes top rest strategy s) :
    s.capacityFits requiredBytes = true ↔ FindsPlace requiredBytes top rest strategy := by
  cases h with
  | split hsplits =>
    -- a pipeline, by its sum
    have hfits : (Selection.pipeline top).capacityFits requiredBytes = true ↔ requiredBytes ≤ groupTotal top :=
      decide_eq_true_iff
    rw [hfits]
    cases strategy with
    | maximumModelSize =>
      have hforms : formsPipeline top = true := hsplits
      rw [FindsPlace, if_pos hforms]
    | speedBoost =>
      refine ⟨fun hle => .inr (.inr hle), ?_⟩
      rintro (⟨group, hgroup, hready⟩ | hsome | hle)
      · rw [hsplits.1 group hgroup] at hready
        cases hready
      · exact absurd hsplits.2 hsome
      · exact hle
    | autonomousBalanced => exact ⟨.inr, fun h => h.resolve_left fun hsome => hsome hsplits⟩
    | maximumThroughput => exact hsplits.elim
    | efficiency => exact hsplits.elim
  | wholeGroup hforms =>
    rw [FindsPlace, if_neg (by rw [hforms]; exact Bool.false_ne_true)]
    refine List.any_eq_true.trans (exists_congr fun c => and_congr_right fun _ => ?_)
    exact decide_eq_true_iff
  | single hs _ hfound =>
    obtain ⟨group, hgroup, -, hmem, hfits⟩ := mem_singles.1 hfound
    have hnone := not_noneFits hgroup hmem hfits
    refine ⟨fun _ => ?_, fun _ => ?_⟩
    · rcases hs with rfl | rfl | rfl
      · exact .inr (.inl hnone)
      · exact hnone
      · exact .inl hnone
    · exact List.any_eq_true.2 ⟨_, List.mem_singleton_self _, decide_eq_true hfits⟩
  | tooSmall hnone hc =>
    refine ⟨fun hfits => ?_, fun hsome => absurd hnone hsome⟩
    obtain ⟨c', hc', hle⟩ := List.any_eq_true.1 hfits
    rw [Selection.single, List.mem_singleton] at hc'
    subst hc'
    exact not_noneFits (List.mem_cons_self ..) hc (of_decide_eq_true hle)
  | @tensor group hgroup hready =>
    refine ⟨fun _ => .inl ⟨group, hgroup, hready⟩, fun _ => ?_⟩
    unfold tensorReady at hready
    simp only [Bool.and_eq_true, decide_eq_true_eq] at hready
    obtain ⟨⟨⟨hlen, -⟩, -⟩, hshards⟩ := hready
    -- the group has more than one machine
    have hmax : Nat.max group.2.length 1 = group.2.length := Nat.max_eq_left (le_of_lt hlen)
    unfold Selection.capacityFits
    dsimp only
    rw [hmax]
    exact hshards
  | @replicas group n hgroup hne =>
    obtain ⟨g, hg, rfl⟩ := List.mem_map.1 hgroup
    obtain ⟨c, hc⟩ := List.exists_mem_of_ne_nil _ hne
    have hfits := of_decide_eq_true (List.mem_filter.1 hc).2
    refine ⟨fun _ => not_noneFits hg (List.mem_filter.1 hc).1 hfits, fun _ => ?_⟩
    exact List.any_eq_true.2 ⟨c, hc, decide_eq_true hfits⟩
  | noReplica hnone =>
    refine ⟨fun hfits => ?_, fun hsome => absurd hnone hsome⟩
    obtain ⟨c, hc, hle⟩ := List.any_eq_true.1 hfits
    exact not_noneFits (List.mem_cons_self ..) hc (of_decide_eq_true hle)

end

section

variable {request : ModelSessionRequestV1} {offers : List ResourceOfferV1} {now : Int} {top : RuntimeGroup}
  {rest : List RuntimeGroup} {plan : ModelSessionPlan}

/-- A blocked plan is right exactly if nothing fits or the strategy finds what fits. -/
theorem blocked_plan_is_truthful_iff (h : planModelSession request offers now = some plan) :
    (plan.state = .capacityBlocked → NothingFits request offers now) ↔
      NothingFits request offers now ∨ ∀ top rest, ranking request offers now = top :: rest →
        FindsPlace request.requiredBytes top rest request.strategy := by
  rcases plan_cases h with ⟨hnil, rfl⟩ | ⟨top, rest, s, hranking, -, hchoice, rfl⟩
  · have hnothing : NothingFits request offers now := by
      intro group hgroup
      rw [ranking_eq_nil.1 hnil] at hgroup
      cases hgroup
    exact ⟨fun _ => .inl hnothing, fun _ _ => hnothing⟩
  have hstate : (s.plan request offers now).state = s.state request.requiredBytes := rfl
  rw [hstate, state_eq_capacityBlocked, ← Bool.not_eq_true, capacityFits_iff hchoice, hranking]
  constructor
  · intro htruthful
    by_cases hfinds : FindsPlace request.requiredBytes top rest request.strategy
    · refine .inr fun top' rest' heq => ?_
      cases heq
      exact hfinds
    · exact .inl (htruthful hfinds)
  · rintro (hnothing | hfinds) hmisses
    · exact hnothing
    · exact absurd (hfinds top rest rfl) hmisses

/-! ## Totals that do not wrap -/

/-- A choice of runtimes is no larger than the top group, if no total wraps. -/
theorem sum_le_groupTotal (hranking : ranking request offers now = top :: rest)
    (hexact : ∀ group ∈ ranking request offers now, (capacities group.2).sum < 2 ^ 64) {group : RuntimeGroup}
    (hg : group ∈ runtimeGroups offers now) {chosen : List RuntimeCandidate} (hchosen : chosen.Sublist group.2)
    (hlen : chosen.length ≤ request.maxNodes) : (capacities chosen).sum ≤ groupTotal top := by
  have hmem : (group.1, (Ranking.byKeyDesc (·.availableBytes) group.2).take request.maxNodes) ∈ ranking request offers now :=
    mem_ranking.2 ⟨group, hg, rfl⟩
  refine (Ranking.sum_le_sum_heaviest hchosen.subperm hlen).trans ?_
  have htotal := groupTotal_le_top hranking hmem
  unfold groupTotal at htotal ⊢
  rwa [U64.wrappingSum_eq_iff.2 (hexact _ hmem)] at htotal

/-- With a node to use and totals that do not wrap, nothing fits if no runtime fits on its own and the top group is too
small as a whole. -/
theorem nothingFits_of_exact (hranking : ranking request offers now = top :: rest) (hnodes : 0 < request.maxNodes)
    (hexact : ∀ group ∈ ranking request offers now, (capacities group.2).sum < 2 ^ 64)
    (hnone : NoneFits request.requiredBytes (ranking request offers now)) (htotal : groupTotal top < request.requiredBytes) :
    NothingFits request offers now := by
  refine fun group hg => ⟨?_, ?_⟩
  · rintro ⟨c, hc, hfits⟩
    obtain ⟨c', hc', hfits'⟩ := Ranking.exists_mem_take hc hfits hnodes
    exact not_noneFits (mem_ranking.2 ⟨group, hg, rfl⟩) hc' hfits' hnone
  · rintro ⟨chosen, hchosen, hlen, -, hfits⟩
    have hle := sum_le_groupTotal hranking hexact hg hchosen hlen
    omega

/-- So the strategies that fall back to the top group are truthful. -/
theorem blocked_fallback_is_truthful (h : planModelSession request offers now = some plan)
    (hstrategy : request.strategy = .speedBoost ∨ request.strategy = .autonomousBalanced) (hnodes : 0 < request.maxNodes)
    (hexact : ∀ group ∈ ranking request offers now, (capacities group.2).sum < 2 ^ 64)
    (hblocked : plan.state = .capacityBlocked) : NothingFits request offers now := by
  rcases plan_cases h with ⟨hnil, rfl⟩ | ⟨top, rest, s, hranking, -, hchoice, rfl⟩
  · intro group hgroup
    rw [ranking_eq_nil.1 hnil] at hgroup
    cases hgroup
  · have hmisses : ¬ FindsPlace request.requiredBytes top rest request.strategy := by
      rw [← capacityFits_iff hchoice, Bool.not_eq_true]
      exact state_eq_capacityBlocked.1 hblocked
    have hboth : NoneFits request.requiredBytes (top :: rest) ∧ groupTotal top < request.requiredBytes := by
      rcases hstrategy with hs | hs
      · rw [hs, FindsPlace, not_or, not_or, not_not, Nat.not_le] at hmisses
        exact hmisses.2
      · rw [hs, FindsPlace, not_or, not_not, Nat.not_le] at hmisses
        exact hmisses
    exact nothingFits_of_exact hranking hnodes hexact (hranking ▸ hboth.1) hboth.2

end

/-! ## Two groups -/

namespace Sessions

/-- Two nodes of five bytes that split no model, and one of eight bytes with another runtime. -/
def twoGroups : List ResourceOfferV1 :=
  [offer 11 (runtime 5 {.tensor}), offer 12 (runtime 5 {.tensor}),
    offer 13 { runtime 8 {.pipeline} with compatibilityKey := "mlx-0.2" }]

end Sessions

theorem blocked_plan_is_truthful_three_nodes :
    (((planModelSession (Sessions.request .maximumModelSize 10) (Sessions.unevenOffers 2) 0).get
        Sessions.uneven_plan_isSome).state = .capacityBlocked →
      NothingFits (Sessions.request .maximumModelSize 10) (Sessions.unevenOffers 2) 0) ↔
      NothingFits (Sessions.request .maximumModelSize 10) (Sessions.unevenOffers 2) 0 ∨ ∀ top rest,
        ranking (Sessions.request .maximumModelSize 10) (Sessions.unevenOffers 2) 0 = top :: rest →
        FindsPlace 10 top rest .maximumModelSize :=
  blocked_plan_is_truthful_iff (Option.some_get _).symm

/-- The plan for the largest model commits itself to the two nodes of five bytes and is blocked for eight, although the
third node has them. -/
theorem blocked_plan_misses_a_node :
    ¬ ∀ (request : ModelSessionRequestV1) (offers : List ResourceOfferV1) (now : Int) (plan : ModelSessionPlan),
      planModelSession request offers now = some plan → plan.state = .capacityBlocked → NothingFits request offers now := by
  intro hall
  have hstate : (planModelSession (Sessions.request .maximumModelSize 8) Sessions.twoGroups 0).map (·.state) =
      some .capacityBlocked := by decide +kernel
  have hfits : (runtimeGroups Sessions.twoGroups 0).any (fun group => group.2.any (8 ≤ ·.availableBytes)) = true := by
    decide +kernel
  obtain ⟨plan, hplan, hblocked⟩ := Option.map_eq_some_iff.1 hstate
  obtain ⟨group, hgroup, hany⟩ := List.any_eq_true.1 hfits
  obtain ⟨c, hc, hle⟩ := List.any_eq_true.1 hany
  exact (hall _ _ _ plan hplan hblocked group hgroup).1 ⟨c, hc, of_decide_eq_true hle⟩

end Rampage.Planner
