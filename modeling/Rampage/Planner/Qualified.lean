/-
What the summary fields of a plan say about its placements. The strategy for the largest model may put a whole model on a group
of several runtimes: capacity, distribution and qualification are then those of the group, and one runtime is placed
(`whole_model_plan_is_one_machine_iff`). Two strategies fall back to a pipeline without asking the runtimes for it
(`ready_plan_is_qualified_iff`).
-/
import Rampage.Planner.Covered

namespace Rampage.Planner

open Rampage.Protocol

section

variable {request : ModelSessionRequestV1} {offers : List ResourceOfferV1} {now : Int} {s : Selection} {requiredBytes : Nat}
  {plan : ModelSessionPlan} {c : RuntimeCandidate}

theorem state_eq_ready : s.state requiredBytes = .ready ↔ s.capacityFits requiredBytes = true ∧ s.qualified = true := by
  unfold Selection.state
  cases s.capacityFits requiredBytes with
  | false => exact ⟨nofun, fun h => nomatch h.1⟩
  | true =>
    cases s.qualified with
    | false => exact ⟨nofun, fun h => nomatch h.2⟩
    | true => exact ⟨fun _ => ⟨rfl, rfl⟩, fun _ => rfl⟩

theorem allocateRanks_nodeId {total : Nat} : ∀ (candidates : List RuntimeCandidate) (index remaining : Nat),
    (allocateRanks requiredBytes total candidates index remaining).map (·.nodeId) = candidates.map (·.offer.nodeId)
  | [], _, _ => rfl
  | [c], _, _ => rfl
  | c :: c' :: rest, index, remaining => by
    rw [allocateRanks, List.map_cons, allocateRanks_nodeId (c' :: rest), List.map_cons]
    rfl

/-- The placements of a split or a whole model are those of the placed runtimes, in their order. -/
theorem placements_nodeId (h : s.parallelism ≠ .replica) :
    (s.placements requiredBytes).map (·.nodeId) = s.placed.map (·.offer.nodeId) := by
  unfold Selection.placements
  split
  · rename_i hreplica
    exact absurd hreplica h
  · rw [List.map_map]
    show s.placed.zipIdx.map ((·.offer.nodeId) ∘ Prod.fst) = _
    rw [← List.map_map, List.zipIdx_map_fst]
  · exact allocateRanks_nodeId _ _ _

theorem length_placements (h : s.parallelism ≠ .replica) : (s.placements requiredBytes).length = s.placed.length := by
  have hnodes : ((s.placements requiredBytes).map (·.nodeId)).length = (s.placed.map (·.offer.nodeId)).length :=
    congrArg List.length (placements_nodeId h)
  rwa [List.length_map, List.length_map] at hnodes

theorem placedRuntimes_eq (h : selection request offers now = some s) : placedRuntimes request offers now = s.placed := by
  unfold placedRuntimes
  rw [h]
  rfl

/-! ## Whole models -/

/-- The plan describes the one machine it places the model on. -/
structure ModelSessionPlan.IsOfOneMachine (plan : ModelSessionPlan) (request : ModelSessionRequestV1)
    (offers : List ResourceOfferV1) (now : Int) : Prop where
  onePlacement : plan.placements.length = 1
  notDistributed : plan.distributed = false
  placed : ∃ c, placedRuntimes request offers now = [c] ∧ plan.placements.map (·.nodeId) = [c.offer.nodeId] ∧
    plan.maximumSupportedBytes = c.availableBytes ∧
    (plan.state = .ready ↔ request.requiredBytes ≤ c.availableBytes ∧ c.isLocalReady = true)

/-- The state of a whole model on one runtime. -/
theorem state_single (hw : s.parallelism = .wholeModel) (hc : s.selected = [c]) :
    s.state requiredBytes = .ready ↔ requiredBytes ≤ c.availableBytes ∧ c.isLocalReady = true := by
  have hdistributed : s.distributed = false := by
    unfold Selection.distributed
    rw [hc]
    rfl
  have hfits : s.capacityFits requiredBytes = decide (requiredBytes ≤ c.availableBytes) := by
    unfold Selection.capacityFits
    rw [hw, hc]
    exact Bool.or_false _
  have hqualified : s.qualified = c.isLocalReady := by
    unfold Selection.qualified
    rw [hdistributed, hc]
    exact Bool.and_true _
  rw [state_eq_ready, hfits, hqualified, decide_eq_true_iff]

/-- A whole model is described as it is placed exactly if one runtime was selected for it. -/
theorem isOfOneMachine_iff (hs : selection request offers now = some s) (hw : s.parallelism = .wholeModel) :
    (s.plan request offers now).IsOfOneMachine request offers now ↔ s.selected.length = 1 := by
  have hne : s.parallelism ≠ .replica := by
    rw [hw]
    exact nofun
  have hplaced : s.placed = s.selected.take 1 := by
    unfold Selection.placed
    rw [if_pos hw]
  constructor
  · intro h
    have hlen : s.placed.length = 1 := (length_placements hne).symm.trans h.onePlacement
    have hdistributed : s.distributed = false := h.notDistributed
    unfold Selection.distributed at hdistributed
    rw [hw] at hdistributed
    rw [hplaced, List.length_take] at hlen
    have hnot : ¬ 1 < s.selected.length := by
      intro hlt
      rw [decide_eq_true hlt] at hdistributed
      cases hdistributed
    omega
  · intro hlen
    obtain ⟨c, hc⟩ := List.length_eq_one_iff.1 hlen
    rw [hc] at hplaced
    refine ⟨?_, ?_, c, ?_, ?_, ?_, ?_⟩
    · exact (length_placements hne).trans (congrArg List.length hplaced)
    · show s.distributed = false
      unfold Selection.distributed
      rw [hc]
      rfl
    · exact (placedRuntimes_eq hs).trans hplaced
    · exact (placements_nodeId hne).trans (congrArg _ hplaced)
    · show s.maximumSupportedBytes = _
      unfold Selection.maximumSupportedBytes
      rw [hw, hc]
      exact Nat.mod_eq_of_lt (availableBytes_lt c)
    · exact state_single hw hc

/-- A whole-model plan describes one machine, unless the strategy for the largest model meets a top group of several runtimes
that forms no pipeline (or one cut to none). -/
theorem whole_model_plan_is_one_machine_iff (h : planModelSession request offers now = some plan) :
    (plan.parallelism = some .wholeModel → plan.IsOfOneMachine request offers now) ↔
      (request.strategy = .maximumModelSize → ∀ top rest, ranking request offers now = top :: rest →
        formsPipeline top = false → top.2.length = 1) := by
  rcases plan_cases h with ⟨hnil, rfl⟩ | ⟨top, rest, s, hranking, hs, hchoice, rfl⟩
  · rw [hnil]
    constructor
    · intro _ _ _ _ heq
      cases heq
    · intro _ hone
      cases hone
  rw [hranking]
  have hwhole : (s.plan request offers now).parallelism = some s.parallelism := rfl
  rw [hwhole, Option.some_inj]
  generalize hstrategy : request.strategy = strategy at hchoice
  -- only the strategy for the largest model puts a whole group under a whole-model plan
  cases hchoice with
  | split hsplits =>
    constructor
    · intro _ hmax top' rest' heq hforms
      cases heq
      subst hmax
      rw [SplitsTop, hforms] at hsplits
      cases hsplits
    · intro _ hone
      cases hone
  | wholeGroup hforms =>
    constructor
    · intro hone _ top' rest' heq _
      cases heq
      exact (isOfOneMachine_iff hs rfl).1 (hone rfl)
    · exact fun hlen _ => (isOfOneMachine_iff hs rfl).2 (hlen rfl top rest rfl hforms)
  | single hstrategies _ hfound =>
    refine ⟨fun _ hmax => ?_, fun _ _ => (isOfOneMachine_iff hs rfl).2 rfl⟩
    subst hmax
    rcases hstrategies with h | h | h <;> cases h
  | tooSmall hnone hc =>
    constructor
    · intro _ hmax
      cases hmax
    · exact fun _ _ => (isOfOneMachine_iff hs rfl).2 rfl
  | tensor hgroup hready =>
    constructor
    · intro _ hmax
      cases hmax
    · intro _ hone
      cases hone
  | replicas _ _ =>
    constructor
    · intro _ hmax
      cases hmax
    · intro _ hone
      cases hone
  | noReplica _ =>
    constructor
    · intro _ hmax
      cases hmax
    · intro _ hone
      cases hone

/-! ## Distributed plans -/

/-- Every runtime of the placements is one that the parallelism may use. -/
structure ModelSessionPlan.IsQualified (plan : ModelSessionPlan) (request : ModelSessionRequestV1)
    (offers : List ResourceOfferV1) (now : Int) (parallelism : ModelParallelism) : Prop where
  nodes : plan.placements.map (·.nodeId) = (placedRuntimes request offers now).map (·.offer.nodeId)
  supported : ∀ c ∈ placedRuntimes request offers now, c.supports parallelism = true
  qualified : ∀ c ∈ placedRuntimes request offers now, c.runtime.isQualifiedForDistributed = true
  topology : ∀ c ∈ placedRuntimes request offers now, c.topologyReady = true
  speed : parallelism = .tensor → ∀ c ∈ placedRuntimes request offers now, c.speedTopologyReady = true
  oneGroup : ∀ c ∈ placedRuntimes request offers now, ∀ c' ∈ placedRuntimes request offers now, c.key = c'.key
  live : ∀ c ∈ placedRuntimes request offers now, c.offer ∈ liveOffers offers now
  maxNodes : plan.placements.length ≤ request.maxNodes

/-- A speedup is promised only to runtimes on fast links. -/
theorem speedTopologyReady_of_tensorReady {candidates : List RuntimeCandidate}
    (h : tensorReady requiredBytes candidates = true) : ∀ c ∈ candidates, c.speedTopologyReady = true := by
  unfold tensorReady at h
  simp only [Bool.and_eq_true, decide_eq_true_eq] at h
  obtain ⟨⟨-, hspeedup⟩, -⟩ := h
  unfold predictedTensorSpeedupMilli at hspeedup
  split at hspeedup
  · exact absurd hspeedup (by decide)
  · rename_i hslow
    rw [not_or, Bool.not_eq_false] at hslow
    exact List.all_eq_true.1 hslow.2

theorem supports_of_tensorReady {candidates : List RuntimeCandidate} (h : tensorReady requiredBytes candidates = true) :
    ∀ c ∈ candidates, c.supports .tensor = true := by
  unfold tensorReady at h
  simp only [Bool.and_eq_true, List.all_eq_true] at h
  exact fun c hc => (h.1.1.2 c hc).1

/-- Several runtimes are qualified if each of them and its link is. -/
theorem qualified_iff (hlen : 1 < s.selected.length) (hne : s.parallelism ≠ .replica) :
    s.qualified = true ↔ ∀ c ∈ s.selected, c.runtime.isQualifiedForDistributed = true ∧ c.topologyReady = true := by
  have hdistributed : s.distributed = true := by
    unfold Selection.distributed
    rw [decide_eq_true hlen, Bool.true_and]
    exact bne_iff_ne.2 hne
  unfold Selection.qualified
  rw [if_pos hdistributed, List.all_eq_true]
  exact forall₂_congr fun c _ => Bool.and_eq_true_iff

/-- What is known of the split of a ranked group, whatever the strategy. -/
theorem isQualified_iff {group : RuntimeGroup} {parallelism : ModelParallelism} (hs : selection request offers now = some s)
    (hgroup : group ∈ ranking request offers now) (hselected : s.selected = group.2) (hp : s.parallelism = parallelism)
    (hpar : parallelism = .pipeline ∨ parallelism = .tensor)
    (hready : ∀ c ∈ group.2, c.runtime.isQualifiedForDistributed = true ∧ c.topologyReady = true)
    (hspeed : parallelism = .tensor → ∀ c ∈ group.2, c.speedTopologyReady = true) :
    (s.plan request offers now).IsQualified request offers now parallelism ↔
      ∀ c ∈ group.2, c.supports parallelism = true := by
  have hne : s.parallelism ≠ .replica := by
    rw [hp]
    rcases hpar with rfl | rfl <;> exact nofun
  have hwhole : s.parallelism ≠ .wholeModel := by
    rw [hp]
    rcases hpar with rfl | rfl <;> exact nofun
  have hplaced : s.placed = group.2 := by
    unfold Selection.placed
    rw [if_neg hwhole, hselected]
  have hruntimes : placedRuntimes request offers now = group.2 := (placedRuntimes_eq hs).trans hplaced
  constructor
  · intro h
    rw [← hruntimes]
    exact h.supported
  · intro hsupports
    refine ⟨?_, ?_, ?_, ?_, ?_, ?_, ?_, ?_⟩
    · rw [hruntimes]
      exact (placements_nodeId hne).trans (congrArg _ hplaced)
    · exact hruntimes ▸ hsupports
    · exact hruntimes ▸ fun c hc => (hready c hc).1
    · exact hruntimes ▸ fun c hc => (hready c hc).2
    · exact hruntimes ▸ hspeed
    · rw [hruntimes]
      exact fun c hc c' hc' => (mem_of_ranked hgroup hc).2.trans (mem_of_ranked hgroup hc').2.symm
    · rw [hruntimes]
      exact fun c hc => offer_mem_liveOffers (mem_of_ranked hgroup hc).1
    · have hlen : (s.plan request offers now).placements.length = s.placed.length := length_placements hne
      rw [hlen, hplaced]
      exact length_le_maxNodes hgroup

/-- A ready plan on several runtimes is one they are qualified for, unless a strategy falls back to a pipeline of qualified
runtimes that do not all list it. -/
theorem ready_plan_is_qualified_iff (h : planModelSession request offers now = some plan) :
    (plan.state = .ready → 1 < plan.placements.length → ∀ parallelism, plan.parallelism = some parallelism →
        parallelism = .pipeline ∨ parallelism = .tensor → plan.IsQualified request offers now parallelism) ↔
      ∀ top rest, ranking request offers now = top :: rest → SplitsTop request.requiredBytes top rest request.strategy →
        1 < top.2.length → request.requiredBytes ≤ groupTotal top →
        (∀ c ∈ top.2, c.runtime.isQualifiedForDistributed = true ∧ c.topologyReady = true) →
        ∀ c ∈ top.2, c.supports .pipeline = true := by
  rcases plan_cases h with ⟨hnil, rfl⟩ | ⟨top, rest, s, hranking, hs, hchoice, rfl⟩
  · rw [hnil]
    exact ⟨fun _ _ _ => nofun, fun _ => nofun⟩
  have hstate : (s.plan request offers now).state = s.state request.requiredBytes := rfl
  have hpar : (s.plan request offers now).parallelism = some s.parallelism := rfl
  have htop : top ∈ ranking request offers now := hranking ▸ List.mem_cons_self ..
  rw [hstate, state_eq_ready, hpar]
  have hall : (∀ top' rest', ranking request offers now = top' :: rest' →
      SplitsTop request.requiredBytes top' rest' request.strategy → 1 < top'.2.length →
      request.requiredBytes ≤ groupTotal top' →
      (∀ c ∈ top'.2, c.runtime.isQualifiedForDistributed = true ∧ c.topologyReady = true) →
      ∀ c ∈ top'.2, c.supports .pipeline = true) ↔ (s.parallelism = .pipeline → 1 < top.2.length →
      request.requiredBytes ≤ groupTotal top →
      (∀ c ∈ top.2, c.runtime.isQualifiedForDistributed = true ∧ c.topologyReady = true) →
      ∀ c ∈ top.2, c.supports .pipeline = true) := by
    rw [hranking, ← hchoice.splitsTop_iff]
    constructor
    · exact fun hall => hall top rest rfl
    · intro htop top' rest' heq
      cases heq
      exact htop
  rw [hall]
  -- the other parallelisms are not in question
  have hother : s.parallelism ≠ .pipeline → s.parallelism ≠ .tensor → ∀ parallelism, some s.parallelism = some parallelism →
      parallelism = .pipeline ∨ parallelism = .tensor →
      (s.plan request offers now).IsQualified request offers now parallelism := by
    intro hpipeline htensor parallelism hp hor
    cases hp
    rcases hor with hor | hor
    · exact absurd hor hpipeline
    · exact absurd hor htensor
  generalize request.strategy = strategy at hchoice
  cases hchoice with
  | split _ =>
    have hne : (Selection.pipeline top).parallelism ≠ .replica := nofun
    have hfits : (Selection.pipeline top).capacityFits request.requiredBytes = true ↔
        request.requiredBytes ≤ groupTotal top := decide_eq_true_iff
    have hlen : ((Selection.pipeline top).plan request offers now).placements.length = top.2.length :=
      length_placements hne
    rw [hfits, hlen]
    constructor
    · intro hplan _ hlt hle hready
      exact (isQualified_iff hs htop rfl rfl (.inl rfl) hready nofun).1
        (hplan ⟨hle, (qualified_iff hlt hne).2 hready⟩ hlt .pipeline rfl (.inl rfl))
    · intro hsupports hok hlt parallelism hp _
      cases hp
      have hready := (qualified_iff hlt hne).1 hok.2
      exact (isQualified_iff hs htop rfl rfl (.inl rfl) hready nofun).2 (hsupports rfl hlt hok.1 hready)
  | wholeGroup _ => exact ⟨fun _ => nofun, fun _ _ _ => hother nofun nofun⟩
  | single _ _ _ => exact ⟨fun _ => nofun, fun _ _ _ => hother nofun nofun⟩
  | tooSmall _ _ => exact ⟨fun _ => nofun, fun _ _ _ => hother nofun nofun⟩
  | @tensor group hgroup htensor =>
    refine ⟨fun _ => nofun, fun _ hok hlt parallelism hp _ => ?_⟩
    cases hp
    have hne : (Selection.mk group.1 group.2 .tensor (predictedTensorSpeedupMilli group.2)).parallelism ≠ .replica := nofun
    have hlen : 1 < group.2.length := (length_placements hne) ▸ hlt
    have hready := (qualified_iff hlen hne).1 hok.2
    exact (isQualified_iff hs (hranking ▸ hgroup) rfl rfl (.inr rfl) hready
      fun _ => speedTopologyReady_of_tensorReady htensor).2 (supports_of_tensorReady htensor)
  | replicas _ _ => exact ⟨fun _ => nofun, fun _ _ _ => hother nofun nofun⟩
  | noReplica _ => exact ⟨fun _ => nofun, fun _ _ _ => hother nofun nofun⟩

end

/-! ## Two nodes without pipelines -/

namespace Sessions

/-- Two nodes of five bytes for tensor shards only. -/
def tensorOffers : List ResourceOfferV1 := [offer 11 (runtime 5 {.tensor}), offer 12 (runtime 5 {.tensor})]

theorem tensor_plan_isSome (strategy : ComputeStrategy) :
    (planModelSession (request strategy 8) tensorOffers 0).isSome = true := by
  cases strategy <;> decide +kernel

end Sessions

theorem whole_model_plan_is_one_machine_tensor_nodes :
    (((planModelSession (Sessions.request .autonomousBalanced 8) Sessions.tensorOffers 0).get
        (Sessions.tensor_plan_isSome _)).parallelism = some .wholeModel →
      ((planModelSession (Sessions.request .autonomousBalanced 8) Sessions.tensorOffers 0).get
        (Sessions.tensor_plan_isSome _)).IsOfOneMachine (Sessions.request .autonomousBalanced 8) Sessions.tensorOffers 0) ↔
      (ComputeStrategy.autonomousBalanced = .maximumModelSize → ∀ top rest,
        ranking (Sessions.request .autonomousBalanced 8) Sessions.tensorOffers 0 = top :: rest →
        formsPipeline top = false → top.2.length = 1) :=
  whole_model_plan_is_one_machine_iff (Option.some_get _).symm

/-- The plan for the largest model puts a whole model on one of two nodes and calls it distributed. -/
theorem whole_model_plan_is_of_two_machines :
    ¬ ∀ (request : ModelSessionRequestV1) (offers : List ResourceOfferV1) (now : Int) (plan : ModelSessionPlan),
      planModelSession request offers now = some plan → plan.parallelism = some .wholeModel →
      plan.IsOfOneMachine request offers now := by
  intro hall
  have hfacts : (planModelSession (Sessions.request .maximumModelSize 5) Sessions.tensorOffers 0).map
      (fun plan => (plan.parallelism, plan.distributed)) = some (some .wholeModel, true) := by decide +kernel
  obtain ⟨plan, hplan, hplan'⟩ := Option.map_eq_some_iff.1 hfacts
  simp only [Prod.mk.injEq] at hplan'
  obtain ⟨hparallelism, hdistributed⟩ := hplan'
  have hone := (hall _ _ _ plan hplan hparallelism).notDistributed
  rw [hdistributed] at hone
  cases hone

theorem ready_plan_is_qualified_tensor_nodes :
    (((planModelSession (Sessions.request .autonomousBalanced 8) Sessions.tensorOffers 0).get
        (Sessions.tensor_plan_isSome _)).state = .ready →
      1 < ((planModelSession (Sessions.request .autonomousBalanced 8) Sessions.tensorOffers 0).get
        (Sessions.tensor_plan_isSome _)).placements.length → ∀ parallelism,
      ((planModelSession (Sessions.request .autonomousBalanced 8) Sessions.tensorOffers 0).get
        (Sessions.tensor_plan_isSome _)).parallelism = some parallelism → parallelism = .pipeline ∨ parallelism = .tensor →
      ((planModelSession (Sessions.request .autonomousBalanced 8) Sessions.tensorOffers 0).get
        (Sessions.tensor_plan_isSome _)).IsQualified (Sessions.request .autonomousBalanced 8) Sessions.tensorOffers 0
          parallelism) ↔
      ∀ top rest, ranking (Sessions.request .autonomousBalanced 8) Sessions.tensorOffers 0 = top :: rest →
        SplitsTop 8 top rest .autonomousBalanced → 1 < top.2.length → 8 ≤ groupTotal top →
        (∀ c ∈ top.2, c.runtime.isQualifiedForDistributed = true ∧ c.topologyReady = true) →
        ∀ c ∈ top.2, c.supports .pipeline = true :=
  ready_plan_is_qualified_iff (Option.some_get _).symm

/-- A ready pipeline on two runtimes that offer only tensor shards. -/
theorem ready_pipeline_of_tensor_runtimes :
    ¬ ∀ (request : ModelSessionRequestV1) (offers : List ResourceOfferV1) (now : Int) (plan : ModelSessionPlan),
      planModelSession request offers now = some plan → plan.state = .ready → 1 < plan.placements.length →
      ∀ parallelism, plan.parallelism = some parallelism → parallelism = .pipeline ∨ parallelism = .tensor →
      plan.IsQualified request offers now parallelism := by
  intro hall
  have hfacts : (planModelSession (Sessions.request .autonomousBalanced 8) Sessions.tensorOffers 0).map
      (fun plan => (plan.state, plan.placements.length, plan.parallelism)) = some (.ready, 2, some .pipeline) := by
    decide +kernel
  have hruntimes : (placedRuntimes (Sessions.request .autonomousBalanced 8) Sessions.tensorOffers 0).all
      (·.supports .pipeline) = false := by decide +kernel
  obtain ⟨plan, hplan, hplan'⟩ := Option.map_eq_some_iff.1 hfacts
  simp only [Prod.mk.injEq] at hplan'
  obtain ⟨hstate, hlen, hparallelism⟩ := hplan'
  have hqualified := hall _ _ _ plan hplan hstate (by rw [hlen]; exact Nat.one_lt_two) _ hparallelism (.inl rfl)
  rw [List.all_eq_true.2 hqualified.supported] at hruntimes
  cases hruntimes

end Rampage.Planner
