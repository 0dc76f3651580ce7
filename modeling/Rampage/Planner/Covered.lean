/-
Whether the placements of a plan cover the model. Whole models, tensor shards and replicas do. A pipeline gives every rank
but the last its proportional share, rounded down, and the last one what remains as far as it has room: what its capacity cannot
take is placed nowhere, although the capacity of the group passed (`placements_cover_model_iff`).
-/
import Rampage.Planner.Choice

namespace Rampage.Planner

open Rampage.Protocol

/-- The placements of a plan cover a model of this size. -/
structure ModelSessionPlan.Covers (plan : ModelSessionPlan) (requiredBytes : Nat) : Prop where
  within : ∀ p ∈ plan.placements, p.assignedBytes ≤ p.availableModelBytes
  exact : plan.parallelism = some .pipeline ∨ plan.parallelism = some .wholeModel →
    (plan.placements.map (·.assignedBytes)).sum = requiredBytes
  tensor : plan.parallelism = some .tensor → requiredBytes ≤ (plan.placements.map (·.assignedBytes)).sum
  replica : plan.parallelism = some .replica → ∀ p ∈ plan.placements, p.assignedBytes = requiredBytes

/-! ## Pipelines -/

section

variable {requiredBytes total : Nat}

theorem availableBytes_lt (c : RuntimeCandidate) : c.availableBytes < 2 ^ 64 :=
  lt_of_le_of_lt (Nat.min_le_left _ _) c.runtime.availableModelBytes.toNat_lt

/-- What the ranks of a pipeline can take: their shares, and all the last one has. -/
def rankShares (requiredBytes total : Nat) : List RuntimeCandidate → List Nat
  | [] => []
  | [c] => [c.availableBytes]
  | c :: c' :: rest =>
    Nat.min (proportionalShare requiredBytes total c) c.availableBytes :: rankShares requiredBytes total (c' :: rest)

/-- No rank is assigned more than it has. -/
theorem allocateRanks_within : ∀ (candidates : List RuntimeCandidate) (index remaining : Nat),
    ∀ p ∈ allocateRanks requiredBytes total candidates index remaining, p.assignedBytes ≤ p.availableModelBytes
  | [], _, _, p, hp => by cases hp
  | [c], index, remaining, p, hp => by
    rw [allocateRanks, List.mem_singleton] at hp
    subst hp
    exact Nat.min_le_right _ _
  | c :: c' :: rest, index, remaining, p, hp => by
    rw [allocateRanks] at hp
    rcases List.mem_cons.1 hp with rfl | hp
    · exact (Nat.min_le_left _ _).trans (Nat.min_le_right _ _)
    · exact allocateRanks_within (c' :: rest) _ _ p hp

/-- The ranks together are assigned the model as far as their shares go. -/
theorem allocateRanks_sum : ∀ (candidates : List RuntimeCandidate) (index remaining : Nat),
    ((allocateRanks requiredBytes total candidates index remaining).map (·.assignedBytes)).sum =
      min remaining (rankShares requiredBytes total candidates).sum
  | [], _, remaining => (Nat.min_zero remaining).symm
  | [c], index, remaining => rfl
  | c :: c' :: rest, index, remaining => by
    have ih := allocateRanks_sum (c' :: rest) (index + 1)
      (remaining - Nat.min (Nat.min (proportionalShare requiredBytes total c) c.availableBytes) remaining)
    rw [allocateRanks, rankShares, List.map_cons, List.sum_cons, List.sum_cons, ih]
    show min (Nat.min _ _) remaining + min (remaining - min _ remaining) _ = _
    omega

theorem rankShares_concat (init : List RuntimeCandidate) (last : RuntimeCandidate) :
    rankShares requiredBytes total (init ++ [last]) =
      (init.map fun c => Nat.min (proportionalShare requiredBytes total c) c.availableBytes) ++ [last.availableBytes] := by
  induction init with
  | nil => rfl
  | cons c init ih =>
    rw [List.map_cons, List.cons_append, List.cons_append, ← ih]
    cases init with
    | nil => rfl
    | cons c' init => rfl

/-- A share of a model no larger than the total is no larger than the runtime, so it is cut neither to the runtime nor
to 64 bits. -/
theorem min_proportionalShare (h : requiredBytes ≤ total) (c : RuntimeCandidate) :
    Nat.min (proportionalShare requiredBytes total c) c.availableBytes = requiredBytes * c.availableBytes / total := by
  unfold proportionalShare
  rcases Nat.eq_zero_or_pos total with rfl | hpos
  · rw [Nat.le_zero.1 h, Nat.zero_mul]
    exact Nat.zero_min _
  · have hmax : Nat.max total 1 = total := Nat.max_eq_left hpos
    have hle : requiredBytes * c.availableBytes / total ≤ c.availableBytes :=
      Nat.div_le_of_le_mul (Nat.mul_le_mul_right _ h)
    rw [hmax, Nat.mod_eq_of_lt (lt_of_le_of_lt hle (availableBytes_lt c))]
    exact Nat.min_eq_left hle

/-- The last runtime of a group has room for what the shares of the others leave. -/
def LastRankFits (requiredBytes : Nat) (group : RuntimeGroup) : Prop :=
  ∀ (init : List RuntimeCandidate) (last : RuntimeCandidate), group.2 = init ++ [last] →
    requiredBytes ≤ (init.map fun c => requiredBytes * c.availableBytes / groupTotal group).sum + last.availableBytes

/-- A pipeline of a group with enough capacity covers the model exactly if the last runtime has this room. -/
theorem allocatePipeline_sum_iff (group : RuntimeGroup) (h : requiredBytes ≤ groupTotal group) :
    ((allocatePipeline group.2 requiredBytes).map (·.assignedBytes)).sum = requiredBytes ↔
      LastRankFits requiredBytes group := by
  unfold allocatePipeline
  rw [allocateRanks_sum]
  unfold LastRankFits
  rcases List.eq_nil_or_concat group.2 with hnil | ⟨init, last, hlast⟩
  · have hzero : requiredBytes = 0 := by
      unfold groupTotal at h
      rw [hnil] at h
      exact Nat.le_zero.1 h
    rw [hzero, Nat.zero_min]
    exact ⟨fun _ _ _ _ => Nat.zero_le _, fun _ => rfl⟩
  · rw [List.concat_eq_append] at hlast
    have hshares : (rankShares requiredBytes (groupTotal group) group.2).sum =
        (init.map fun c => requiredBytes * c.availableBytes / groupTotal group).sum + last.availableBytes := by
      rw [hlast, rankShares_concat, List.sum_append, List.sum_singleton]
      rw [List.map_congr_left fun c _ => min_proportionalShare h c]
    change min requiredBytes (rankShares requiredBytes (groupTotal group) group.2).sum = requiredBytes ↔ _
    rw [hshares, min_eq_left_iff]
    constructor
    · intro hle init' last' heq
      obtain ⟨rfl, hlast'⟩ := List.append_inj' (hlast.symm.trans heq) rfl
      rw [← List.singleton_inj.1 hlast']
      exact hle
    · exact fun hall => hall init last hlast

end

/-! ## The other placements -/

section

variable {request : ModelSessionRequestV1} {offers : List ResourceOfferV1} {now : Int} {s : Selection} {requiredBytes : Nat}

/-- One runtime that fits takes the whole model. -/
theorem covers_single {c : RuntimeCandidate} (hparallelism : s.parallelism = .wholeModel) (hplaced : s.placed = [c])
    (hfits : request.requiredBytes ≤ c.availableBytes) : (s.plan request offers now).Covers request.requiredBytes := by
  have hplacements : (s.plan request offers now).placements =
      [c.place 0 request.requiredBytes "coordinator_rank"] := by
    show s.placements request.requiredBytes = _
    unfold Selection.placements
    rw [hparallelism, hplaced]
    have hmin : Nat.min request.requiredBytes c.availableBytes = request.requiredBytes := Nat.min_eq_left hfits
    show [c.place 0 (Nat.min request.requiredBytes c.availableBytes) _] = _
    rw [hmin]
    rfl
  have hplan : (s.plan request offers now).parallelism = some .wholeModel := congrArg some hparallelism
  refine ⟨?_, ?_, ?_, ?_⟩
  · intro p hp
    rw [hplacements, List.mem_singleton] at hp
    subst hp
    exact hfits
  · intro _
    rw [hplacements]
    rfl
  · intro h
    rw [hplan] at h
    cases h
  · intro h
    rw [hplan] at h
    cases h

theorem le_mul_shardBytes {n : Nat} (hn : 0 < n) : requiredBytes ≤ n * shardBytes requiredBytes n := by
  unfold shardBytes U64.divCeil
  have hdiv := Nat.div_add_mod (requiredBytes + n - 1) n
  have hmod := Nat.mod_lt (requiredBytes + n - 1) hn
  omega

/-- Shards of a group that has room for them. -/
theorem covers_tensor (hparallelism : s.parallelism = .tensor) (hne : s.selected ≠ [])
    (hfits : s.capacityFits request.requiredBytes = true) : (s.plan request offers now).Covers request.requiredBytes := by
  have hplan : (s.plan request offers now).parallelism = some .tensor := congrArg some hparallelism
  have hplaced : s.placed = s.selected := by
    unfold Selection.placed
    rw [hparallelism]
    rfl
  have hplacements : (s.plan request offers now).placements = s.selected.zipIdx.map fun p =>
      p.1.place p.2 (shardBytes request.requiredBytes (Nat.max s.selected.length 1)) (splitRole "tensor_rank" p.2) := by
    show s.placements request.requiredBytes = _
    unfold Selection.placements
    rw [hparallelism, hplaced]
  unfold Selection.capacityFits at hfits
  rw [hparallelism] at hfits
  dsimp only at hfits
  have hmax : Nat.max s.selected.length 1 = s.selected.length := Nat.max_eq_left (List.length_pos_iff.2 hne)
  refine ⟨?_, ?_, ?_, ?_⟩
  · intro p hp
    rw [hplacements] at hp
    obtain ⟨⟨c, i⟩, hc, rfl⟩ := List.mem_map.1 hp
    exact of_decide_eq_true (List.all_eq_true.1 hfits c (List.fst_mem_of_mem_zipIdx hc))
  · intro h
    rw [hplan] at h
    rcases h with h | h <;> cases h
  · intro _
    rw [hplacements, List.map_map]
    have hsum : (s.selected.zipIdx.map fun _ => shardBytes request.requiredBytes (Nat.max s.selected.length 1)).sum =
        s.selected.length * shardBytes request.requiredBytes s.selected.length := by
      rw [List.map_const', List.sum_replicate_nat, List.length_zipIdx, hmax]
    exact (le_mul_shardBytes (List.length_pos_iff.2 hne)).trans (le_of_eq hsum.symm)
  · intro h
    rw [hplan] at h
    cases h

/-- Replicas are placed where the model fits. -/
theorem covers_replica (hparallelism : s.parallelism = .replica) :
    (s.plan request offers now).Covers request.requiredBytes := by
  have hplan : (s.plan request offers now).parallelism = some .replica := congrArg some hparallelism
  have hmem : ∀ p ∈ (s.plan request offers now).placements, ∃ c : RuntimeCandidate, ∃ i,
      request.requiredBytes ≤ c.availableBytes ∧ p = c.place i request.requiredBytes "replica" := by
    intro p hp
    change p ∈ s.placements request.requiredBytes at hp
    unfold Selection.placements at hp
    rw [hparallelism] at hp
    obtain ⟨⟨c, i⟩, hc, rfl⟩ := List.mem_map.1 hp
    exact ⟨c, i, of_decide_eq_true (List.mem_filter.1 hc).2, rfl⟩
  refine ⟨?_, ?_, ?_, ?_⟩
  · intro p hp
    obtain ⟨c, i, hfits, rfl⟩ := hmem p hp
    exact hfits
  · intro h
    rw [hplan] at h
    rcases h with h | h <;> cases h
  · intro h
    rw [hplan] at h
    cases h
  · intro _ p hp
    obtain ⟨c, i, -, rfl⟩ := hmem p hp
    rfl

end

/-! ## Plans -/

section

variable {request : ModelSessionRequestV1} {offers : List ResourceOfferV1} {now : Int} {top : RuntimeGroup}
  {rest : List RuntimeGroup} {requiredBytes : Nat}

theorem state_eq_capacityBlocked {s : Selection} :
    s.state requiredBytes = .capacityBlocked ↔ s.capacityFits requiredBytes = false := by
  unfold Selection.state
  cases s.capacityFits requiredBytes with
  | false => exact ⟨fun _ => rfl, fun _ => rfl⟩
  | true =>
    rw [if_neg Bool.false_ne_true.symm]
    constructor
    · split <;> exact nofun
    · exact nofun

/-- A pipeline of the top group covers the model exactly if the last rank has room. -/
theorem covers_pipeline_iff (h : request.requiredBytes ≤ groupTotal top) :
    ((Selection.pipeline top).plan request offers now).Covers request.requiredBytes ↔
      LastRankFits request.requiredBytes top := by
  rw [← allocatePipeline_sum_iff top h]
  constructor
  · exact fun hcovers => hcovers.exact (.inl rfl)
  · exact fun hsum => ⟨allocateRanks_within _ _ _, fun _ => hsum, nofun, nofun⟩

/-- The placements of a plan that is not blocked cover the model, unless a pipeline leaves its last rank with more than it has
room for. -/
theorem placements_cover_model_iff {plan : ModelSessionPlan} (h : planModelSession request offers now = some plan) :
    (plan.state ≠ .capacityBlocked → plan.Covers request.requiredBytes) ↔
      ∀ top rest, ranking request offers now = top :: rest →
        SplitsTop request.requiredBytes top rest request.strategy → request.requiredBytes ≤ groupTotal top →
        LastRankFits request.requiredBytes top := by
  rcases plan_cases h with ⟨hnil, rfl⟩ | ⟨top, rest, s, hranking, -, hchoice, rfl⟩
  · rw [hnil]
    exact ⟨fun _ _ _ => nofun, fun _ hstate => absurd rfl hstate⟩
  have hstate : (s.plan request offers now).state = s.state request.requiredBytes := rfl
  rw [hstate, Ne, state_eq_capacityBlocked, Bool.not_eq_false]
  have hall : (∀ top' rest', ranking request offers now = top' :: rest' →
      SplitsTop request.requiredBytes top' rest' request.strategy → request.requiredBytes ≤ groupTotal top' →
      LastRankFits request.requiredBytes top') ↔ (SplitsTop request.requiredBytes top rest request.strategy →
      request.requiredBytes ≤ groupTotal top → LastRankFits request.requiredBytes top) := by
    rw [hranking]
    constructor
    · exact fun hall => hall top rest rfl
    · intro htop top' rest' heq
      cases heq
      exact htop
  rw [hall]
  rw [hchoice.splitsTop_iff]
  generalize request.strategy = strategy at hchoice
  cases hchoice with
  | split _ =>
    have hfits : (Selection.pipeline top).capacityFits request.requiredBytes = true ↔
        request.requiredBytes ≤ groupTotal top := decide_eq_true_iff
    rw [hfits]
    constructor
    · exact fun hcovers _ hle => (covers_pipeline_iff hle).1 (hcovers hle)
    · exact fun hlast hle => (covers_pipeline_iff hle).2 (hlast rfl hle)
  | wholeGroup _ =>
    -- the runtimes are in descending order, so the first one fits if any does
    refine ⟨fun _ => nofun, fun _ hfits => ?_⟩
    have hsorted := ranked_pairwise (hranking ▸ List.mem_cons_self .. : top ∈ ranking request offers now)
    obtain ⟨c, hc, hle⟩ := List.any_eq_true.1 hfits
    dsimp only at hc
    cases hselected : top.2 with
    | nil =>
      rw [hselected] at hc
      cases hc
    | cons first others =>
      rw [hselected] at hc hsorted
      have hfirst : c.availableBytes ≤ first.availableBytes := by
        rcases List.mem_cons.1 hc with rfl | hc
        · exact le_refl _
        · exact List.rel_of_pairwise_cons hsorted hc
      exact covers_single rfl rfl (le_trans (of_decide_eq_true hle) hfirst)
  | single _ _ hfound =>
    obtain ⟨_, _, _, _, hfits⟩ := mem_singles.1 hfound
    exact ⟨fun _ => nofun, fun _ _ => covers_single rfl rfl hfits⟩
  | tooSmall hnone hc =>
    refine ⟨fun _ => nofun, fun _ hfits => ?_⟩
    have hlt := hnone top (List.mem_cons_self ..) _ hc
    obtain ⟨c', hc', hle⟩ := List.any_eq_true.1 hfits
    rw [Selection.single, List.mem_singleton] at hc'
    subst hc'
    exact absurd (of_decide_eq_true hle) (Nat.not_le.2 hlt)
  | tensor _ hready =>
    refine ⟨fun _ => nofun, fun _ hfits => covers_tensor rfl ?_ hfits⟩
    rintro hnil
    dsimp only at hnil
    rw [hnil] at hready
    cases hready
  | replicas _ _ => exact ⟨fun _ => nofun, fun _ _ => covers_replica rfl⟩
  | noReplica _ => exact ⟨fun _ => nofun, fun _ _ => covers_replica rfl⟩

end

/-! ## Three uneven nodes -/

namespace Sessions

/-- The digest of the example's runtime. -/
def digest : String := "sha256:ffffffffffffffffffffffffffffffffffffffffffffffffffffffffffffffff"

/-- A certified runtime. -/
def runtime (bytes : UInt64) (parallelism : Finset ModelParallelism) : ModelRuntimeOfferV1 where
  schema := ModelRuntimeOfferV1.schemaName
  adapter := "exo-mlx"
  backend := .exoMlx
  runtimeDigest := digest
  compatibilityKey := "mlx-0.1"
  memoryKind := .unified
  availableModelBytes := bytes
  supportedParallelism := parallelism
  status := .qualified
  installedModels := []
  certificationDigest := some digest

/-- A node with a fast measured link. -/
def offer (nodeId : Uuid) (runtime : ModelRuntimeOfferV1) : ResourceOfferV1 where
  schema := "rampage.resource-offer.v1"
  offerId := nodeId
  nodeId := nodeId
  observedAt := 0
  expiresAt := minutes 1
  resources := [⟨.ramWorkingSet, 2 ^ 63, 2 ^ 63, "byte", []⟩]
  availability := ⟨true, none, 100, true, true⟩
  adapters := {"exo-mlx"}
  workloadCapabilities := []
  modelRuntimes := [runtime]
  linkBenchmark := some ⟨"rampage.link-benchmark.v1", minutes 1, 2000, 2500000000, 2500000000⟩
  meshEndpoint := some ⟨"rampage.mesh-endpoint.v1", "endpoint", [], [], 0, minutes 1, "signed"⟩
  signature := "signed"

/-- A session of so many bytes under a strategy. -/
def request (strategy : ComputeStrategy) (bytes : Nat) : ModelSessionRequestV1 where
  schema := ModelSessionRequestV1.schemaName
  sessionId := 1
  modelId := "llama"
  estimatedWeightBytes := bytes
  kvCacheBytes := 0
  contextTokens := 4096
  strategy := strategy
  maxNodes := 8
  deadline := minutes 5
  idempotencyKey := "key"

/-- Two nodes of five bytes and a last one of `bytes`. -/
def unevenOffers (bytes : UInt64) : List ResourceOfferV1 :=
  [offer 11 (runtime 5 {.pipeline}), offer 12 (runtime 5 {.pipeline}), offer 13 (runtime bytes {.pipeline})]

/-- Ten bytes go on nodes of five, five and two: shares of four and four leave two. -/
theorem uneven_plan_isSome : (planModelSession (request .maximumModelSize 10) (unevenOffers 2) 0).isSome = true := by
  decide +kernel

end Sessions

theorem placements_cover_model_three_nodes :
    (((planModelSession (Sessions.request .maximumModelSize 10) (Sessions.unevenOffers 2) 0).get
        Sessions.uneven_plan_isSome).state ≠ .capacityBlocked →
      ((planModelSession (Sessions.request .maximumModelSize 10) (Sessions.unevenOffers 2) 0).get
        Sessions.uneven_plan_isSome).Covers 10) ↔
      ∀ top rest, ranking (Sessions.request .maximumModelSize 10) (Sessions.unevenOffers 2) 0 = top :: rest →
        SplitsTop 10 top rest .maximumModelSize → 10 ≤ groupTotal top → LastRankFits 10 top :=
  placements_cover_model_iff (Option.some_get _).symm

/-- Ten bytes on nodes of five, five and one: the shares of four and four leave two for the last node, which takes one. The plan
is ready, and one byte is placed nowhere. -/
theorem pipeline_leaves_a_byte :
    ¬ ∀ (request : ModelSessionRequestV1) (offers : List ResourceOfferV1) (now : Int) (plan : ModelSessionPlan),
      planModelSession request offers now = some plan → plan.state ≠ .capacityBlocked → plan.Covers request.requiredBytes := by
  intro hall
  have hfacts : (planModelSession (Sessions.request .maximumModelSize 10) (Sessions.unevenOffers 1) 0).map
      (fun plan => (plan.state, plan.parallelism, (plan.placements.map (·.assignedBytes)).sum)) =
      some (.ready, some .pipeline, 9) := by decide +kernel
  obtain ⟨plan, hplan, hplan'⟩ := Option.map_eq_some_iff.1 hfacts
  simp only [Prod.mk.injEq] at hplan'
  obtain ⟨hstate, hparallelism, hsum⟩ := hplan'
  have hcovers := hall _ _ _ plan hplan (by rw [hstate]; exact nofun)
  rw [hcovers.exact (.inl hparallelism)] at hsum
  exact absurd hsum (by decide)

end Rampage.Planner
