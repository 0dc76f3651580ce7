/-
Placement: how the planner scores an offer for a job (`score_offer_with_admission`,
`score_offer_with_topology`), chooses the best one (`choose_offer_with_topology`) and places a
shard set against one evolving reservation book (`plan_shard_set`).
-/
import Rampage.Protocol.Contracts
import Rampage.Governor.Check
import Rampage.Lib.Saturating
import Rampage.Lib.Select
import Mathlib.Data.Prod.Lex
import Mathlib.Order.OrderDual

namespace Rampage.Planner

open Rampage.Protocol

/-- How well an offer suits a job, and whether it may run it at all. -/
structure PlacementScore where
  nodeId : Uuid
  satisfies : Bool
  dataLocalInputs : Nat
  missingInputBytes : Nat
  capacityHeadroom : Nat
  capacityFitMilli : Nat
  linkRttMicros : Nat
  linkDownlinkBps : Nat
  estimatedTransferMillis : Nat
  utilityMilli : Int
  topologyConfidence : String
  reason : String
deriving DecidableEq

/-- What the owner of a node keeps back. -/
structure AdmissionPolicy where
  protectedOwnerReserve : ResourceClass → Nat
  safetyGuardbandPercent : Nat

/-- `AdmissionPolicy::default`. -/
def AdmissionPolicy.default : AdmissionPolicy where
  protectedOwnerReserve
    | .cpuCompute => 1
    | .ramWorkingSet => 512 * 1024 * 1024
    | _ => 0
  safetyGuardbandPercent := 10

/-- What a job that was placed takes of a node. -/
structure ResourceReservation where
  jobId : Uuid
  nodeId : Uuid
  cls : ResourceClass
  amount : Nat
  expiresAt : Int
deriving DecidableEq

/-- Where a shard goes. -/
structure ShardPlacement where
  jobId : Uuid
  nodeId : Uuid
  score : PlacementScore
deriving DecidableEq

/-- The first shard that has no place, and why. -/
structure ShardPlanningFailure where
  blockedJobId : Uuid
  plannedShards : Nat
  reason : String
deriving DecidableEq

/-- The `Debug` name of a resource class. -/
def className : ResourceClass → String
  | .cpuCompute => "CpuCompute"
  | .gpuCompute => "GpuCompute"
  | .npuCompute => "NpuCompute"
  | .gpuMemory => "GpuMemory"
  | .ramWorkingSet => "RamWorkingSet"
  | .ramCache => "RamCache"
  | .storageCache => "StorageCache"
  | .storageScratch => "StorageScratch"
  | .protectedStore => "ProtectedStore"
  | .networkFetch => "NetworkFetch"
  | .networkRelay => "NetworkRelay"
  | .toolchain => "Toolchain"
  | .runtime => "Runtime"
  | .codec => "Codec"
  | .licensedService => "LicensedService"

/-- `denied_score`. -/
def deniedScore (nodeId : Uuid) (reason : String) : PlacementScore where
  nodeId := nodeId
  satisfies := false
  dataLocalInputs := 0
  missingInputBytes := 0
  capacityHeadroom := 0
  capacityFitMilli := 0
  linkRttMicros := 0
  linkDownlinkBps := 0
  estimatedTransferMillis := 0
  utilityMilli := -(2 ^ 63)
  topologyConfidence := "inadmissible"
  reason := reason

/-! ## Admission -/

/-- The resource the score uses for a class: collecting the offer into a map by class keeps the
last resource of each class. -/
def resourceOf (offer : ResourceOfferV1) (cls : ResourceClass) : Option ResourceQuantityV1 :=
  (offer.resources.filter (·.cls == cls)).getLast?

section

variable (offer : ResourceOfferV1) (reservations : List ResourceReservation) (policy : AdmissionPolicy)
  (now : Int)

/-- The live reservations of a class on the offer's node. -/
def pending (cls : ResourceClass) : Nat :=
  ((reservations.filter fun r => r.nodeId == offer.nodeId && r.cls == cls && decide (now < r.expiresAt)).map
    (·.amount)).foldl U64.satAdd 0

/-- What a resource can still give: available, less the live reservations, the owner's reserve and
the guardband. -/
def admissible (resource : ResourceQuantityV1) (cls : ResourceClass) : Nat :=
  resource.available - pending offer reservations now cls - policy.protectedOwnerReserve cls -
    U64.satMul resource.capacity (Nat.min policy.safetyGuardbandPercent 100) / 100

/-- The fit of one request in thousandths of its preferred amount, capped at four. -/
def fitMilli (request : ResourceRequestV1) (amount : Nat) : Nat :=
  Nat.min (U64.satMul amount 1000 / Nat.max (Nat.max request.preferred request.minimum) 1) 4000

/-- The loop of `score_offer_with_admission` over the requests: the headroom and the fit so far,
or the reason the offer is refused. -/
def scoreRequests : List ResourceRequestV1 → Nat → Nat → Except String (Nat × Nat)
  | [], headroom, fit => .ok (headroom, fit)
  | request :: rest, headroom, fit =>
    match resourceOf offer request.cls with
    | none => .error ("missing resource " ++ className request.cls)
    | some resource =>
      let amount := admissible offer reservations policy now resource request.cls
      if ¬ Governor.labelsMatch request resource ∨ amount < request.minimum ∨ resource.unit ≠ request.unit then
        .error ("insufficient or incompatible " ++ className request.cls)
      else scoreRequests rest (U64.satAdd headroom (amount - request.minimum))
        (Nat.min fit (fitMilli request amount))

/-- `score_offer_with_admission`. -/
def scoreOfferWithAdmission (job : JobSpecV1) : PlacementScore :=
  if job.adapter ∉ offer.adapters then deniedScore offer.nodeId "required adapter is unavailable"
  else match scoreRequests offer reservations policy now job.requests 0 U64.max with
  | .error reason => deniedScore offer.nodeId reason
  | .ok (headroom, fit) =>
    let capacityFitMilli := if fit = U64.max then 1000 else fit
    { nodeId := offer.nodeId
      satisfies := true
      dataLocalInputs := 0
      missingInputBytes := U64.wrappingSum (job.inputs.map (·.sizeBytes))
      capacityHeadroom := headroom
      capacityFitMilli := capacityFitMilli
      linkRttMicros := 0
      linkDownlinkBps := 0
      estimatedTransferMillis := 0
      utilityMilli := capacityFitMilli
      topologyConfidence := "unmeasured"
      reason := "whole-workload placement satisfies hard constraints" }

/-! ## Topology -/

/-- The round trip, downlink and confidence the score uses: none for the controller's own machine,
a fresh measurement, or the conservative fallback. -/
def linkOf : Nat × Nat × String :=
  if offer.meshEndpoint.isNone then (0, U64.max, "controller_local")
  else match offer.linkBenchmark with
  | some link =>
    if link.schema = "rampage.link-benchmark.v1" ∧ now < link.expiresAt ∧ 0 < link.downlinkBps then
      (link.rttMicrosP50, link.downlinkBps, "measured")
    else (50000, 20000000, "conservative_fallback")
  | none => (50000, 20000000, "conservative_fallback")

/-- The estimated staging time in milliseconds. -/
def transferMillis (missing rttMicros downlinkBps : Nat) : Nat :=
  if missing = 0 then 0
  else U64.satAdd (U64.divCeil (U64.satMul (U64.satMul missing 8) 1000) (Nat.max downlinkBps 1))
    (U64.divCeil rttMicros 1000)

/-- `score_offer_with_topology`. -/
def scoreOfferWithTopology (job : JobSpecV1) (localDigests : Finset String) : PlacementScore :=
  let score := scoreOfferWithAdmission offer reservations policy now job
  if score.satisfies = false then score
  else
    let localInputs := (job.inputs.filter (·.digest ∈ localDigests)).length % 2 ^ 32
    let missing := ((job.inputs.filter (·.digest ∉ localDigests)).map (·.sizeBytes)).foldl U64.satAdd 0
    let link := linkOf offer now
    let millis := transferMillis missing link.1 link.2.1
    { score with
      dataLocalInputs := localInputs
      missingInputBytes := missing
      linkRttMicros := link.1
      linkDownlinkBps := link.2.1
      topologyConfidence := link.2.2
      estimatedTransferMillis := millis
      utilityMilli := score.capacityFitMilli - (Nat.min (U64.divCeil millis 10) 10000 : Nat)
      reason := "admissible; " ++ toString localInputs ++ " of " ++ toString job.inputs.length ++
        " inputs local; estimated staging " ++ toString millis ++ " ms; topology " ++ link.2.2 }

end

/-! ## Choice -/

/-- The key of `placement_rank`, compared lexicographically; less staging time is better. -/
abbrev Rank := Int ×ₗ Nat ×ₗ Nat ×ₗ Natᵒᵈ ×ₗ Nat

/-- `placement_rank`. -/
def placementRank (score : PlacementScore) : Rank :=
  toLex (score.utilityMilli, toLex (score.dataLocalInputs, toLex (score.capacityFitMilli,
    toLex (OrderDual.toDual score.estimatedTransferMillis, score.capacityHeadroom))))

section

variable (reservations : List ResourceReservation) (policy : AdmissionPolicy) (now : Int)

/-- The offers with their scores, for the input digests each node holds. -/
def scored (job : JobSpecV1) (offers : List ResourceOfferV1) (localInputsByNode : Uuid → Finset String) :
    List (ResourceOfferV1 × PlacementScore) :=
  offers.map fun offer =>
    (offer, scoreOfferWithTopology offer reservations policy now job (localInputsByNode offer.nodeId))

/-- `choose_offer_with_topology`. -/
def chooseOfferWithTopology (job : JobSpecV1) (offers : List ResourceOfferV1)
    (localInputsByNode : Uuid → Finset String) : Option (ResourceOfferV1 × PlacementScore) :=
  Select.maxByKey (fun c => placementRank c.2)
    ((scored reservations policy now job offers localInputsByNode).filter (·.2.satisfies))

end

/-- The reservations a placed job holds. -/
def reservationsOf (job : JobSpecV1) (nodeId : Uuid) (expiresAt : Int) : List ResourceReservation :=
  job.requests.map fun request => ⟨job.jobId, nodeId, request.cls, request.minimum, expiresAt⟩

/-- The loop of `plan_shard_set` over the shards, with the provisional book and the placements so
far. -/
def planShards (set : ShardSetV1) (offers : List ResourceOfferV1) (policy : AdmissionPolicy) (now : Int)
    (locality : Uuid → Uuid → Finset String) :
    List JobSpecV1 → List ResourceReservation → List ShardPlacement →
      Except ShardPlanningFailure (List ShardPlacement)
  | [], _, placements => .ok placements
  | job :: rest, provisional, placements =>
    match chooseOfferWithTopology provisional policy now job offers (locality job.jobId) with
    | none => .error ⟨job.jobId, placements.length, "no admissible offer after provisional shard reservations"⟩
    | some (offer, score) =>
      planShards set offers policy now locality rest
        (provisional ++ reservationsOf job offer.nodeId (min set.deadline job.deadline))
        (placements ++ [⟨job.jobId, offer.nodeId, score⟩])

/-- `plan_shard_set`. -/
def planShardSet (set : ShardSetV1) (offers : List ResourceOfferV1) (reservations : List ResourceReservation)
    (policy : AdmissionPolicy) (now : Int) (locality : Uuid → Uuid → Finset String) :
    Except ShardPlanningFailure (List ShardPlacement) :=
  planShards set offers policy now locality set.shards (reservations.filter (now < ·.expiresAt)) []

/-! ## What a satisfying score guarantees -/

theorem scoreRequests_meets {offer : ResourceOfferV1} {reservations : List ResourceReservation}
    {policy : AdmissionPolicy} {now : Int} :
    ∀ {requests : List ResourceRequestV1} {h f : Nat} {r : Nat × Nat},
      scoreRequests offer reservations policy now requests h f = .ok r →
      ∀ request ∈ requests, ∃ resource ∈ offer.resources, Governor.meets request resource = true
  | [], _, _, _, _, request, hm => by cases hm
  | q :: rest, h, f, r, hs, request, hm => by
    unfold scoreRequests at hs
    split at hs
    · cases hs
    rename_i resource hr
    simp only at hs
    split at hs
    · cases hs
    rename_i hok
    rcases List.mem_cons.1 hm with rfl | hm
    · simp only [not_or, not_not, not_lt] at hok
      obtain ⟨hl, ha, hu⟩ := hok
      have hmem := List.mem_filter.1 (List.mem_of_getLast? hr)
      refine ⟨resource, hmem.1, ?_⟩
      have hle : request.minimum ≤ resource.available := by
        refine le_trans ha ?_
        unfold admissible
        omega
      simp only [Governor.meets, Bool.and_eq_true, decide_eq_true_eq, beq_iff_eq]
      exact ⟨⟨⟨by simpa using hmem.2, hu⟩, hle⟩, hl⟩
    · exact scoreRequests_meets hs request hm

/-- An offer that satisfies the score offers the adapter, and one of its resources meets each
request on its own. -/
theorem scoreOfferWithAdmission_satisfies {offer : ResourceOfferV1} {reservations : List ResourceReservation}
    {policy : AdmissionPolicy} {now : Int} {job : JobSpecV1}
    (h : (scoreOfferWithAdmission offer reservations policy now job).satisfies = true) :
    job.adapter ∈ offer.adapters ∧
      ∀ request ∈ job.requests, ∃ resource ∈ offer.resources, Governor.meets request resource = true := by
  unfold scoreOfferWithAdmission at h
  split at h
  · simp [deniedScore] at h
  · rename_i ha
    rw [not_not] at ha
    split at h
    · simp [deniedScore] at h
    · rename_i hs
      exact ⟨ha, scoreRequests_meets hs⟩

theorem scoreOfferWithTopology_satisfies (offer : ResourceOfferV1) (reservations : List ResourceReservation)
    (policy : AdmissionPolicy) (now : Int) (job : JobSpecV1) (localDigests : Finset String) :
    (scoreOfferWithTopology offer reservations policy now job localDigests).satisfies =
      (scoreOfferWithAdmission offer reservations policy now job).satisfies := by
  unfold scoreOfferWithTopology
  simp only
  split <;> rfl

/-- The loop places every remaining shard, in order. -/
theorem planShards_jobs {set : ShardSetV1} {offers : List ResourceOfferV1} {policy : AdmissionPolicy} {now : Int}
    {locality : Uuid → Uuid → Finset String} :
    ∀ {shards : List JobSpecV1} {book : List ResourceReservation} {acc placements : List ShardPlacement},
      planShards set offers policy now locality shards book acc = .ok placements →
      placements.map (·.jobId) = acc.map (·.jobId) ++ shards.map (·.jobId)
  | [], _, acc, placements, h => by
    cases h
    simp
  | job :: rest, book, acc, placements, h => by
    unfold planShards at h
    split at h
    · cases h
    · rw [planShards_jobs h]
      simp

/-- A plan places exactly the shards of its set, in order. -/
theorem planShardSet_jobs {set : ShardSetV1} {offers : List ResourceOfferV1} {book : List ResourceReservation}
    {policy : AdmissionPolicy} {now : Int} {locality : Uuid → Uuid → Finset String}
    {placements : List ShardPlacement} (h : planShardSet set offers book policy now locality = .ok placements) :
    placements.map (·.jobId) = set.shards.map (·.jobId) := by
  simpa using planShards_jobs h

end Rampage.Planner
