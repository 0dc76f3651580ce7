/-
Model sessions: how the planner groups the model runtimes of the live offers by backend and compatibility key, chooses a
group or a runtime by the strategy of the request, and previews the placement of the model on it (`plan_model_session`).
Sums wrap, as in a release build. `none` is a panic: a strategy takes the first runtime of a group that has none.
-/
import Rampage.Lib.Ranking
import Rampage.Lib.Select
import Rampage.Protocol.Model

namespace Rampage.Planner

open Rampage.Protocol

/-- A plan can be launched, lacks evidence, or does not fit. -/
inductive ModelPlanState
  | ready | qualificationRequired | capacityBlocked
deriving DecidableEq

/-- What a plan gives one machine, and of how much memory there. -/
structure ModelNodePlacement where
  nodeId : Uuid
  rank : Nat
  assignedBytes : Nat
  availableModelBytes : Nat
  role : String
  topologyConfidence : String
deriving DecidableEq

/-- What the planner answers: the machines with what each holds, and the texts that explain the
state. -/
structure ModelSessionPlan where
  schema : String
  sessionId : Uuid
  strategy : ComputeStrategy
  state : ModelPlanState
  backend : Option ModelBackend
  parallelism : Option ModelParallelism
  distributed : Bool
  requiredBytes : Nat
  observedFabricBytes : Nat
  maximumSupportedBytes : Nat
  predictedSpeedupMilli : Nat
  placements : List ModelNodePlacement
  blockers : List String
  warnings : List String
  proposedLocalEndpoint : Option String
  executionAuthority : String
  reason : String
deriving DecidableEq

/-! ## Runtimes -/

/-- `resource_available`. -/
def resourceAvailable (offer : ResourceOfferV1) (cls : ResourceClass) : Nat :=
  ((offer.resources.find? fun r => r.cls == cls && r.unit == "byte").map (·.available)).getD 0

/-- `observed_model_memory`. -/
def observedModelMemory (offer : ResourceOfferV1) : Nat :=
  Nat.max (resourceAvailable offer .gpuMemory) (resourceAvailable offer .ramWorkingSet)

/-- `runtime_capacity`. -/
def runtimeCapacity (offer : ResourceOfferV1) (runtime : ModelRuntimeOfferV1) : Nat :=
  Nat.min runtime.availableModelBytes.toNat <| match runtime.memoryKind with
    | .dedicatedGpu => resourceAvailable offer .gpuMemory
    | .unified | .host => resourceAvailable offer .ramWorkingSet
    | .hybrid => U64.satAdd (resourceAvailable offer .gpuMemory) (resourceAvailable offer .ramWorkingSet)

/-- A runtime and the offer that advertises it. -/
structure RuntimeCandidate where
  offer : ResourceOfferV1
  runtime : ModelRuntimeOfferV1
deriving DecidableEq

namespace RuntimeCandidate

variable (c : RuntimeCandidate)

/-- The `available_bytes` of a candidate. -/
def availableBytes : Nat := runtimeCapacity c.offer c.runtime

/-- What the runtimes of one group share. -/
def key : ModelBackend × String := (c.runtime.backend, c.runtime.compatibilityKey)

/-- `supports`: the runtime of the candidate offers this parallelism. -/
def supports (parallelism : ModelParallelism) : Bool := decide (parallelism ∈ c.runtime.supportedParallelism)

/-- The controller's own machine, or one with a measured link of this quality. -/
def hasLink (rttMicros bps : Nat) : Bool :=
  c.offer.meshEndpoint.isNone ||
    c.offer.linkBenchmark.any fun link => link.rttMicrosP50 ≤ rttMicros && bps ≤ link.uplinkBps && bps ≤ link.downlinkBps

/-- `topology_ready`. -/
def topologyReady : Bool := c.hasLink 25000 250000000

/-- `speed_topology_ready`. -/
def speedTopologyReady : Bool := c.hasLink 5000 1000000000

/-- The status of a runtime that may run a model on its own. -/
def isLocalReady : Bool := c.runtime.status == .shippedLocal || c.runtime.status == .qualified

end RuntimeCandidate

/-- `topology_confidence`. -/
def topologyConfidence (offer : ResourceOfferV1) : String :=
  if offer.meshEndpoint.isNone then "controller_local"
  else if offer.linkBenchmark.isSome then "measured"
  else "unmeasured"

/-- The offers that may serve a session: unexpired, and with power and headroom to spare. -/
def liveOffers (offers : List ResourceOfferV1) (now : Int) : List ResourceOfferV1 :=
  offers.filter fun offer =>
    now < offer.expiresAt && offer.availability.foregroundAllowed && 15 ≤ offer.availability.thermalHeadroomPercent &&
      (offer.availability.onAcPower || 50 ≤ offer.availability.batteryPercent.getD 100)

/-- The runtimes of the live offers, less those of another schema, without memory or without an adapter on the node. -/
def runtimeCandidates (offers : List ResourceOfferV1) (now : Int) : List RuntimeCandidate :=
  (liveOffers offers now).flatMap fun offer =>
    (offer.modelRuntimes.map (RuntimeCandidate.mk offer)).filter fun c =>
      c.runtime.schema == ModelRuntimeOfferV1.schemaName && c.runtime.availableModelBytes != 0 &&
        decide (c.runtime.adapter ∈ offer.adapters) && c.availableBytes != 0

/-! ## Groups -/

/-- The candidates that share a backend and its version. -/
abbrev RuntimeGroup := (ModelBackend × String) × List RuntimeCandidate

/-- The place of a backend in the derived order. -/
def backendRank : ModelBackend → Nat
  | .localOllama => 0
  | .exoMlx => 1
  | .vllmRay => 2

/-- The order of the group map's keys. -/
def keyLe (a b : ModelBackend × String) : Prop :=
  backendRank a.1 < backendRank b.1 ∨ a.1 = b.1 ∧ a.2 ≤ b.2

instance : DecidableRel keyLe := fun _ _ => inferInstanceAs (Decidable (_ ∨ _))

/-- The runtimes by key, in the order of the keys. -/
def runtimeGroups (offers : List ResourceOfferV1) (now : Int) : List RuntimeGroup :=
  (((runtimeCandidates offers now).map (·.key)).dedup.insertionSort keyLe).map fun key =>
    (key, (runtimeCandidates offers now).filter (·.key = key))

/-- The capacities of a list of runtimes. -/
def capacities (runtimes : List RuntimeCandidate) : List Nat := runtimes.map (·.availableBytes)

/-- The largest runtimes of every group, at most `max_nodes` of them. -/
def truncatedGroups (maxNodes : Nat) (groups : List RuntimeGroup) : List RuntimeGroup :=
  groups.map fun group => (group.1, (Ranking.byKeyDesc (·.availableBytes) group.2).take maxNodes)

/-- The total of a group, as the release build sums it. -/
def groupTotal (group : RuntimeGroup) : Nat := U64.wrappingSum (capacities group.2)

/-- The truncated groups by total, the greatest first. -/
def rankedGroups (maxNodes : Nat) (groups : List RuntimeGroup) : List RuntimeGroup :=
  Ranking.byKeyDesc groupTotal (truncatedGroups maxNodes groups)

/-! ## Strategies -/

/-- `predicted_tensor_speedup_milli`. -/
def predictedTensorSpeedupMilli (candidates : List RuntimeCandidate) : Nat :=
  if candidates.length < 2 ∨ candidates.all (·.speedTopologyReady) = false then 1000
  else
    let links := candidates.filterMap (·.offer.linkBenchmark)
    let worstRtt := (links.map (·.rttMicrosP50)).foldr Nat.max 0
    let slowestLink := (links.map fun link => Nat.min link.uplinkBps link.downlinkBps).foldr Nat.min U64.max
    -- the slowest link decides how much of each machine is of use
    let efficiencyMilli :=
      if worstRtt ≤ 1000 ∧ 10000000000 ≤ slowestLink then 850
      else if worstRtt ≤ 2500 ∧ 2500000000 ≤ slowestLink then 650
      else 400
    Nat.max (U64.satMul candidates.length efficiencyMilli) 1000

/-- What a strategy selects from the groups. -/
structure Selection where
  key : ModelBackend × String
  selected : List RuntimeCandidate
  parallelism : ModelParallelism
  predictedSpeedupMilli : Nat
deriving DecidableEq

section

variable (requiredBytes : Nat)

/-- The bytes of one of `n` equal shards. -/
def shardBytes (n : Nat) : Nat := U64.divCeil requiredBytes n

/-- A group that `SpeedBoost` may split into tensor shards: qualified runtimes with room for a shard each, on links
that promise a speedup. -/
def tensorReady (candidates : List RuntimeCandidate) : Bool :=
  1 < candidates.length && candidates.all (fun c => c.supports .tensor && c.runtime.isQualifiedForDistributed) &&
    1100 < predictedTensorSpeedupMilli candidates &&
    candidates.all fun c => shardBytes requiredBytes candidates.length ≤ c.availableBytes

/-- `best_single` and `best_distributed` of the loop over the ranked groups. -/
structure SpeedSearch where
  bestSingle : Option ((ModelBackend × String) × RuntimeCandidate)
  bestDistributed : Option (RuntimeGroup × Nat)

/-- The loop of `SpeedBoost` over one group. -/
def SpeedSearch.step (search : SpeedSearch) (group : RuntimeGroup) : SpeedSearch where
  bestSingle := match group.2.find? (requiredBytes ≤ ·.availableBytes) with
    | none => search.bestSingle
    | some c =>
      if search.bestSingle.all fun current => current.2.availableBytes < c.availableBytes then some (group.1, c)
      else search.bestSingle
  -- an equal speedup does not replace the group found before
  bestDistributed :=
    if tensorReady requiredBytes group.2 = true ∧
        search.bestDistributed.all (fun current => current.2 < predictedTensorSpeedupMilli group.2) = true then
      some (group, predictedTensorSpeedupMilli group.2)
    else search.bestDistributed

/-- The loop over the groups, best group first. -/
def speedSearch (ranked : List RuntimeGroup) : SpeedSearch := ranked.foldl (SpeedSearch.step requiredBytes) ⟨none, none⟩

/-- The runtimes that fit the model on their own, with their keys, in the order of the ranking. -/
def singles (ranked : List RuntimeGroup) : List ((ModelBackend × String) × RuntimeCandidate) :=
  ranked.flatMap fun group => (group.2.filter (requiredBytes ≤ ·.availableBytes)).map fun c => (group.1, c)

/-- The groups reduced to the runtimes that fit the model on their own. -/
def replicaGroups (ranked : List RuntimeGroup) : List RuntimeGroup :=
  ranked.map fun group => (group.1, group.2.filter (requiredBytes ≤ ·.availableBytes))

/-- One runtime for the whole model. -/
def Selection.single (found : (ModelBackend × String) × RuntimeCandidate) : Selection :=
  ⟨found.1, [found.2], .wholeModel, 1000⟩

/-- A whole group as a pipeline. -/
def Selection.pipeline (group : RuntimeGroup) : Selection := ⟨group.1, group.2, .pipeline, 1000⟩

/-- The runtimes of a group can form a pipeline. -/
def formsPipeline (group : RuntimeGroup) : Bool := 1 < group.2.length && group.2.all (·.supports .pipeline)

/-- The choice of `plan_model_session` among the ranked groups, of which `top` is the first. -/
def select (strategy : ComputeStrategy) (top : RuntimeGroup) (rest : List RuntimeGroup) : Option Selection :=
  match strategy with
  | .maximumModelSize =>
    -- the largest group, also where it is a single machine
    some ⟨top.1, top.2, if formsPipeline top then .pipeline else .wholeModel, 1000⟩
  | .speedBoost =>
    let search := speedSearch requiredBytes (top :: rest)
    -- a tensor group is taken even where one machine would do
    match search.bestDistributed, search.bestSingle with
    | some (group, speedup), _ => some ⟨group.1, group.2, .tensor, speedup⟩
    | none, some found => some (.single found)
    | none, none => some (.pipeline top)
  | .maximumThroughput =>
    -- the runtimes too small for the model are taken out before the groups are compared
    let best := match Select.maxByKey (·.2.length) (replicaGroups requiredBytes (top :: rest)) with
      | some best => if best.2.isEmpty then top else best
      | none => top
    some ⟨best.1, best.2, .replica, Nat.max best.2.length 1 * 1000⟩
  | .efficiency =>
    match Select.minByKey (·.2.availableBytes) (singles requiredBytes (top :: rest)) with
    | some found => some (.single found)
    -- nothing fits: the plan is blocked, on the largest runtime
    | none => top.2.head?.map fun c => .single (top.1, c)
  | .autonomousBalanced =>
    match (singles requiredBytes (top :: rest)).head? with
    | some found => some (.single found)
    | none => some (.pipeline top)

end

/-! ## Placements -/

/-- The placement on one candidate; the rank is cut to 16 bits (`as u16`). -/
def RuntimeCandidate.place (c : RuntimeCandidate) (index assignedBytes : Nat) (role : String) : ModelNodePlacement where
  nodeId := c.offer.nodeId
  rank := index % 2 ^ 16
  assignedBytes := assignedBytes
  availableModelBytes := c.availableBytes
  role := role
  topologyConfidence := topologyConfidence c.offer

/-- The role of a rank of a split model. -/
def splitRole (role : String) (index : Nat) : String := if index = 0 then "coordinator_rank" else role

/-- The share of a runtime in a pipeline of a total capacity, cut to 64 bits. -/
def proportionalShare (requiredBytes total : Nat) (c : RuntimeCandidate) : Nat :=
  requiredBytes * c.availableBytes / Nat.max total 1 % 2 ^ 64

/-- The loop of `allocate_pipeline`: the last runtime takes what remains, as far as it has room. -/
def allocateRanks (requiredBytes total : Nat) : List RuntimeCandidate → Nat → Nat → List ModelNodePlacement
  | [], _, _ => []
  | [c], index, remaining => [c.place index (Nat.min remaining c.availableBytes) (splitRole "model_rank" index)]
  | c :: c' :: rest, index, remaining =>
    let assigned := Nat.min (Nat.min (proportionalShare requiredBytes total c) c.availableBytes) remaining
    c.place index assigned (splitRole "model_rank" index) ::
      allocateRanks requiredBytes total (c' :: rest) (index + 1) (remaining - assigned)

/-- `allocate_pipeline`. -/
def allocatePipeline (candidates : List RuntimeCandidate) (requiredBytes : Nat) : List ModelNodePlacement :=
  allocateRanks requiredBytes (U64.wrappingSum (capacities candidates)) candidates 0 requiredBytes

namespace Selection

variable (s : Selection) (requiredBytes : Nat)

/-- Replicas do not add up: the largest one counts. -/
def maximumSupportedBytes : Nat := match s.parallelism with
  | .replica => (capacities s.selected).foldr Nat.max 0
  | _ => U64.wrappingSum (capacities s.selected)

/-- Whether the request fits: on one machine, in equal shards, or as a sum. -/
def capacityFits : Bool := match s.parallelism with
  | .replica | .wholeModel => s.selected.any (requiredBytes ≤ ·.availableBytes)
  | .tensor => s.selected.all (shardBytes requiredBytes (Nat.max s.selected.length 1) ≤ ·.availableBytes)
  | _ => requiredBytes ≤ s.maximumSupportedBytes

/-- More than one machine for one request; replicas serve requests of their own. -/
def distributed : Bool := 1 < s.selected.length && s.parallelism != .replica

/-- The evidence a launch needs: of every runtime and link when distributed, else of the local
runtime. -/
def qualified : Bool :=
  if s.distributed then s.selected.all fun c => c.runtime.isQualifiedForDistributed && c.topologyReady
  else s.selected.all (·.isLocalReady)

/-- The runtimes that get a placement: the first one of a whole model, and all others as selected. -/
def placed : List RuntimeCandidate := if s.parallelism = .wholeModel then s.selected.take 1 else s.selected

/-- The machines of the plan, in the order of their rank. -/
def placements : List ModelNodePlacement :=
  match s.parallelism with
  | .replica =>
    (s.placed.zipIdx.filter (requiredBytes ≤ ·.1.availableBytes)).map fun p => p.1.place p.2 requiredBytes "replica"
  | .tensor =>
    s.placed.zipIdx.map fun p =>
      p.1.place p.2 (shardBytes requiredBytes (Nat.max s.placed.length 1)) (splitRole "tensor_rank" p.2)
  | _ => allocatePipeline s.placed requiredBytes

/-- Capacity is asked before evidence. -/
def state : ModelPlanState :=
  if s.capacityFits requiredBytes = false then .capacityBlocked
  else if s.qualified then .ready
  else .qualificationRequired

/-- Thousandths as the source prints them, with two decimals; the last digit is zero. -/
def speedupText : String :=
  toString (s.predictedSpeedupMilli / 1000) ++ "." ++ toString (s.predictedSpeedupMilli / 100 % 10) ++
    toString (s.predictedSpeedupMilli / 10 % 10)

/-- The text that explains the state to the strategy. -/
def reason (strategy : ComputeStrategy) : String :=
  match strategy, s.state requiredBytes with
  | _, .capacityBlocked => "No compatible placement can fit the requested model and KV cache."
  | .maximumModelSize, .ready => "Largest compatible qualified memory group selected for model fit."
  | .speedBoost, .ready =>
    if s.distributed then
      "Low-latency tensor group passed the conservative " ++ s.speedupText ++ "x speedup gate."
    else "Fastest safe whole-model node selected; slower links were excluded."
  | .maximumThroughput, .ready =>
    "Independent whole-model replicas selected for concurrent request throughput."
  | .efficiency, .ready => "Smallest qualified whole-model placement that fits was selected."
  | .autonomousBalanced, .ready => "A qualified whole-model placement was preferred before distributed complexity."
  | _, .qualificationRequired => "The capacity fits in theory, but backend or topology evidence is incomplete."

/-- What keeps the plan from being ready. -/
def blockers : List String :=
  (if s.capacityFits requiredBytes = false then
    ["The best compatible runtime group exposes " ++ toString s.maximumSupportedBytes ++ " bytes, below the requested " ++
      toString requiredBytes ++ " bytes."]
  else []) ++
  if s.distributed = true ∧ s.qualified = false then
    ["Distributed launch is fenced until every selected runtime and measured topology has a valid qualification digest."]
  else []

/-- What a ready plan still does not promise. -/
def warnings (strategy : ComputeStrategy) : List String :=
  (if strategy = .speedBoost ∧ s.predictedSpeedupMilli = 1000 then
    ["No distributed topology cleared the speedup gate; the plan avoids claiming that more nodes are faster."]
  else []) ++
  if s.parallelism = .replica then
    ["Replica placement increases concurrent throughput; it does not make one model request faster or larger."]
  else []

end Selection

/-! ## The plan -/

section

variable (request : ModelSessionRequestV1) (offers : List ResourceOfferV1) (now : Int)

/-- `ModelSessionPlan::SCHEMA`. -/
def ModelSessionPlan.schemaName : String := "rampage.model-session-plan.v1"

/-- The memory of every live offer, whatever its runtime; the sum is a `u64`. -/
def observedFabricBytes : Nat := U64.wrappingSum ((liveOffers offers now).map observedModelMemory)

/-- The plan of a fabric without runtimes. -/
def emptyPlan : ModelSessionPlan where
  schema := ModelSessionPlan.schemaName
  sessionId := request.sessionId
  strategy := request.strategy
  state := .capacityBlocked
  backend := none
  parallelism := none
  distributed := false
  requiredBytes := request.requiredBytes
  observedFabricBytes := observedFabricBytes offers now
  maximumSupportedBytes := 0
  predictedSpeedupMilli := 1000
  placements := []
  blockers := ["No signed model runtime profiles are advertised; install or qualify a governed backend bundle."]
  warnings :=
    if 0 < observedFabricBytes offers now then
      ["Raw RAM/VRAM is visible, but memory is not combinable without one compatible distributed runtime."]
    else []
  proposedLocalEndpoint := none
  executionAuthority := "none_preview_only"
  reason := "The fabric has resources but no compatible model runtime group."

/-- The plan of a selection. -/
def Selection.plan (s : Selection) : ModelSessionPlan where
  schema := ModelSessionPlan.schemaName
  sessionId := request.sessionId
  strategy := request.strategy
  state := s.state request.requiredBytes
  backend := some s.key.1
  parallelism := some s.parallelism
  distributed := s.distributed
  requiredBytes := request.requiredBytes
  observedFabricBytes := observedFabricBytes offers now
  maximumSupportedBytes := s.maximumSupportedBytes
  predictedSpeedupMilli := s.predictedSpeedupMilli
  placements := s.placements request.requiredBytes
  blockers := s.blockers request.requiredBytes
  warnings := s.warnings request.strategy
  proposedLocalEndpoint := none
  executionAuthority := "none_preview_only"
  reason := s.reason request.requiredBytes request.strategy

/-- The groups of a request, ranked. -/
def ranking : List RuntimeGroup := rankedGroups request.maxNodes (runtimeGroups offers now)

/-- What a request selects, if there is a runtime at all. -/
def selection : Option Selection :=
  match ranking request offers now with
  | [] => none
  | top :: rest => select request.requiredBytes request.strategy top rest

/-- `plan_model_session`. -/
def planModelSession : Option ModelSessionPlan :=
  if ranking request offers now = [] then some (emptyPlan request offers now)
  else (selection request offers now).map (Selection.plan request offers now)

/-- The runtimes that the placements of the plan are on. -/
def placedRuntimes : List RuntimeCandidate := ((selection request offers now).map (·.placed)).getD []

end

end Rampage.Planner
