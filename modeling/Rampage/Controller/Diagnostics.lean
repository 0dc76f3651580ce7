/-
The fabric's self-scan: `build_diagnostic_report` with its findings, metrics, health score and evidence digest, and
`refresh_diagnostics`, which records a report whose digest is new. The collections the scan iterates are hash maps, so a
report is built at an iteration order. The hash of the serialized report and the two printed decimals are parameters.
-/
import Rampage.Controller.Repair
import Rampage.Lib.Saturating
import Rampage.Protocol.Uuid
import Rampage.Lib.Ranking
import Mathlib.Data.Prod.Lex
import Mathlib.Data.String.Basic

namespace Rampage.Controller

open Rampage.Protocol Rampage.Planner Rampage.Governor Handler

/-! ## Findings -/

/-- How bad a finding is. -/
inductive DiagnosticSeverity
  | info | warning | critical
deriving DecidableEq

/-- The derived order of the severities. -/
def DiagnosticSeverity.rank : DiagnosticSeverity → Nat
  | .info => 0
  | .warning => 1
  | .critical => 2

/-- What could be done about a finding, and what it takes. -/
structure DiagnosticProposal where
  action : String
  risk : String
  autoEligible : Bool
  threshold : String
  requiredGates : List String
  rollback : String
deriving DecidableEq

/-- A finding, with its evidence in words. -/
structure DiagnosticFinding where
  severity : DiagnosticSeverity
  code : String
  scope : String
  evidence : String
  proposal : DiagnosticProposal
deriving DecidableEq

/-- `diagnostic_finding`. -/
def diagnosticFinding (severity : DiagnosticSeverity) (code scope evidence action risk : String) (autoEligible : Bool)
    (threshold : String) : DiagnosticFinding where
  severity := severity
  code := code
  scope := scope
  evidence := evidence
  proposal :=
    { action := action
      risk := risk
      autoEligible := autoEligible
      threshold := threshold
      requiredGates := ["deterministic_replay", "adversarial_security", "shadow", "canary_rollback"]
      rollback := "automatic_on_threshold_breach" }

/-- A finding that is pushed if a condition holds. -/
def pushIf (c : Bool) (f : DiagnosticFinding) : List DiagnosticFinding := if c then [f] else []

/-! ## What a scan reads -/

/-- A row of the ledger: when it was recorded, its class and subject, and what the scan reads of its payload: the text
under `state`, and the nodes of a benchmark result that parses and is internally consistent. -/
structure RecordedEvent where
  recordedAt : Int
  eventType : String
  subjectId : String
  state : Option String := none
  dividendNodes : Option (List Uuid) := none
deriving DecidableEq

/-- The offers by node: `register_offer` stores an offer under its own node. -/
structure OfferTable where
  table : Table Uuid ResourceOfferV1
  keyed : ∀ nodeId offer, table.lookup nodeId = some offer → offer.nodeId = nodeId

/-- The arguments of `build_diagnostic_report`, the clock apart. -/
structure DiagnosticInput where
  nodes : Table Uuid NodeIdentityV1
  offers : OfferTable
  activeAssignments : Nat
  replicas : Table (String × Uuid) ArtifactRefV1
  evidence : Table (String × Uuid) ArtifactReplicaReceiptV1
  events : List RecordedEvent
  dividends : List RecordedEvent
  killLatch : Bool

/-! ## Metrics -/

/-- `resource_class_name`. -/
def resourceClassName : ResourceClass → String
  | .cpuCompute => "cpu_compute"
  | .gpuCompute => "gpu_compute"
  | .npuCompute => "npu_compute"
  | .gpuMemory => "gpu_memory"
  | .ramWorkingSet => "ram_working_set"
  | .ramCache => "ram_cache"
  | .storageCache => "storage_cache"
  | .storageScratch => "storage_scratch"
  | .protectedStore => "protected_store"
  | .networkFetch => "network_fetch"
  | .networkRelay => "network_relay"
  | .toolchain => "toolchain"
  | .runtime => "runtime"
  | .codec => "codec"
  | .licensedService => "licensed_service"

/-- The resource classes in the order of their names. -/
def resourceClasses : List ResourceClass :=
  [.codec, .cpuCompute, .gpuCompute, .gpuMemory, .licensedService, .networkFetch, .networkRelay, .npuCompute,
    .protectedStore, .ramCache, .ramWorkingSet, .runtime, .storageCache, .storageScratch, .toolchain]

/-- The counts a report is led by. -/
structure DiagnosticMetrics where
  enrolledNodes : Nat
  liveOffers : Nat
  expiredOffers : Nat
  activeAssignments : Nat
  protectedArtifacts : Nat
  underReplicatedProtectedArtifacts : Nat
  recentDenials : Nat
  recentFailedReceipts : Nat
  dividendHistoryEntries : Nat
  latestDividendAgeSeconds : Option Nat
  availableResources : List (String × Nat)
deriving DecidableEq

/-- The offers that have not expired, in the order of the map. -/
def DiagnosticInput.liveOffers (i : DiagnosticInput) (order : IterOrder) (now : Int) : List ResourceOfferV1 :=
  (order.apply i.offers.table.values).filter fun offer => decide (now < offer.expiresAt)

/-- `live_node_ids`. -/
def DiagnosticInput.liveNodeIds (i : DiagnosticInput) (order : IterOrder) (now : Int) : Finset Uuid :=
  ((i.liveOffers order now).map (·.nodeId)).toFinset

/-- `available_resources`: the saturating sum of each class that some live offer has. -/
def availableResources (offers : List ResourceOfferV1) : List (String × Nat) :=
  resourceClasses.filterMap fun cls =>
    match (offers.flatMap (·.resources)).filter (·.cls == cls) with
    | [] => none
    | resources => some (resourceClassName cls, (resources.map (·.available)).foldl U64.satAdd 0)

/-- The digests of the protected artifacts that some node is recorded to hold. -/
def DiagnosticInput.protectedDigests (i : DiagnosticInput) (order : IterOrder) : List String :=
  (((order.apply i.replicas.entries).filter fun e => e.2.storageClass == .protected).map (·.1.1)).dedup

/-- The replicas of a protected artifact with fresh evidence. -/
def DiagnosticInput.evidencedReplicas (i : DiagnosticInput) (order : IterOrder) (now : Int) (digest : String) : Nat :=
  (order.apply i.replicas.entries).countP fun e =>
    e.2.storageClass == .protected && e.1.1 == digest && isFresh i.evidence now e.1

/-- `under_replicated_protected_artifacts`. -/
def DiagnosticInput.underReplicated (i : DiagnosticInput) (order : IterOrder) (now : Int) : Nat :=
  (i.protectedDigests order).countP fun digest => decide (i.evidencedReplicas order now digest < 2)

/-- Recorded in the last fifteen minutes. -/
def isRecent (now : Int) (event : RecordedEvent) : Bool := decide (now - minutes 15 ≤ event.recordedAt)

/-- The event types that say something was denied. -/
def isDenial (event : RecordedEvent) : Bool := ["job.blocked", "mesh.request.denied"].contains event.eventType

/-- A receipt of a job that did not succeed. -/
def isFailedReceipt (event : RecordedEvent) : Bool :=
  event.eventType == "job.receipted" &&
    event.state.any fun state => ["failed", "ambiguous", "cancelled", "fenced"].contains state

/-- The denials of the last quarter of an hour. -/
def recentDenials (now : Int) (events : List RecordedEvent) : Nat :=
  events.countP fun event => isRecent now event && isDenial event

/-- The failed receipts of the last quarter of an hour. -/
def recentFailedReceipts (now : Int) (events : List RecordedEvent) : Nat :=
  events.countP fun event => isRecent now event && isFailedReceipt event

/-- `signed_duration_since(..).num_seconds().max(0)`: whole seconds, toward zero. -/
def ageSeconds (now : Int) (event : RecordedEvent) : Nat := ((now - event.recordedAt).tdiv 1000000000).toNat

/-- `latest_dividend_age_seconds`. -/
def latestDividendAge (now : Int) (dividends : List RecordedEvent) : Option Nat := dividends.getLast?.map (ageSeconds now)

/-! ## The report -/

/-- The state of the fabric in one word. -/
inductive FabricStatus
  | stopped | degraded | attention | healthy
deriving DecidableEq

/-- What a report says about changes without approval. -/
structure DiagnosticAutonomy where
  mode : String
  perChangeApprovalRequired : Bool
  eligibleWithinEnvelope : List String
  authorityExpansion : String
  promotionRequirements : List String
deriving DecidableEq

/-- The same in every report. -/
def diagnosticAutonomy : DiagnosticAutonomy where
  mode := "deterministic_thresholded_governor"
  perChangeApprovalRequired := false
  eligibleWithinEnvelope := ["r0_configuration", "r1_allowlisted_source"]
  authorityExpansion := "automatically_denied_outside_owner_envelope"
  promotionRequirements := ["schema_policy_static", "deterministic_replay", "quality_reliability_cost", "sealed_holdout",
    "adversarial_security", "independent_replication", "shadow", "canary_rollback"]

/-- `digest_value`: what the evidence digest covers. -/
structure DiagnosticBody where
  status : FabricStatus
  healthScore : Nat
  metrics : DiagnosticMetrics
  autonomy : DiagnosticAutonomy
  findings : List DiagnosticFinding
deriving DecidableEq

/-- A report: the body, and the digest of the body. -/
structure FabricDiagnosticReport where
  generatedAt : Int
  evidenceDigest : String
  body : DiagnosticBody
deriving DecidableEq

/-- The crates the scan prints and hashes with. -/
structure DiagnosticCrates where
  /-- The SHA-256 text of the serialized body. -/
  evidenceDigest : DiagnosticBody → String
  /-- Microseconds as milliseconds with one decimal. -/
  millis : Nat → String
  /-- Bits per second as megabits with one decimal. -/
  megabits : Nat → String

variable (x : DiagnosticCrates)

/-- The finding about the route of a live offer. -/
def routeFindings (offer : ResourceOfferV1) : List DiagnosticFinding :=
  match offer.meshEndpoint with
  | none =>
    [diagnosticFinding .info "LOOPBACK_POLLING_ONLY" (Uuid.hyphenated offer.nodeId)
      "The contributor uses the token-protected loopback polling lane and cannot receive mesh-only model or artifact traffic."
      "refresh_signed_mesh_endpoint" "r0_configuration" false
      "local polling jobs remain eligible; mesh-only operations still require a signed endpoint"]
  | some endpoint =>
    pushIf (endpoint.directAddresses.isEmpty && endpoint.relayUrls.isEmpty)
      (diagnosticFinding .critical "AUTHENTICATED_ROUTE_EMPTY" (Uuid.hyphenated offer.nodeId)
        "The signed mesh endpoint exposes neither a direct address nor an owner-controlled relay."
        "reprobe_nat_and_owner_relay" "r1_allowlisted_source" true
        "canary route must authenticate the enrolled endpoint before use")

/-- The findings about the link of a live offer. -/
def linkFindings (offer : ResourceOfferV1) : List DiagnosticFinding :=
  match offer.linkBenchmark with
  | none =>
    [diagnosticFinding .info "LINK_QUALIFICATION_MISSING" (Uuid.hyphenated offer.nodeId)
      "No fresh bounded link benchmark is attached; latency-sensitive placement stays conservative."
      "run_bounded_link_probe" "r0_configuration" true
      "probe is capped at the protocol transfer limit and grants no job authority"]
  | some link =>
    pushIf (75000 < link.rttMicrosP50)
      (diagnosticFinding .warning "HIGH_LINK_LATENCY" (Uuid.hyphenated offer.nodeId)
        ("Measured median RTT is " ++ x.millis link.rttMicrosP50 ++ " ms; interactive speed-lane placement is suppressed.")
        "prefer_throughput_or_whole_workload_lane" "r0_configuration" true
        "placement change must improve measured completion time in shadow and canary") ++
    pushIf (min link.uplinkBps link.downlinkBps < 25000000)
      (diagnosticFinding .warning "LOW_LINK_BANDWIDTH" (Uuid.hyphenated offer.nodeId)
        ("The slower measured direction is " ++ x.megabits (min link.uplinkBps link.downlinkBps) ++
          " Mbps; transfer-heavy shards are suppressed.")
        "prefer_data_local_or_low_transfer_work" "r0_configuration" true
        "placement change must reduce measured bytes per successful result")

/-- The findings of one live offer. -/
def offerFindings (offer : ResourceOfferV1) : List DiagnosticFinding :=
  let scope := Uuid.hyphenated offer.nodeId
  let thermal := offer.availability.thermalHeadroomPercent
  let battery := offer.availability.batteryPercent
  pushIf offer.workloadCapabilities.isEmpty
      (diagnosticFinding .warning "MISSING_WORKLOAD_CAPABILITY_CONTRACT" scope
        "The live offer predates operation-exact workload capability discovery." "request_offer_refresh"
        "r0_configuration" true "jobs remain fail-closed to the legacy adapter/resource contract") ++
    pushIf (thermal < 35)
      (diagnosticFinding .warning "THERMAL_HEADROOM_CONSTRAINED" scope
        ("Thermal headroom is " ++ Nat.repr thermal ++ "%, below the autonomous scheduling threshold of 35%.")
        "reduce_or_preempt_contributor_load" "r0_configuration" true
        "preempt restart-tolerant work; never increase the owner thermal envelope") ++
    pushIf (!offer.availability.onAcPower && battery.any (· < 40))
      (diagnosticFinding .warning "BATTERY_RESERVE_CONSTRAINED" scope
        ("Battery is " ++ Nat.repr (battery.getD 0) ++ "%, below the autonomous donation floor of 40%.")
        "preempt_mobile_contribution" "r0_configuration" true
        "resume only after a fresh signed offer proves the battery floor") ++
    routeFindings offer ++
    linkFindings x offer ++
    pushIf (decide ("rampage.ollama.v1" ∈ offer.adapters) && offer.modelRuntimes.all (·.installedModels.isEmpty))
      (diagnosticFinding .warning "LOCAL_MODEL_INVENTORY_EMPTY" scope
        "Ollama is advertised but no exact locally installed model is executable." "refresh_local_model_inventory"
        "r0_configuration" true "cloud aliases and digestless models remain excluded") ++
    pushIf (offer.availability.ownerIdle && offer.resources.any (0 < ·.available))
      (diagnosticFinding .info "IDLE_CAPACITY_AVAILABLE" scope
        "The contributor reports idle capacity that can accept bounded preemptible work." "prefer_idle_capacity"
        "r0_configuration" true "owner activity, battery, thermal, lease, and deadline gates remain authoritative")

/-- The finding of an enrolled node without a live offer. -/
def nodeFinding (nodeId : Uuid) : DiagnosticFinding :=
  diagnosticFinding .warning "NODE_WITHOUT_LIVE_OFFER" (Uuid.hyphenated nodeId)
    "The enrolled contributor has no unexpired signed resource offer." "request_offer_refresh" "r0_configuration" true
    "refresh only; no work is issued until a verified offer arrives"

/-- The findings about the newest dividend. -/
def dividendFindings (now : Int) (liveOffers : Nat) (liveNodeIds : Finset Uuid) (dividends : List RecordedEvent) :
    List DiagnosticFinding :=
  match dividends.getLast? with
  | none =>
    pushIf (2 ≤ liveOffers)
      (diagnosticFinding .info "COMPUTE_DIVIDEND_MISSING" "fabric"
        "Multiple live machines are available, but no signed sustained fabric proof has been committed yet."
        "run_sustained_fabric_benchmark" "r0_configuration" true
        "benchmark grants remain bounded, node-pinned, concurrent, and restart tolerant")
  | some latest =>
    match latest.dividendNodes with
    | none =>
      [diagnosticFinding .critical "COMPUTE_DIVIDEND_CONTRACT_INVALID" latest.subjectId
        "A persisted Compute Dividend failed its recomputed aggregate contract and cannot inform placement."
        "quarantine_invalid_dividend_projection" "r1_allowlisted_source" false
        "canonical receipt evidence is immutable; only the invalid projection may be excluded"]
    | some nodes =>
      if 24 * 60 * 60 < ageSeconds now latest then
        [diagnosticFinding .warning "COMPUTE_DIVIDEND_STALE" "fabric"
          "The newest signed fabric proof is older than 24 hours, so break-even placement is fenced until remeasurement."
          "run_sustained_fabric_benchmark" "r0_configuration" true
          "new measurements never broaden workload authority"]
      else
        pushIf (decide (nodes.toFinset ≠ liveNodeIds))
          (diagnosticFinding .info "COMPUTE_DIVIDEND_TOPOLOGY_CHANGED" "fabric"
            "The live machine set differs from the newest signed fabric proof; automatic distribution waits for a matching measurement."
            "run_sustained_fabric_benchmark" "r0_configuration" true
            "changed topology remains ineligible until every participant produces a signed receipt")

/-- The findings about the fabric as a whole that come before those of its nodes. -/
def fabricFindings (i : DiagnosticInput) : List DiagnosticFinding :=
  pushIf i.killLatch
      (diagnosticFinding .critical "OWNER_STOP_ACTIVE" "fabric"
        "The durable owner stop latch is active; no new work can be admitted." "retain_stop_and_surface_state"
        "r0_configuration" false "owner stop is never overridden by autonomy") ++
    pushIf i.nodes.keys.isEmpty
      (diagnosticFinding .warning "NO_ENROLLED_CONTRIBUTORS" "fabric"
        "No contributor identity is enrolled, so the fabric has no remote capacity." "prepare_one_time_enrollment"
        "r0_configuration" true "invite remains short-lived and enrollment remains cryptographically bound")

/-- The findings about recent events and protected artifacts. -/
def evidenceFindings (denials failures underReplicated : Nat) : List DiagnosticFinding :=
  pushIf (3 ≤ denials)
      (diagnosticFinding .warning "REPEATED_AUTHORITY_DENIALS" "fabric"
        (Nat.repr denials ++ " requests were denied in the bounded 15-minute evidence window.")
        "cluster_denial_causes_and_adjust_safe_placement" "r1_allowlisted_source" true
        "never broaden adapter, resource, network, or identity authority") ++
    pushIf (2 ≤ failures)
      (diagnosticFinding .critical "REPEATED_EXECUTION_FAILURES" "fabric"
        (Nat.repr failures ++ " terminal execution failures occurred in the bounded 15-minute evidence window.")
        "quarantine_failing_route_or_adapter" "r1_allowlisted_source" true
        "canary recovery must produce verified receipts before normal traffic resumes") ++
    pushIf (0 < underReplicated)
      (diagnosticFinding .warning "PROTECTED_ARTIFACT_UNDER_REPLICATED" "protected_store"
        (Nat.repr underReplicated ++ " protected artifact(s) have fewer than two evidenced contributor replicas.")
        "schedule_encrypted_replica_repair" "r1_allowlisted_source" true
        "repair requires a signed storage lease, digest verification, and an independent destination")

/-- The findings in the order they are pushed. -/
def DiagnosticInput.findings (i : DiagnosticInput) (order : IterOrder) (now : Int) : List DiagnosticFinding :=
  fabricFindings i ++
    ((order.apply i.nodes.keys).filter fun nodeId => decide (nodeId ∉ i.liveNodeIds order now)).map nodeFinding ++
    (i.liveOffers order now).flatMap (offerFindings x) ++
    dividendFindings now (i.liveOffers order now).length (i.liveNodeIds order now) i.dividends ++
    evidenceFindings (recentDenials now i.events) (recentFailedReceipts now i.events) (i.underReplicated order now)

/-- What the findings are sorted by: the severity downward, then the code and the scope. -/
def DiagnosticFinding.sortKey (f : DiagnosticFinding) : Nat ×ₗ String ×ₗ String :=
  toLex (2 - f.severity.rank, toLex (f.code, f.scope))

/-- The worst first, and each in the order of its code and scope. -/
def sortFindings (l : List DiagnosticFinding) : List DiagnosticFinding := Ranking.byKey DiagnosticFinding.sortKey l

/-- The findings of a severity, counted as a `u8`. -/
def countAsByte (severity : DiagnosticSeverity) (l : List DiagnosticFinding) : Nat :=
  l.countP (·.severity == severity) % 256

/-- `u8::saturating_mul`. -/
def byteSatMul (a b : Nat) : Nat := min (a * b) 255

/-- `health_score`, from the two counts. -/
def healthScore (killLatch : Bool) (critical warnings : Nat) : Nat :=
  if killLatch then 0 else 100 - byteSatMul critical 25 - byteSatMul warnings 8

/-- `status`. -/
def fabricStatus (killLatch : Bool) (score : Nat) : FabricStatus :=
  if killLatch then .stopped else if score < 70 then .degraded else if score < 90 then .attention else .healthy

/-- The counts, over what the controller knows at `now`. -/
def DiagnosticInput.metrics (i : DiagnosticInput) (order : IterOrder) (now : Int) : DiagnosticMetrics where
  enrolledNodes := i.nodes.keys.length
  liveOffers := (i.liveOffers order now).length
  expiredOffers := i.offers.table.values.length - (i.liveOffers order now).length
  activeAssignments := i.activeAssignments
  protectedArtifacts := (i.protectedDigests order).length
  underReplicatedProtectedArtifacts := i.underReplicated order now
  recentDenials := recentDenials now i.events
  recentFailedReceipts := recentFailedReceipts now i.events
  dividendHistoryEntries := i.dividends.length
  latestDividendAgeSeconds := latestDividendAge now i.dividends
  availableResources := availableResources (i.liveOffers order now)

/-- The body of `build_diagnostic_report`. -/
def diagnosticBody (order : IterOrder) (now : Int) (i : DiagnosticInput) : DiagnosticBody :=
  let found := sortFindings (i.findings x order now)
  let score := healthScore i.killLatch (countAsByte .critical found) (countAsByte .warning found)
  { status := fabricStatus i.killLatch score
    healthScore := score
    metrics := i.metrics order now
    autonomy := diagnosticAutonomy
    findings := found }

/-- `build_diagnostic_report`. -/
def buildDiagnosticReport (order : IterOrder) (now : Int) (i : DiagnosticInput) : FabricDiagnosticReport where
  generatedAt := now
  evidenceDigest := x.evidenceDigest (diagnosticBody x order now i)
  body := diagnosticBody x order now i

/-! ## The recorded scan -/

/-- The nodes the scheduler keeps away from, each with its reasons. -/
structure AutonomousConstraints where
  evidenceDigest : String
  excludedNodes : List (Uuid × List String)
deriving DecidableEq

/-- `Governor::authorize_diagnostic_action`. -/
def authorizesDiagnosticAction (config : GovernorConfig) (action : String) : Bool :=
  !config.killed && ["suppress_thermally_constrained_node", "suppress_low_battery_node", "suppress_unroutable_node"].contains
    action

/-- The node a finding excludes. -/
def excludedNode (config : GovernorConfig) (f : DiagnosticFinding) : Option Uuid :=
  let action :=
    if f.code = "THERMAL_HEADROOM_CONSTRAINED" then some "suppress_thermally_constrained_node"
    else if f.code = "BATTERY_RESERVE_CONSTRAINED" then some "suppress_low_battery_node"
    else if f.code = "AUTHENTICATED_ROUTE_MISSING" ∨ f.code = "AUTHENTICATED_ROUTE_EMPTY" then some "suppress_unroutable_node"
    else none
  if action.any (authorizesDiagnosticAction config) then Uuid.parseStr f.scope else none

/-- `derive_autonomous_constraints`: the excluded nodes with the codes that exclude them. -/
def deriveAutonomousConstraints (config : GovernorConfig) (report : FabricDiagnosticReport) : AutonomousConstraints where
  evidenceDigest := report.evidenceDigest
  excludedNodes :=
    ((report.body.findings.filterMap (excludedNode config)).dedup.insertionSort fun a b => a ≤ b).map fun nodeId =>
      (nodeId, ((report.body.findings.filter fun f => excludedNode config f == some nodeId).map (·.code)).dedup.insertionSort
        fun a b => a ≤ b)

/-- The controller as the self-scan sees it. -/
structure ScanState where
  nodes : Table Uuid NodeIdentityV1
  offers : OfferTable
  assignments : Table Uuid Assignment
  artifactReplicas : Table (String × Uuid) ArtifactRefV1
  replicaEvidence : Table (String × Uuid) ArtifactReplicaReceiptV1
  ledger : List RecordedEvent
  killLatch : Bool
  autonomousConstraints : AutonomousConstraints
  diagnosticDigest : Option String
  /-- Appends so far. -/
  appends : Nat

/-- The surroundings of a scan: when the n-th append is stamped, and whether it fails. -/
structure ScanWorld extends DiagnosticCrates where
  stamp : Nat → Int
  appendFailure : Nat → Option String
  governor : GovernorConfig

namespace Scan

/-- The last elements of a list. -/
def latest {α : Type} (limit : Nat) (l : List α) : List α := l.drop (l.length - limit)

/-- `active_assignments`: those whose lease has not run out. -/
def activeAssignments (now : Int) (s : ScanState) : Nat :=
  s.assignments.values.countP fun a => decide (now < a.lease.expiresAt)

/-- What `refresh_diagnostics` reads. -/
def input (now : Int) (s : ScanState) : DiagnosticInput where
  nodes := s.nodes
  offers := s.offers
  activeAssignments := activeAssignments now s
  replicas := s.artifactReplicas
  evidence := s.replicaEvidence
  events := latest 512 s.ledger
  dividends := latest 250 (s.ledger.filter (·.eventType == "fabric.dividend.recorded"))
  killLatch := s.killLatch

/-- The append of an event without a receipt or a dividend. -/
def append (y : ScanWorld) (eventType subjectId failure : String) : Handler ScanState String Unit := fun s =>
  match y.appendFailure s.appends with
  | none =>
    (.ok (), { s with ledger := s.ledger ++ [⟨y.stamp s.appends, eventType, subjectId, none, none⟩], appends := s.appends + 1 })
  | some text => (.error (failure ++ text), { s with appends := s.appends + 1 })

/-- Record the constraints unless they are in force. -/
def applyConstraints (y : ScanWorld) (constraints : AutonomousConstraints) : Handler ScanState String Unit := do
  let s ← get
  if s.autonomousConstraints ≠ constraints then do
    append y "diagnostic.autonomy.applied" constraints.evidenceDigest "autonomous constraint evidence write failed: "
    modify fun s => { s with autonomousConstraints := constraints }

/-- Record the report unless the last one had its digest. -/
def recordReport (y : ScanWorld) (report : FabricDiagnosticReport) : Handler ScanState String Unit := do
  let s ← get
  if s.diagnosticDigest ≠ some report.evidenceDigest then do
    append y "diagnostic.self_scan.completed" report.evidenceDigest "diagnostic evidence write failed: "
    modify fun s => { s with diagnosticDigest := some report.evidenceDigest }

/-- `refresh_diagnostics`, at its clock reading. -/
def refreshDiagnostics (y : ScanWorld) (order : IterOrder) (now : Int) : Handler ScanState String Unit := do
  let s ← get
  let report := buildDiagnosticReport y.toDiagnosticCrates order now (input now s)
  applyConstraints y (deriveAutonomousConstraints y.governor report)
  recordReport y report

end Scan

end Rampage.Controller
