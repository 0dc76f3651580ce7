/-
The Governor's job authority: `check_job_at`, the complete deterministic policy, and
`authorize_job_at_epoch`, which mints a signed capability lease after it. The signature scheme is
a parameter (`sign` over the unsigned lease).
-/
import Rampage.Protocol.Contracts
import Mathlib.Data.Finset.Dedup

namespace Rampage.Governor

open Rampage.Protocol

/-- What the owner lets the Governor grant. -/
structure GovernorConfig where
  leaseTtlSeconds : Int
  maxJobTtlSeconds : Int
  trustedAdapters : Finset String
  mobileAdapters : Finset String
  trustedAutopilotProjects : Finset Uuid
  autonomousProtectedProjects : Finset Uuid
  mobileMinBatteryPercent : Nat
  mobileMinThermalHeadroomPercent : Nat
  killed : Bool

/-- `GovernorConfig::default`. -/
def GovernorConfig.default : GovernorConfig where
  leaseTtlSeconds := 120
  maxJobTtlSeconds := 3600
  trustedAdapters := {"rampage.echo.v1", "rampage.hash.v1", "rampage.eval-shard.v1", "rampage.benchmark.v1",
    "rampage.ollama.v1", "rampage.artifact-hash.v1", "rampage.remote-assist.v1"}
  mobileAdapters := {"rampage.hash.v1", "rampage.eval-shard.v1", "rampage.artifact-hash.v1"}
  trustedAutopilotProjects := ∅
  autonomousProtectedProjects := ∅
  mobileMinBatteryPercent := 40
  mobileMinThermalHeadroomPercent := 35
  killed := false

/-- Why the Governor denies. -/
inductive Denial
  | killLatch
  | adapterDenied
  | offerAdapterMismatch
  | workloadCapabilityMismatch
  | offerResourceMismatch
  | adapterResourceDenied
  | offerExpired
  | invalidJob (reason : String)
  | nodeMismatch
  | mobileRequiresRestartTolerance
  | mobileAdapterDenied
  | mobileForegroundRequired
  | mobileBatteryDenied
  | mobileThermalDenied
  | deadlineTooFar
  | autonomousAuthorityDenied
  | autopilotNotEnabled
  | invalidPromotionEvidence
  | promotionRiskMismatch
  | invalidSignature
  | invalidIdentity
  | invalidArtifact
  | storageCapacityDenied
  | remoteDesktopDenied
  | invalidRemoteDesktopLimits
  | modelRuntimeDenied
  | invalidModelSession
deriving DecidableEq

/-- The message `Display` prints. -/
def Denial.text : Denial → String
  | .killLatch => "owner kill latch is active"
  | .adapterDenied => "adapter is not allowlisted"
  | .offerAdapterMismatch => "selected offer does not advertise the requested adapter"
  | .workloadCapabilityMismatch =>
    "selected offer does not advertise an executable capability for this operation"
  | .offerResourceMismatch => "selected offer does not satisfy the requested resource contract"
  | .adapterResourceDenied => "adapter is not permitted to request this resource class"
  | .offerExpired => "offer has expired"
  | .invalidJob reason => "job contract is invalid: " ++ reason
  | .nodeMismatch => "offer and selected node differ"
  | .mobileRequiresRestartTolerance => "mobile work must be restart tolerant"
  | .mobileAdapterDenied => "adapter is not eligible for mobile execution"
  | .mobileForegroundRequired => "mobile work requires an explicit foreground donation session"
  | .mobileBatteryDenied => "mobile battery policy denies this work"
  | .mobileThermalDenied => "mobile thermal headroom is below the owner safety threshold"
  | .deadlineTooFar => "job deadline exceeds the maximum authority window"
  | .autonomousAuthorityDenied => "risk class is outside the owner-defined autonomous authority envelope"
  | .autopilotNotEnabled => "autopilot is not enabled for this project"
  | .invalidPromotionEvidence => "promotion evidence is incomplete, stale, ambiguous, or malformed"
  | .promotionRiskMismatch =>
    "declared promotion risk does not match deterministic path classification"
  | .invalidSignature => "lease signature is invalid"
  | .invalidIdentity => "node identity is malformed or outside enrollment limits"
  | .invalidArtifact => "artifact digest or size is invalid"
  | .storageCapacityDenied => "node did not offer enough storage in the requested class"
  | .remoteDesktopDenied => "remote desktop request is outside the worker's explicit advertised capability"
  | .invalidRemoteDesktopLimits => "remote desktop limits are invalid"
  | .modelRuntimeDenied => "model session does not target an exact shipped local runtime and installed model"
  | .invalidModelSession => "model session limits are invalid"

/-- `adapter_allows_resource`. -/
def adapterAllowsResource (adapter : String) (cls : ResourceClass) : Bool :=
  if adapter = "rampage.echo.v1" ∨ adapter = "rampage.hash.v1" ∨ adapter = "rampage.eval-shard.v1" then
    cls ∈ [ResourceClass.cpuCompute, .ramWorkingSet, .ramCache]
  else if adapter = "rampage.benchmark.v1" then cls == .cpuCompute
  else if adapter = "rampage.ollama.v1" then
    cls ∈ [ResourceClass.cpuCompute, .gpuCompute, .gpuMemory, .ramWorkingSet, .ramCache, .storageCache]
  else if adapter = "rampage.artifact-hash.v1" then
    cls ∈ [ResourceClass.cpuCompute, .ramWorkingSet, .ramCache, .storageCache]
  else false

/-- Every required label of the request is on the resource with the required value. -/
def labelsMatch (request : ResourceRequestV1) (resource : ResourceQuantityV1) : Bool :=
  request.requiredLabels.all fun kv => label resource.labels kv.1 == some kv.2

/-- One offered resource meets a request on its own: class, unit, amount and labels. -/
def meets (request : ResourceRequestV1) (resource : ResourceQuantityV1) : Bool :=
  resource.cls == request.cls && resource.unit == request.unit && request.minimum ≤ resource.available &&
    labelsMatch request resource

/-- The device kind label of the first offered resource. -/
def deviceKindLabel (offer : ResourceOfferV1) : Option String :=
  offer.resources.head?.bind fun r => label r.labels "device_kind"

/-- The offer is a phone's, a tablet's or a console's. -/
def isMobile (offer : ResourceOfferV1) : Bool :=
  deviceKindLabel offer == some "phone" || deviceKindLabel offer == some "tablet" ||
    deviceKindLabel offer == some "console"

/-- `battery_percent < Some(minimum)`: an absent reading is below every threshold. -/
def batteryBelow (battery : Option Nat) (minimum : Nat) : Bool :=
  match battery with
  | none => true
  | some b => b < minimum

section

variable (config : GovernorConfig)

/-- The tests `check_job_at` makes on a phone, tablet or console. -/
def checkMobile (job : JobSpecV1) (offer : ResourceOfferV1) : Except Denial Unit :=
  if ¬ job.restartTolerant then .error .mobileRequiresRestartTolerance
  else if job.adapter ∉ config.mobileAdapters then .error .mobileAdapterDenied
  else if ¬ offer.availability.foregroundAllowed then .error .mobileForegroundRequired
  else if ¬ offer.availability.onAcPower ∧
      batteryBelow offer.availability.batteryPercent config.mobileMinBatteryPercent then
    .error .mobileBatteryDenied
  else if offer.availability.thermalHeadroomPercent < config.mobileMinThermalHeadroomPercent then
    .error .mobileThermalDenied
  else .ok ()

/-- `Governor::check_job_at`. -/
def checkJobAt (job : JobSpecV1) (offer : ResourceOfferV1) (selectedNode : Uuid) (now : Int) :
    Except Denial Unit :=
  if config.killed then .error .killLatch
  else match job.validateAt now with
  | .error e => .error (.invalidJob e.text)
  | .ok () =>
    if job.adapter ∉ config.trustedAdapters then .error .adapterDenied
    else if job.requests.any (fun r => !adapterAllowsResource job.adapter r.cls) then .error .adapterResourceDenied
    else if job.adapter ∉ offer.adapters then .error .offerAdapterMismatch
    else if offer.workloadCapabilities.isEmpty = false ∧
        offer.workloadCapabilities.any (·.authorizes job.adapter job.operation) = false then
      .error .workloadCapabilityMismatch
    else if job.requests.any (fun r => offer.resources.all fun q => !meets r q) then .error .offerResourceMismatch
    else if offer.expiresAt ≤ now then .error .offerExpired
    else if offer.nodeId ≠ selectedNode then .error .nodeMismatch
    else if now + seconds config.maxJobTtlSeconds < job.deadline then .error .deadlineTooFar
    else if isMobile offer then checkMobile config job offer
    else .ok ()

/-- The entry a lease grants for a request: its amount, with the labels of the first offered
resource of its class. -/
def grantedFor (offer : ResourceOfferV1) (request : ResourceRequestV1) : ResourceQuantityV1 where
  cls := request.cls
  capacity := request.minimum
  available := request.minimum
  unit := request.unit
  labels := ((offer.resources.find? (·.cls == request.cls)).map (·.labels)).getD []

/-- The lease `authorize_job_at_epoch` builds, before it is signed. -/
def unsignedLease (job : JobSpecV1) (offer : ResourceOfferV1) (selectedNode : Uuid) (fencingEpoch : Nat)
    (now : Int) (leaseId : Uuid) (nonce : String) : CapabilityLeaseV1 where
  schema := CapabilityLeaseV1.schemaName
  leaseId := leaseId
  jobId := job.jobId
  nodeId := selectedNode
  projectId := job.projectId
  adapter := job.adapter
  operation := job.operation
  inputDigests := (job.inputs.map (·.digest)).toFinset
  granted := job.requests.map (grantedFor offer)
  networkAllowlist := job.networkAllowlist
  issuedAt := now
  expiresAt := min job.deadline (now + seconds (max config.leaseTtlSeconds 1))
  nonce := nonce
  fencingEpoch := fencingEpoch
  signature := ""

/-- `Governor::authorize_job_at_epoch`, at the clock reading `now` and with the generated lease id
and nonce. -/
def authorizeJobAtEpoch (sign : CapabilityLeaseV1 → String) (job : JobSpecV1) (offer : ResourceOfferV1)
    (selectedNode : Uuid) (fencingEpoch : Nat) (now : Int) (leaseId : Uuid) (nonce : String) :
    Except Denial CapabilityLeaseV1 :=
  match checkJobAt config job offer selectedNode now with
  | .error d => .error d
  | .ok () =>
    let lease := unsignedLease config job offer selectedNode fencingEpoch now leaseId nonce
    .ok { lease with signature := sign lease }

end

/-! ## What an accepted job and a minted lease guarantee -/

variable {config : GovernorConfig} {sign : CapabilityLeaseV1 → String} {job : JobSpecV1}
  {offer : ResourceOfferV1} {node : Uuid} {epoch : Nat} {now : Int} {leaseId : Uuid} {nonce : String}
  {lease : CapabilityLeaseV1}

theorem checkJobAt_valid (h : checkJobAt config job offer node now = .ok ()) : job.validateAt now = .ok () := by
  unfold checkJobAt at h
  split at h
  · cases h
  split at h
  · cases h
  · assumption

theorem authorizeJobAtEpoch_ok
    (h : authorizeJobAtEpoch config sign job offer node epoch now leaseId nonce = .ok lease) :
    checkJobAt config job offer node now = .ok () ∧
      lease = { unsignedLease config job offer node epoch now leaseId nonce with
        signature := sign (unsignedLease config job offer node epoch now leaseId nonce) } := by
  unfold authorizeJobAtEpoch at h
  split at h
  · cases h
  · rename_i hc
    simp only [Except.ok.injEq] at h
    exact ⟨hc, h.symm⟩

/-- A minted lease names the job and the selected node, carries the epoch and the generated id, and
expires after the instant it was minted at. -/
theorem authorizeJobAtEpoch_spec
    (h : authorizeJobAtEpoch config sign job offer node epoch now leaseId nonce = .ok lease) :
    lease.leaseId = leaseId ∧ lease.jobId = job.jobId ∧ lease.nodeId = node ∧ lease.fencingEpoch = epoch ∧
      lease.issuedAt = now ∧ now < lease.expiresAt := by
  obtain ⟨hc, rfl⟩ := authorizeJobAtEpoch_ok h
  have hd : now < job.deadline := JobSpecV1.validateAt_deadline (checkJobAt_valid hc)
  refine ⟨rfl, rfl, rfl, rfl, rfl, ?_⟩
  have hp : (0 : Int) < seconds (max config.leaseTtlSeconds 1) := by
    unfold seconds
    have : (1 : Int) ≤ max config.leaseTtlSeconds 1 := le_max_right _ _
    omega
  show now < min job.deadline (now + seconds (max config.leaseTtlSeconds 1))
  exact lt_min hd (by omega)

end Rampage.Governor
