/-
The contracts of the protocol crate that the controller, the Governor and the planner exchange:
identities, offers, jobs, shard sets, capability leases and execution receipts, with the
validations the crate defines on them (`validate_at`, `is_active_at`, `authorizes`).

Identifiers are 128-bit, instants (`DateTime<Utc>`) are integers counting nanoseconds, `u64` amounts
are natural numbers. A `BTreeMap` is its entries in key order, a `BTreeSet` a finite set. Fields that no
modelled function reads (a receipt's metrics and digests, a capability's domain and isolation)
are left out.
-/
import Rampage.Protocol.Text
import Mathlib.Data.Finset.Card

namespace Rampage.Protocol

/-- A UUID, as the 128 bits of its value. -/
abbrev Uuid := BitVec 128

/-- `Duration::seconds`. -/
def seconds (n : Int) : Int := n * 1000000000

/-- `Duration::minutes`. -/
def minutes (n : Int) : Int := seconds (n * 60)

/-- The largest artifact the transfer protocol moves, in bytes. -/
def maxArtifactTransferBytes : Nat := 64 * 1024 * 1024

/-- The most jobs a shard set may hold. -/
def maxShardsPerSet : Nat := 256

/-- How far ahead of a node's clock a lease may have been issued, in seconds. -/
def maxLeaseClockSkewSeconds : Int := 5

/-- `lease_has_started`: not-before, with the tolerance for clock skew. -/
def leaseHasStarted (issuedAt now : Int) : Bool := issuedAt ≤ now + seconds maxLeaseClockSkewSeconds

/-! ## Enumerations -/

/-- What kind of resource a node offers or a job asks for. -/
inductive ResourceClass
  | cpuCompute | gpuCompute | npuCompute | gpuMemory | ramWorkingSet | ramCache | storageCache
  | storageScratch | protectedStore | networkFetch | networkRelay | toolchain | runtime | codec
  | licensedService
deriving DecidableEq

/-- How long a stored artifact has to last. -/
inductive StorageClass
  | cache | scratch | «protected»
deriving DecidableEq

/-- The kind of machine a node runs on. -/
inductive DeviceKind
  | desktop | laptop | server | steamDeck | phone | tablet | console
deriving DecidableEq

/-- How far a job is; a receipt reports one of the last five. -/
inductive JobState
  | proposed | admitted | prepared | running | succeeded | failed | ambiguous | cancelled | fenced
deriving DecidableEq

/-- How far the code of a job is trusted. -/
inductive WorkloadTrust
  | nativeTrusted | generatedSandboxed | externalUntrusted
deriving DecidableEq

/-- How far an adapter is qualified on a node. -/
inductive WorkloadCapabilityStatus
  | shipped | qualified | candidate
deriving DecidableEq

/-- The runtime that executes a model. -/
inductive ModelBackend
  | localOllama | exoMlx | vllmRay
deriving DecidableEq

/-- How a model is spread over machines. -/
inductive ModelParallelism
  | wholeModel | pipeline | tensor | replica | speculative
deriving DecidableEq

/-- The memory a model runtime counts as its own. -/
inductive ModelMemoryKind
  | dedicatedGpu | unified | host | hybrid
deriving DecidableEq

/-- How far a model runtime is qualified on a node. -/
inductive ModelRuntimeStatus
  | shippedLocal | candidate | qualified
deriving DecidableEq

/-! ## Identities and enrolment -/

/-- Who a node is: its ids, its owner and the public key its signatures are checked under. -/
structure NodeIdentityV1 where
  schema : String
  nodeId : Uuid
  ownerId : Uuid
  displayName : String
  deviceKind : DeviceKind
  platform : String
  publicKey : String
  enrolledAt : Int
  fencingEpoch : Nat
deriving DecidableEq

/-- `char::is_control`. -/
def isControl (c : Char) : Bool := c.toNat < 32 || (127 ≤ c.toNat && c.toNat < 160)

/-- `is_valid_for_enrollment`: the bounds on the names, and an endpoint id as the key. -/
def NodeIdentityV1.isValidForEnrollment (i : NodeIdentityV1) : Bool :=
  i.schema == "rampage.node-identity.v1" && i.nodeId != 0 && i.ownerId != 0 &&
    !trimIsEmpty i.displayName && i.displayName.utf8ByteSize ≤ 80 && !i.displayName.toList.any isControl &&
    i.platform != "" && i.platform.utf8ByteSize ≤ 100 && isAscii i.platform &&
    i.publicKey.toList.length == 64 && i.publicKey.toList.all isHexDigit && i.fencingEpoch == 0

/-- What a node that has an invitation sends to be enrolled. -/
structure EnrollmentRequestV1 where
  schema : String
  inviteId : Uuid
  enrollmentCode : String
  identity : NodeIdentityV1
  signature : String
deriving DecidableEq

/-! ## Offers -/

/-- How much of a resource a node has and how much of it is free. -/
structure ResourceQuantityV1 where
  cls : ResourceClass
  capacity : Nat
  available : Nat
  unit : String
  labels : List (String × String)
deriving DecidableEq

/-- `labels.get(key)`. -/
def label (labels : List (String × String)) (key : String) : Option String :=
  (labels.find? (·.1 == key)).map (·.2)

/-- The power, the warmth and the idleness of a node at the moment. -/
structure AvailabilityV1 where
  onAcPower : Bool
  batteryPercent : Option Nat
  thermalHeadroomPercent : Nat
  foregroundAllowed : Bool
  ownerIdle : Bool
deriving DecidableEq

/-- A measurement of the link between a node and the controller. -/
structure LinkBenchmarkV1 where
  schema : String
  expiresAt : Int
  rttMicrosP50 : Nat
  uplinkBps : Nat
  downlinkBps : Nat
deriving DecidableEq

/-- Where a node is reached on the mesh, signed by the Governor for a while. -/
structure MeshEndpointRecordV1 where
  schema : String
  endpointId : String
  directAddresses : List String
  relayUrls : List String
  issuedAt : Int
  expiresAt : Int
  signature : String
deriving DecidableEq

/-- The operations of an adapter that a node can run. -/
structure WorkloadCapabilityV1 where
  schema : String
  adapter : String
  operations : Finset String
  executionPatterns : Nat
  resourceClasses : Nat
  runtimeDigest : String
  status : WorkloadCapabilityStatus
  qualificationDigest : Option String
deriving DecidableEq

/-- `WorkloadCapabilityV1::is_valid`. The two sets it only tests for emptiness are kept as their
sizes. -/
def WorkloadCapabilityV1.isValid (c : WorkloadCapabilityV1) : Bool :=
  c.schema == "rampage.workload-capability.v1" && c.adapter != "" && c.adapter.utf8ByteSize ≤ 128 &&
    isAscii c.adapter && c.operations.card != 0 && c.operations.card ≤ 32 &&
    decide (∀ o ∈ c.operations, o ≠ "" ∧ o.utf8ByteSize ≤ 64 ∧ isAscii o = true) &&
    c.executionPatterns != 0 && c.resourceClasses != 0 && c.runtimeDigest != "" &&
    c.runtimeDigest.utf8ByteSize ≤ 200 && isAscii c.runtimeDigest &&
    match c.status with
    | .qualified => c.qualificationDigest.any isSha256Digest
    | .shipped | .candidate => c.qualificationDigest.isNone

/-- `authorizes`: a valid capability that is past the candidate stage lists the operation. -/
def WorkloadCapabilityV1.authorizes (c : WorkloadCapabilityV1) (adapter operation : String) : Bool :=
  c.isValid && c.adapter == adapter && decide (operation ∈ c.operations) && c.status != .candidate

/-- A model that lies ready on a node, by the digest of its artifact. -/
structure InstalledModelV1 where
  schema : String
  modelId : String
  artifactDigest : String
  artifactSizeBytes : Nat
deriving DecidableEq

/-- What a model runtime of a node can take on. -/
structure ModelRuntimeOfferV1 where
  schema : String
  adapter : String
  backend : ModelBackend
  runtimeDigest : String
  compatibilityKey : String
  memoryKind : ModelMemoryKind
  availableModelBytes : UInt64
  supportedParallelism : Finset ModelParallelism
  status : ModelRuntimeStatus
  installedModels : List InstalledModelV1
  certificationDigest : Option String
deriving DecidableEq

/-- What a node offers to the fabric until the offer expires. -/
structure ResourceOfferV1 where
  schema : String
  offerId : Uuid
  nodeId : Uuid
  observedAt : Int
  expiresAt : Int
  resources : List ResourceQuantityV1
  availability : AvailabilityV1
  adapters : Finset String
  workloadCapabilities : List WorkloadCapabilityV1
  modelRuntimes : List ModelRuntimeOfferV1 := []
  linkBenchmark : Option LinkBenchmarkV1
  meshEndpoint : Option MeshEndpointRecordV1
  signature : String
deriving DecidableEq

/-! ## Jobs and shard sets -/

/-- An artifact by its content address, with the metadata that two ends have to agree on. -/
structure ArtifactRefV1 where
  schema : String
  digest : String
  sizeBytes : Nat
  mediaType : String
  storageClass : StorageClass
  encrypted : Bool
deriving DecidableEq

/-- What a job asks for of one resource. -/
structure ResourceRequestV1 where
  cls : ResourceClass
  minimum : Nat
  preferred : Nat
  unit : String
  requiredLabels : List (String × String)
deriving DecidableEq

/-- A job as it is submitted. -/
structure JobSpecV1 where
  schema : String
  jobId : Uuid
  projectId : Uuid
  submittedBy : Uuid
  adapter : String
  operation : String
  arguments : List (String × String)
  inputs : List ArtifactRefV1
  requests : List ResourceRequestV1
  trust : WorkloadTrust
  restartTolerant : Bool
  networkAllowlist : Finset String
  deadline : Int
  idempotencyKey : String
deriving DecidableEq

/-- Jobs that are admitted together or not at all. -/
structure ShardSetV1 where
  schema : String
  setId : Uuid
  projectId : Uuid
  submittedBy : Uuid
  shards : List JobSpecV1
  minimumSuccesses : Nat
  deadline : Int
  idempotencyKey : String
deriving DecidableEq

/-- Why a job or a shard set is no valid contract. -/
inductive ContractError
  | wrongSchema (expected actual : String)
  | deadlineExpired
  | invalidResourceRange
  | emptyIdempotencyKey
  | invalidShardCount
  | invalidSuccessThreshold
  | duplicateShardIdentity
  | shardOwnershipMismatch
  | unsafeShardLifecycle
  | emptyModelId
  | invalidModelSize
  | invalidContextTokens
  | invalidModelNodeCount
deriving DecidableEq

/-- The message `Display` prints. -/
def ContractError.text : ContractError → String
  | .wrongSchema expected actual => "unexpected schema " ++ actual ++ "; expected " ++ expected
  | .deadlineExpired => "deadline has expired"
  | .invalidResourceRange => "resource request minimum exceeds preferred"
  | .emptyIdempotencyKey => "idempotency key is empty"
  | .invalidShardCount => "shard set must contain between 1 and 256 jobs"
  | .invalidSuccessThreshold => "minimum successes must be between 1 and the shard count"
  | .duplicateShardIdentity => "shard identifiers and idempotency keys must be unique"
  | .shardOwnershipMismatch => "every shard must belong to the shard set project and submitter"
  | .unsafeShardLifecycle => "every shard must be restart tolerant and expire no later than its shard set"
  | .emptyModelId => "model identifier is empty"
  | .invalidModelSize => "model session size is zero or exceeds the protocol limit"
  | .invalidContextTokens => "model context token count must be positive"
  | .invalidModelNodeCount => "model session node count must be between 1 and 64"

/-- `JobSpecV1::SCHEMA`. -/
def JobSpecV1.schemaName : String := "rampage.job-spec.v1"

/-- `JobSpecV1::validate_at`. -/
def JobSpecV1.validateAt (job : JobSpecV1) (now : Int) : Except ContractError Unit :=
  if job.schema ≠ schemaName then .error (.wrongSchema schemaName job.schema)
  else if job.deadline ≤ now then .error .deadlineExpired
  else if trimIsEmpty job.idempotencyKey then .error .emptyIdempotencyKey
  else if job.requests.any (fun r => r.preferred < r.minimum) then .error .invalidResourceRange
  else .ok ()

/-- `ShardSetV1::SCHEMA`. -/
def ShardSetV1.schemaName : String := "rampage.shard-set.v1"

/-- The loop of `ShardSetV1::validate_at` over the shards, with the job ids and idempotency keys
seen so far. -/
def ShardSetV1.validateShards (set : ShardSetV1) (now : Int) :
    List JobSpecV1 → List Uuid → List String → Except ContractError Unit
  | [], _, _ => .ok ()
  | shard :: rest, ids, keys =>
    match shard.validateAt now with
    | .error e => .error e
    | .ok () =>
      if shard.projectId ≠ set.projectId ∨ shard.submittedBy ≠ set.submittedBy then .error .shardOwnershipMismatch
      else if ¬ shard.restartTolerant ∨ set.deadline < shard.deadline then .error .unsafeShardLifecycle
      else if shard.jobId ∈ ids ∨ shard.idempotencyKey ∈ keys then .error .duplicateShardIdentity
      else validateShards set now rest (shard.jobId :: ids) (shard.idempotencyKey :: keys)

/-- `ShardSetV1::validate_at`. -/
def ShardSetV1.validateAt (set : ShardSetV1) (now : Int) : Except ContractError Unit :=
  if set.schema ≠ schemaName then .error (.wrongSchema schemaName set.schema)
  else if set.deadline ≤ now then .error .deadlineExpired
  else if trimIsEmpty set.idempotencyKey then .error .emptyIdempotencyKey
  else if set.shards.length = 0 ∨ maxShardsPerSet < set.shards.length then .error .invalidShardCount
  else if set.minimumSuccesses = 0 ∨ set.shards.length < set.minimumSuccesses then
    .error .invalidSuccessThreshold
  else set.validateShards now set.shards [] []

/-! ## Leases, receipts and claims -/

/-- What the Governor grants a node for one job. -/
structure CapabilityLeaseV1 where
  schema : String
  leaseId : Uuid
  jobId : Uuid
  nodeId : Uuid
  projectId : Uuid
  adapter : String
  operation : String
  inputDigests : Finset String
  granted : List ResourceQuantityV1
  networkAllowlist : Finset String
  issuedAt : Int
  expiresAt : Int
  nonce : String
  fencingEpoch : Nat
  signature : String
deriving DecidableEq

/-- `CapabilityLeaseV1::SCHEMA`. -/
def CapabilityLeaseV1.schemaName : String := "rampage.capability-lease.v1"

/-- `CapabilityLeaseV1::is_active_at`. -/
def CapabilityLeaseV1.isActiveAt (lease : CapabilityLeaseV1) (now : Int) (currentEpoch : Nat) : Bool :=
  lease.schema == schemaName && leaseHasStarted lease.issuedAt now && now < lease.expiresAt &&
    lease.fencingEpoch == currentEpoch && lease.signature != ""

/-- What a node reports of a job it ran, under its signature. -/
structure ExecutionReceiptV1 where
  schema : String
  receiptId : Uuid
  leaseId : Uuid
  jobId : Uuid
  nodeId : Uuid
  state : JobState
  startedAt : Int
  finishedAt : Int
  outputs : List ArtifactRefV1
  signature : String
deriving DecidableEq

/-- A job that is handed to a node, with the lease it is to run under. -/
structure WorkClaimV1 where
  schema : String
  job : JobSpecV1
  lease : CapabilityLeaseV1
  governorPublicKey : String
deriving DecidableEq

/-- `WorkClaimV1::SCHEMA`. -/
def WorkClaimV1.schemaName : String := "rampage.work-claim.v1"

/-! ## What a valid contract guarantees -/

theorem JobSpecV1.validateAt_deadline {job : JobSpecV1} {now : Int} (h : job.validateAt now = .ok ()) :
    now < job.deadline := by
  unfold validateAt at h
  split at h
  · cases h
  · split at h
    · cases h
    · omega

theorem ShardSetV1.validateShards_distinct {set : ShardSetV1} {now : Int} :
    ∀ {shards : List JobSpecV1} {ids : List Uuid} {keys : List String},
      set.validateShards now shards ids keys = .ok () →
      (shards.map (·.jobId)).Nodup ∧ (shards.map (·.idempotencyKey)).Nodup ∧
        (∀ j ∈ shards, j.jobId ∉ ids) ∧ ∀ j ∈ shards, j.idempotencyKey ∉ keys
  | [], ids, keys, _ => by simp
  | shard :: rest, ids, keys, h => by
    unfold validateShards at h
    split at h
    · cases h
    split at h
    · cases h
    split at h
    · cases h
    split at h
    · cases h
    rename_i hnew
    rw [not_or] at hnew
    obtain ⟨hids, hkeys, hid, hkey⟩ := validateShards_distinct h
    refine ⟨?_, ?_, ?_, ?_⟩
    · simp only [List.map_cons, List.nodup_cons, List.mem_map, not_exists, not_and]
      exact ⟨fun j hj he => hid j hj (by simp [he]), hids⟩
    · simp only [List.map_cons, List.nodup_cons, List.mem_map, not_exists, not_and]
      exact ⟨fun j hj he => hkey j hj (by simp [he]), hkeys⟩
    · intro j hj
      rcases List.mem_cons.1 hj with rfl | hj
      · exact hnew.1
      · exact fun hm => hid j hj (List.mem_cons_of_mem _ hm)
    · intro j hj
      rcases List.mem_cons.1 hj with rfl | hj
      · exact hnew.2
      · exact fun hm => hkey j hj (List.mem_cons_of_mem _ hm)

theorem ShardSetV1.validateAt_shards {set : ShardSetV1} {now : Int} (h : set.validateAt now = .ok ()) :
    set.validateShards now set.shards [] [] = .ok () := by
  unfold validateAt at h
  split at h
  · cases h
  split at h
  · cases h
  split at h
  · cases h
  split at h
  · cases h
  split at h
  · cases h
  exact h

theorem ShardSetV1.validateAt_shards_ne_nil {set : ShardSetV1} {now : Int} (h : set.validateAt now = .ok ()) :
    set.shards ≠ [] := by
  unfold validateAt at h
  split at h
  · cases h
  split at h
  · cases h
  split at h
  · cases h
  split at h
  · cases h
  · rename_i hc
    rw [not_or] at hc
    intro he
    exact hc.1 (by rw [he]; rfl)

/-- The members of a valid shard set have distinct job ids and distinct idempotency keys. -/
theorem ShardSetV1.validateAt_distinct {set : ShardSetV1} {now : Int} (h : set.validateAt now = .ok ()) :
    (set.shards.map (·.jobId)).Nodup ∧ (set.shards.map (·.idempotencyKey)).Nodup := by
  obtain ⟨hids, hkeys, _, _⟩ := validateShards_distinct (validateAt_shards h)
  exact ⟨hids, hkeys⟩

end Rampage.Protocol
