/-
The two admission handlers, `submit_job` and `submit_shard_set`, with what they are made of: the
placement offers, input staging, minting and the record of an admitted job. Each handler is split
where the source waits for the admission gate: `…Arrive` runs before it, `…Gated` under it.
-/
import Rampage.Controller.State

namespace Rampage.Controller

open Rampage.Protocol Rampage.Planner Rampage.Governor Rampage.Ledger Handler

variable (cfg : Config) (w : World)

/-! ## Placement -/

/-- `placement_offers`: the offers of nodes that are not excluded, in the map's order. -/
def placementOffers (order : IterOrder) (s : AppState) : List ResourceOfferV1 :=
  (order.apply s.offers.values).filter (·.nodeId ∉ s.excludedNodes)

/-- The inputs an offer's node holds; the controller's own machine holds all. -/
def localInputs (s : AppState) (job : JobSpecV1) (offer : ResourceOfferV1) : Finset String :=
  if offer.meshEndpoint.isNone then (job.inputs.map (·.digest)).toFinset
  else ((job.inputs.filter fun input => (s.artifactReplicas.lookup (input.digest, offer.nodeId)).isSome).map
    (·.digest)).toFinset

/-- `input_locality`: by node; of several offers of one node the last counts. -/
def inputLocality (s : AppState) (offers : List ResourceOfferV1) (job : JobSpecV1) (node : Uuid) : Finset String :=
  match (offers.filter (·.nodeId == node)).getLast? with
  | none => ∅
  | some offer => localInputs s job offer

/-- `shard_input_locality`: by job and node. -/
def shardInputLocality (s : AppState) (offers : List ResourceOfferV1) (set : ShardSetV1) (jobId node : Uuid) :
    Finset String :=
  match (set.shards.filter (·.jobId == jobId)).getLast? with
  | none => ∅
  | some job => inputLocality s offers job node

/-! ## Staging -/

/-- `replicate_to_offer`: lease, transfer, and the check of what the remote store committed. -/
def replicateToOffer (offer : ResourceOfferV1) (source : ArtifactRefV1) (storageClass : StorageClass) :
    Request ArtifactRefV1 := do
  let s ← get
  let now ← utcNow w
  let leaseId ← newUuid w
  let nonce ← newText w
  let lease ← orRefuse .internalServerError Denial.text (authorizeStorageAtEpoch cfg.governor cfg.signStorage
    offer source.digest source.sizeBytes storageClass .put s.fencingEpoch now leaseId nonce)
  append w (.storageLeaseIssued lease.leaseId)
  let committed ← transfer w source
  let artifact ← orRefuse .internalServerError id committed
  ensure (artifact.digest == source.digest && artifact.sizeBytes == source.sizeBytes &&
      artifact.mediaType == source.mediaType && artifact.storageClass == storageClass && artifact.encrypted)
    (internalError "remote artifact does not match the source contract")
  pure artifact

/-- `endpoint_addr_from_record`. -/
def endpointAddrFromRecord (record : MeshEndpointRecordV1) : Request Unit := do
  let now ← utcNow w
  ensure (record.schema == "rampage.mesh-endpoint.v1" && decide (now < record.expiresAt) &&
      cfg.endpointIsWellFormed record)
    { status := .conflict, error := "mesh endpoint record has expired or is malformed" }

/-- One round of `stage_job_inputs`. -/
def stageInput (offer : ResourceOfferV1) (input : ArtifactRefV1) : Request Unit := do
  let s ← get
  let source ← orRefuse .badRequest ("job input is unavailable: " ++ ·) (s.artifactHead input.digest)
  ensure (source.sizeBytes == input.sizeBytes && source.mediaType == input.mediaType &&
      source.storageClass == input.storageClass)
    { status := .badRequest, error := "job input metadata does not match the controller CAS" }
  match offer.meshEndpoint with
  | none => pure ()
  | some record =>
    if (s.artifactReplicas.lookup (input.digest, offer.nodeId)).isSome then pure ()
    else do
      endpointAddrFromRecord cfg w record
      let remote ← mapError (fun e => { status := .badGateway, error := "input staging failed: " ++ e.error })
        (replicateToOffer cfg w offer source input.storageClass)
      modify fun s =>
        { s with artifactReplicas := s.artifactReplicas.insert (remote.digest, offer.nodeId) remote }
      append w (.artifactHeld .inputStaged remote offer.nodeId)

/-- `stage_job_inputs`. -/
def stageJobInputs (offer : ResourceOfferV1) (job : JobSpecV1) : Request Unit :=
  forEach (stageInput cfg w offer) job.inputs

/-! ## Minting and recording -/

/-- `governor.authorize_job_at_epoch`, at the current epoch. -/
def mintLease (job : JobSpecV1) (offer : ResourceOfferV1) (node : Uuid) : Request (Except Denial CapabilityLeaseV1) := do
  let s ← get
  let now ← utcNow w
  let leaseId ← newUuid w
  let nonce ← newText w
  pure (authorizeJobAtEpoch cfg.governor cfg.signLease job offer node s.fencingEpoch now leaseId nonce)

/-- What an admitted job leaves in the tables: its idempotency key, its assignment and its
reservations. -/
def recordAssignment (job : JobSpecV1) (lease : CapabilityLeaseV1) (node : Uuid) (s : Host) : Host :=
  { s with
    idempotency := s.idempotency.insert job.idempotencyKey job.jobId
    assignments := s.assignments.insert job.jobId ⟨job, lease, false⟩
    reservations := s.reservations ++ reservationsOf job node lease.expiresAt }

/-- `reservation_book.retain(|reservation| reservation.expires_at > Utc::now())`: the clock is read
for every entry. -/
def retainReading : Nat → List ResourceReservation → List ResourceReservation
  | _, [] => []
  | n, r :: rs => if w.clock n < r.expiresAt then r :: retainReading (n + 1) rs else retainReading (n + 1) rs

/-- The end of `submit_job`. -/
def recordJob (job : JobSpecV1) (lease : CapabilityLeaseV1) (s : Host) : Host :=
  recordAssignment job lease lease.nodeId
    { s with reservations := retainReading w s.reads s.reservations, reads := s.reads + s.reservations.length }

/-! ## `submit_job` -/

/-- The assignment an idempotency key is bound to, if it is still stored. -/
def boundAssignment (s : AppState) (key : String) : Option Assignment :=
  (s.idempotency.lookup key).bind fun jobId => s.assignments.lookup jobId

/-- What `submit_job` does before it waits for the admission gate. -/
def submitJobArrive (job : JobSpecV1) : Request Unit := do
  refuseWhileKilled
  let now ← utcNow w
  orRefuse .badRequest ContractError.text (job.validateAt now)

/-- The choice of `submit_job`: the best placement, or a recorded block. -/
def placeJob (job : JobSpecV1) : Request (ResourceOfferV1 × PlacementScore) := do
  let s ← get
  let offers := placementOffers (w.order s.reads) s.toAppState
  let now ← utcNow w
  match chooseOfferWithTopology s.reservations cfg.admissionPolicy now job offers
      (inputLocality s.toAppState offers job) with
  | none => do
    append w (.jobBlocked job.jobId "no admissible offer")
    fail { status := .conflict, error := "no admissible offer" }
  | some choice => pure choice

/-- What `submit_job` does with a job it has not deduplicated, up to the issued lease. -/
def prepareJob (job : JobSpecV1) : Request (CapabilityLeaseV1 × PlacementScore) := do
  let choice ← placeJob cfg w job
  let minted ← mintLease cfg w job choice.1 choice.1.nodeId
  let lease ← orRefuse .forbidden Denial.text minted
  stageJobInputs cfg w choice.1 job
  pure (lease, choice.2)

/-- The admission of a job that is not deduplicated. -/
def admitJob (job : JobSpecV1) : Request CapabilityLeaseV1 := do
  append w (.jobProposed job)
  let prepared ← prepareJob cfg w job
  append w (.leaseIssued prepared.1 prepared.2)
  modify (recordJob w job prepared.1)
  pure prepared.1

/-- What it does with the gate. -/
def submitJobGated (job : JobSpecV1) : Request (StatusCode × CapabilityLeaseV1) := do
  let s ← get
  match boundAssignment s.toAppState job.idempotencyKey with
  | some existing => do
    ensure (existing.job == job)
      { status := .conflict, error := "job idempotency key is already bound to other data" }
    pure (.ok, existing.lease)
  | none => do
    let lease ← admitJob cfg w job
    pure (.accepted, lease)

/-- `submit_job`. -/
def submitJob (job : JobSpecV1) : Request (StatusCode × CapabilityLeaseV1) := do
  submitJobArrive w job
  submitJobGated cfg w job

/-! ## `submit_shard_set` -/

/-- The answer of `submit_shard_set`; an idempotent replay carries no placements. -/
structure ShardSetAdmission where
  status : StatusCode
  setId : Uuid
  minimumSuccesses : Nat
  leases : List CapabilityLeaseV1
  placements : Option (List ShardPlacement)
  idempotentReplay : Bool
deriving DecidableEq

/-- The clock reading before the gate is used under it too. -/
def submitShardSetArrive (set : ShardSetV1) : Request Int := do
  refuseWhileKilled
  let now ← utcNow w
  orRefuse .badRequest ContractError.text (set.validateAt now)
  pure now

/-- The record a shard-set key is bound to. -/
def boundShardSet (order : IterOrder) (s : AppState) (key : String) : Option ShardSetRecord :=
  (order.apply s.shardSets.values).find? (·.spec.idempotencyKey == key)

/-- A shard's idempotency key is bound to a job other than the shard's. -/
def shardKeyTaken (s : AppState) (job : JobSpecV1) : Bool :=
  match s.idempotency.lookup job.idempotencyKey with
  | some existing => existing != job.jobId
  | none => false

/-- The offer a placement names, among the offers planned with. -/
def placedOffer (offers : List ResourceOfferV1) (placement : ShardPlacement) : Request ResourceOfferV1 :=
  match offers.find? (·.nodeId == placement.nodeId) with
  | some offer => pure offer
  | none => fail { status := .conflict, error := "planned offer disappeared before admission" }

/-- The Governor's check of one planned shard. -/
def checkShard (offers : List ResourceOfferV1) (p : JobSpecV1 × ShardPlacement) : Request Unit := do
  let offer ← placedOffer offers p.2
  let now ← utcNow w
  ofExcept ((checkJobAt cfg.governor p.1 offer p.2.nodeId now).mapError fun d =>
    { status := .forbidden, error := d.text, blockedJobId := some p.1.jobId, authorityIssued := some false })

/-- The inputs of one shard go to the node it is placed on. -/
def stageShard (offers : List ResourceOfferV1) (p : JobSpecV1 × ShardPlacement) : Request Unit := do
  let offer ← placedOffer offers p.2
  stageJobInputs cfg w offer p.1

/-- The lease of one shard; the authority may have changed since the plan. -/
def mintShard (offers : List ResourceOfferV1) (p : JobSpecV1 × ShardPlacement) : Request CapabilityLeaseV1 := do
  let offer ← placedOffer offers p.2
  let minted ← mintLease cfg w p.1 offer p.2.nodeId
  ofExcept (minted.mapError fun d =>
    { status := .conflict, error := "authority changed during staging: " ++ d.text, blockedJobId := some p.1.jobId,
      authorityPersisted := some false })

/-- The plan of a shard set and the leases of its members, before anything is recorded. -/
def prepareShardSet (set : ShardSetV1) (now : Int) : Request (List CapabilityLeaseV1 × List ShardPlacement) := do
  let s ← get
  let offers := placementOffers (w.order s.reads) s.toAppState
  let placements ← ofExcept ((planShardSet set offers s.reservations cfg.admissionPolicy now
    (shardInputLocality s.toAppState offers set)).mapError fun failure =>
    { status := .conflict, error := failure.reason, blockedJobId := some failure.blockedJobId,
      plannedShards := some failure.plannedShards, authorityIssued := some false })
  let members := set.shards.zip placements
  forEach (checkShard cfg w offers) members
  forEach (stageShard cfg w offers) members
  let leases ← mapEach (mintShard cfg w offers) members
  pure (leases, placements)

/-- The members of an admitted set recorded one after the other. -/
def recordShards : List ((JobSpecV1 × CapabilityLeaseV1) × ShardPlacement) → Host → Host
  | [], s => s
  | ((job, lease), placement) :: rest, s => recordShards rest (recordAssignment job lease placement.nodeId s)

/-- The end of `submit_shard_set`. -/
def recordShardSet (set : ShardSetV1) (now : Int) (leases : List CapabilityLeaseV1)
    (placements : List ShardPlacement) (s : Host) : Host :=
  let s := recordShards ((set.shards.zip leases).zip placements)
    { s with reservations := s.reservations.filter (now < ·.expiresAt) }
  { s with shardSets := s.shardSets.insert set.setId ⟨set, leases⟩ }

/-- The admission of a set that is not deduplicated. -/
def admitShardSet (set : ShardSetV1) (now : Int) : Request ShardSetAdmission := do
  let prepared ← prepareShardSet cfg w set now
  append w (.shardSetAdmitted set prepared.1 prepared.2)
  modify (recordShardSet set now prepared.1 prepared.2)
  pure ⟨.accepted, set.setId, set.minimumSuccesses, prepared.1, some prepared.2, false⟩

/-- What `submit_shard_set` does with the gate. -/
def submitShardSetGated (set : ShardSetV1) (now : Int) : Request ShardSetAdmission := do
  let s ← get
  match boundShardSet (w.order s.reads) s.toAppState set.idempotencyKey with
  | some existing => do
    ensure (existing.spec == set)
      { status := .conflict, error := "shard-set idempotency key is already bound to other data" }
    pure ⟨.ok, existing.spec.setId, existing.spec.minimumSuccesses, existing.leases, none, true⟩
  | none => do
    ensure (!set.shards.any (shardKeyTaken s.toAppState))
      { status := .conflict, error := "a shard idempotency key is already bound to another job" }
    admitShardSet cfg w set now

/-- `submit_shard_set`. -/
def submitShardSet (set : ShardSetV1) : Request ShardSetAdmission := do
  let now ← submitShardSetArrive w set
  submitShardSetGated cfg w set now

end Rampage.Controller
