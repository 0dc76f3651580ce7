/-
Artifacts between the controller and its workers: `replicate_to_offer` with the handlers around it (`stage_job_inputs`,
`replicate_artifact`), `probe_replica`, and `retrieve_artifact`. Here the exchanges with a worker are spelled out message
by message over `Mesh.Artifact`, and the controller's own store is the one of `Storage`; `Controller.Admission` has the
same functions with the outcome of a transfer drawn from outside.
-/
import Rampage.Agent.Gateway
import Rampage.Controller.Admission
import Rampage.Lib.Base64
import Rampage.Mesh.Artifact
import Rampage.Protocol.Uuid
import Rampage.Storage.Session

namespace Rampage.Replication

open Rampage.Protocol Rampage.Governor Rampage.Ledger Rampage.Mesh
open Rampage.Controller (Config World Host Request StatusCode utcNow newUuid newText)
open Rampage.Storage (Store CasStore Bytes Nonce Operation ResumablePutSpec sha256Digest storeEffects)
open Rampage.Agent (simple)
open Handler (ensure)

/-! ## The controller -/

/-- The controller with its store, the evidence of its replicas, and what is at the other end of the mesh; and, as a
record of what happened, the receipts that passed as evidence so far. -/
structure Replicator (P : Type) extends Host where
  artifactStore : Store
  replicaEvidence : Table (String × Uuid) ArtifactReplicaReceiptV1
  peer : P
  /-- Nonces the store has drawn. -/
  nonces : Nat
  accepted : List ArtifactReplicaReceiptV1

/-- What the controller runs with. -/
structure Setting where
  config : Config
  world : World
  cas : CasStore
  /-- The nonces the store draws. -/
  nonce : Nat → Nonce
  /-- `verify_contract_signature` of a receipt under a public key. -/
  verifyReceipt : String → ArtifactReplicaReceiptV1 → Bool

/-- What replicating or retrieving fails with. -/
inductive ReplicationError
  /-- The ledger did not take an event, or an endpoint did not pass. -/
  | host (text : String)
  | denied (denial : Denial)
  | storage (e : Storage.StorageError)
  | mesh (e : TransferError)
  /-- "remote transfer progress is malformed or mismatched" -/
  | malformedProgress
  /-- "remote transfer progress changed its content binding" -/
  | changedBinding
  /-- "remote artifact does not match the source contract" -/
  | contractMismatch
  /-- "replica node identity is unavailable" -/
  | identityUnavailable
  /-- "replica receipt is not bound to the exact transfer authority" -/
  | receiptNotBound
  /-- "replica has no signed mesh endpoint" -/
  | noEndpoint
  /-- "replica probe returned a different artifact contract" -/
  | probeMismatch
  /-- "owner kill latch is active" -/
  | killLatch
  /-- "replica media type must match the source artifact" -/
  | mediaTypeMismatch
  /-- "job input metadata does not match the controller CAS" -/
  | inputMismatch
  /-- "no verified replica is recorded for that node" -/
  | noReplica
  /-- "node has no current resource offer" -/
  | noOffer
  /-- "node does not advertise an authenticated mesh endpoint" -/
  | noMeshEndpoint
  /-- "local content address conflicts with the remote artifact contract" -/
  | sinkConflict
  /-- "remote chunk changed the artifact contract" -/
  | chunkContract
  /-- "retrieved artifact failed content-address verification" -/
  | contentAddress
deriving DecidableEq

/-- The replicator acts on its host and on the peers, or fails. -/
abbrev Transfer (P α : Type) := Handler (Replicator P) ReplicationError α

/-- A handler answers a failure with a status. -/
abbrev Answering (P α : Type) := Handler (Replicator P) (StatusCode × ReplicationError) α

variable {P α : Type}

/-- A step of the host. -/
def hosted (y : Request α) : Transfer P α := fun s =>
  match y s.toHost with
  | (.ok a, h) => (.ok a, { s with toHost := h })
  | (.error e, h) => (.error (.host e.error), { s with toHost := h })

/-- A step with the peer. -/
def onMesh (y : Exchange P α) : Transfer P α := fun s =>
  match y s.peer with
  | (.ok a, p) => (.ok a, { s with peer := p })
  | (.error e, p) => (.error (.mesh e), { s with peer := p })

/-- A call of the controller's store. -/
def onStore (operation : Store → Operation α) : Transfer P α := fun s =>
  let plan := operation s.artifactStore
  (plan.result.mapError .storage, { s with artifactStore := storeEffects.applyAll plan.effects s.artifactStore })

/-- A reading call of the controller's store. -/
def readStore (f : Store → Except Storage.StorageError α) : Transfer P α := fun s =>
  ((f s.artifactStore).mapError .storage, s)

/-- `map_err` with a status. -/
def orAnswer (status : StatusCode) (y : Transfer P α) : Answering P α := fun s =>
  match y s with
  | (.ok a, t) => (.ok a, t)
  | (.error e, t) => (.error (status, e), t)

/-! ## Leases and evidence -/

variable (x : Setting) (peer : Peer P)

/-- `governor.authorize_storage_at_epoch`, at the epoch of the controller. -/
def authorizeStorage (offer : ResourceOfferV1) (digest : String) (sizeBytes : Nat) (storageClass : StorageClass)
    (operation : ArtifactTransferOperation) : Transfer P StorageLeaseV1 := do
  let s ← Handler.get
  let now ← hosted (utcNow x.world)
  let leaseId ← hosted (newUuid x.world)
  let nonce ← hosted (newText x.world)
  match authorizeStorageAtEpoch x.config.governor x.config.signStorage offer digest sizeBytes storageClass operation
      s.fencingEpoch now leaseId nonce with
  | .error denial => Handler.fail (.denied denial)
  | .ok lease => pure lease

/-- The lease is on record before it is used. -/
def recordLease (lease : StorageLeaseV1) : Transfer P Unit :=
  hosted (Controller.append x.world (.storageLeaseIssued lease.leaseId))

/-- `artifact_transfer_session_id`. -/
def artifactTransferSessionId (cas : CasStore) (nodeId : Uuid) (digest : String) (operation : ArtifactTransferOperation) : Uuid :=
  let side := match operation with
    | .put => "put"
    | .get => "get"
  let hash := cas.sha256 (utf8 "rampage.artifact-transfer-session.v1" ++ 0 :: (nodeId.toBytes ++ 0 :: (utf8 digest ++ 0 :: utf8 side)))
  let bytes := hash.take 16
  Uuid.fromBytes ((bytes.set 6 ((bytes.getD 6 0 &&& 0x0f) ||| 0x50)).set 8 ((bytes.getD 8 0 &&& 0x3f) ||| 0x80))

/-- `verify_artifact_replica_receipt`. -/
def verifyArtifactReplicaReceipt (identity : NodeIdentityV1) (receipt : ArtifactReplicaReceiptV1) : Transfer P Unit := do
  let now ← hosted (utcNow x.world)
  ensure (identity.nodeId = receipt.nodeId ∧ receipt.isValidAt now = true) (.denied .invalidArtifact)
  ensure (x.verifyReceipt identity.publicKey receipt) (.denied .invalidSignature)

/-- What a receipt has to say to be evidence for this transfer. -/
structure IsBound (offer : ResourceOfferV1) (lease : StorageLeaseV1) (sessionId : Uuid) (challengeNonce : String)
    (receipt : ArtifactReplicaReceiptV1) : Prop where
  sessionId : receipt.sessionId = sessionId
  leaseId : receipt.leaseId = lease.leaseId
  node : receipt.nodeId = offer.nodeId
  digest : receipt.digest = lease.digest
  size : receipt.sizeBytes = lease.sizeBytes
  storageClass : receipt.storageClass = lease.storageClass
  challenge : receipt.challengeNonce = challengeNonce
  epoch : receipt.fencingEpoch = lease.fencingEpoch

instance (offer : ResourceOfferV1) (lease : StorageLeaseV1) (sessionId : Uuid) (challengeNonce : String)
    (receipt : ArtifactReplicaReceiptV1) : Decidable (IsBound offer lease sessionId challengeNonce receipt) :=
  decidable_of_iff (receipt.sessionId = sessionId ∧ receipt.leaseId = lease.leaseId ∧ receipt.nodeId = offer.nodeId ∧
      receipt.digest = lease.digest ∧ receipt.sizeBytes = lease.sizeBytes ∧ receipt.storageClass = lease.storageClass ∧
      receipt.challengeNonce = challengeNonce ∧ receipt.fencingEpoch = lease.fencingEpoch)
    ⟨fun ⟨h₁, h₂, h₃, h₄, h₅, h₆, h₇, h₈⟩ => ⟨h₁, h₂, h₃, h₄, h₅, h₆, h₇, h₈⟩,
      fun h => ⟨h.sessionId, h.leaseId, h.node, h.digest, h.size, h.storageClass, h.challenge, h.epoch⟩⟩

/-- `verify_replica_evidence`. -/
def verifyReplicaEvidence (offer : ResourceOfferV1) (lease : StorageLeaseV1) (sessionId : Uuid) (challengeNonce : String)
    (receipt : ArtifactReplicaReceiptV1) : Transfer P Unit := do
  let s ← Handler.get
  match s.nodes.lookup offer.nodeId with
  | none => Handler.fail .identityUnavailable
  | some identity => do
    verifyArtifactReplicaReceipt x identity receipt
    ensure (IsBound offer lease sessionId challengeNonce receipt) .receiptNotBound
    Handler.modify fun s => { s with accepted := s.accepted ++ [receipt] }

/-- The two artifacts agree in what a transfer is about, and the second is encrypted at rest. -/
def sameContract (expected : ArtifactRefV1) (storageClass : StorageClass) (found : ArtifactRefV1) : Bool :=
  found.digest == expected.digest && found.sizeBytes == expected.sizeBytes && found.mediaType == expected.mediaType &&
    found.storageClass == storageClass && found.encrypted

/-! ## Sending -/

/-- What a replication returns. -/
structure ReplicationOutcome where
  artifact : ArtifactRefV1
  receipt : ArtifactReplicaReceiptV1
  leaseId : Uuid
  sessionId : Uuid
  resumedChunks : Nat
  chunkCount : Nat
deriving DecidableEq

/-- The context of one exchange, under a challenge of its own. -/
def exchangeContext (endpoint : MeshEndpointRecordV1) (lease : StorageLeaseV1) (mediaType : String) (sessionId : Uuid)
    (challengeNonce : String) : ArtifactTransferContext :=
  ⟨endpoint, lease, mediaType, sessionId, challengeNonce⟩

/-- One round of the loop of `replicate_to_offer`. -/
def sendChunk (endpoint : MeshEndpointRecordV1) (lease : StorageLeaseV1) (source : ArtifactRefV1) (sessionId : Uuid)
    (index : Nat) : Transfer P Unit := do
  let chunk ← readStore (Storage.getChunk x.cas source.digest index)
  let nonce ← hosted (newText x.world)
  let requestId ← hosted (newUuid x.world)
  let updated ← onMesh (artifactPutChunk peer (exchangeContext endpoint lease source.mediaType sessionId nonce) requestId
    index (sha256Digest x.cas chunk) chunk)
  ensure (updated.isValid ∧ updated.sessionId = sessionId ∧ updated.digest = source.digest) .changedBinding

/-- `replicate_to_offer` under the lease it was given. -/
def replicateUnder (offer : ResourceOfferV1) (endpoint : MeshEndpointRecordV1) (source : ArtifactRefV1)
    (storageClass : StorageClass) (lease : StorageLeaseV1) : Transfer P ReplicationOutcome := do
  recordLease x lease
  let sessionId := artifactTransferSessionId x.cas offer.nodeId source.digest .put
  let nonce ← hosted (newText x.world)
  let requestId ← hosted (newUuid x.world)
  let progress ← onMesh (artifactPut peer (exchangeContext endpoint lease source.mediaType sessionId nonce) requestId)
  ensure (progress.isValid ∧ progress.sessionId = sessionId ∧ progress.digest = source.digest ∧
    progress.sizeBytes = source.sizeBytes) .malformedProgress
  Handler.forEach (sendChunk x peer endpoint lease source sessionId) progress.missingChunks
  let challengeNonce ← hosted (newText x.world)
  let requestId ← hosted (newUuid x.world)
  let committed ← onMesh
    (artifactCommit peer (exchangeContext endpoint lease source.mediaType sessionId challengeNonce) requestId)
  ensure (sameContract source storageClass committed.1) .contractMismatch
  verifyReplicaEvidence x offer lease sessionId challengeNonce committed.2
  return ⟨committed.1, committed.2, lease.leaseId, sessionId, progress.receivedChunks.length, progress.chunkCount⟩

/-- `replicate_to_offer`. -/
def replicateToOffer (offer : ResourceOfferV1) (endpoint : MeshEndpointRecordV1) (source : ArtifactRefV1)
    (storageClass : StorageClass) : Transfer P ReplicationOutcome := do
  let lease ← authorizeStorage x offer source.digest source.sizeBytes storageClass .put
  replicateUnder x peer offer endpoint source storageClass lease

/-- The tables after a replica was taken on record. -/
def recordReplica (artifact : ArtifactRefV1) (nodeId : Uuid) (receipt : ArtifactReplicaReceiptV1) (s : Replicator P) :
    Replicator P :=
  { s with
    artifactReplicas := s.artifactReplicas.insert (artifact.digest, nodeId) artifact
    replicaEvidence := s.replicaEvidence.insert (artifact.digest, nodeId) receipt }

/-- One input of `stage_job_inputs`. -/
def stageInput (offer : ResourceOfferV1) (input : ArtifactRefV1) : Answering P Unit := do
  let source ← orAnswer .badRequest (readStore (Storage.head x.cas input.digest))
  ensure (source.sizeBytes = input.sizeBytes ∧ source.mediaType = input.mediaType ∧
    source.storageClass = input.storageClass) (.badRequest, .inputMismatch)
  match offer.meshEndpoint with
  | none => pure ()
  | some record => do
    let s ← Handler.get
    if (s.artifactReplicas.lookup (input.digest, offer.nodeId)).isSome then pure ()
    else do
      orAnswer .conflict (hosted (Controller.endpointAddrFromRecord x.config x.world record))
      let outcome ← orAnswer .badGateway (replicateToOffer x peer offer record source input.storageClass)
      Handler.modify (recordReplica outcome.artifact offer.nodeId outcome.receipt)
      orAnswer .internalServerError
        (hosted (Controller.append x.world (.artifactHeld .inputStaged outcome.artifact offer.nodeId)))

/-- `stage_job_inputs`. -/
def stageJobInputs (offer : ResourceOfferV1) (job : JobSpecV1) : Answering P Unit :=
  Handler.forEach (stageInput x peer offer) job.inputs

/-- `remote_offer`. -/
def remoteOffer (nodeId : Uuid) : Answering P (ResourceOfferV1 × MeshEndpointRecordV1) := do
  let s ← Handler.get
  let now ← orAnswer .conflict (hosted (utcNow x.world))
  match (s.offers.lookup nodeId).filter fun offer => decide (now < offer.expiresAt) with
  | none => Handler.fail (.conflict, .noOffer)
  | some offer =>
    match offer.meshEndpoint with
    | none => Handler.fail (.conflict, .noMeshEndpoint)
    | some record => do
      orAnswer .conflict (hosted (Controller.endpointAddrFromRecord x.config x.world record))
      pure (offer, record)

/-- The body of `POST /v1/artifacts/replicate`. -/
structure ArtifactReplicateRequest where
  digest : String
  nodeId : Uuid
  mediaType : String
  storageClass : StorageClass

/-- The answer while the kill latch is set. -/
def refuseWhileKilled : Answering P Unit := do
  let s ← Handler.get
  ensure (s.killLatch = false) (.locked, .killLatch)

/-- `replicate_artifact`. -/
def replicateArtifact (request : ArtifactReplicateRequest) : Answering P ReplicationOutcome := do
  refuseWhileKilled
  let source ← orAnswer .notFound (readStore (Storage.head x.cas request.digest))
  ensure (request.mediaType = source.mediaType) (.badRequest, .mediaTypeMismatch)
  let target ← remoteOffer x request.nodeId
  let outcome ← orAnswer .badGateway (replicateToOffer x peer target.1 target.2 source request.storageClass)
  Handler.modify (recordReplica outcome.artifact request.nodeId outcome.receipt)
  orAnswer .internalServerError
    (hosted (Controller.append x.world (.artifactHeld .replicated outcome.artifact request.nodeId)))
  return outcome

/-! ## Probing -/

/-- `probe_replica`. -/
def probeReplica (offer : ResourceOfferV1) (artifact : ArtifactRefV1) : Transfer P ArtifactReplicaReceiptV1 :=
  match offer.meshEndpoint with
  | none => Handler.fail .noEndpoint
  | some record => do
    hosted (Controller.endpointAddrFromRecord x.config x.world record)
    let lease ← authorizeStorage x offer artifact.digest artifact.sizeBytes artifact.storageClass .get
    recordLease x lease
    let sessionId := artifactTransferSessionId x.cas offer.nodeId artifact.digest .get
    let challengeNonce ← hosted (newText x.world)
    let requestId ← hosted (newUuid x.world)
    let found ← onMesh (artifactHead peer (exchangeContext record lease artifact.mediaType sessionId challengeNonce) requestId)
    ensure (sameContract artifact artifact.storageClass found.1) .probeMismatch
    verifyReplicaEvidence x offer lease sessionId challengeNonce found.2
    return found.2

/-! ## Retrieving -/

/-- The body of `POST /v1/artifacts/retrieve`. -/
structure ArtifactRetrieveRequest where
  digest : String
  nodeId : Uuid

/-- The replicas a class requires. -/
def requiredReplicas : StorageClass → Nat
  | .«protected» => 2
  | _ => 1

/-- `retrieval_sink_contract`. -/
def retrievalSinkContract (remote : ArtifactRefV1) : Option ArtifactRefV1 → Except ReplicationError (StorageClass × Nat)
  | some found =>
    if found.digest ≠ remote.digest ∨ found.sizeBytes ≠ remote.sizeBytes ∨ found.mediaType ≠ remote.mediaType ∨
        found.encrypted = false then .error .sinkConflict
    else .ok (found.storageClass, requiredReplicas found.storageClass)
  | none => .ok (remote.storageClass, requiredReplicas remote.storageClass)

/-- The transfer into the controller's own store, under a lease. -/
def sinkSpec (sessionId : Uuid) (remote : ArtifactRefV1) (sink : StorageClass × Nat) (lease : StorageLeaseV1) : ResumablePutSpec where
  sessionId := simple sessionId
  leaseId := simple lease.leaseId
  authorityScope := "governor"
  fencingEpoch := lease.fencingEpoch
  authorityNonce := lease.nonce
  expiresAt := lease.expiresAt
  digest := remote.digest
  sizeBytes := remote.sizeBytes
  mediaType := remote.mediaType
  storageClass := sink.1
  requiredReplicas := sink.2
  chunkSize := artifactTransferChunkBytes

/-- `begin_resumable_put` on the controller's store. -/
def beginSink (spec : ResumablePutSpec) : Transfer P Storage.ResumablePutStatus := do
  let now ← hosted (utcNow x.world)
  onStore (Storage.beginResumablePut x.cas now spec)

/-- A nonce of the store. -/
def drawNonce : Transfer P Nonce := fun s => (.ok (x.nonce s.nonces), { s with nonces := s.nonces + 1 })

/-- `put_resumable_chunk` on the controller's store. -/
def putSinkChunk (sessionId : String) (index : Nat) (digest : String) (chunk : Bytes) : Transfer P Storage.ResumablePutStatus := do
  let now ← hosted (utcNow x.world)
  let nonce ← drawNonce x
  onStore (Storage.putResumableChunk x.cas now nonce sessionId index digest chunk)

/-- `commit_resumable_put` on the controller's store. -/
def commitSink (sessionId : String) : Transfer P ArtifactRefV1 := do
  let now ← hosted (utcNow x.world)
  let createdAt ← hosted (utcNow x.world)
  onStore (Storage.commitResumablePut x.cas now createdAt sessionId)

/-- A lease to read the replica, on record. -/
def leaseToRead (offer : ResourceOfferV1) (remote : ArtifactRefV1) : Answering P StorageLeaseV1 := do
  let lease ← orAnswer .forbidden
    (authorizeStorage x offer remote.digest remote.sizeBytes remote.storageClass .get)
  orAnswer .internalServerError (recordLease x lease)
  return lease

/-- One chunk of `retrieve_artifact`, under a lease. -/
def fetchChunk (endpoint : MeshEndpointRecordV1) (remote : ArtifactRefV1) (sink : StorageClass × Nat) (sessionId : Uuid)
    (lease : StorageLeaseV1) (index : Nat) : Answering P Unit := do
  let nonce ← orAnswer .badGateway (hosted (newText x.world))
  let requestId ← orAnswer .badGateway (hosted (newUuid x.world))
  let chunk ← orAnswer .badGateway
    (onMesh (artifactGetChunk peer (exchangeContext endpoint lease remote.mediaType sessionId nonce) requestId index))
  ensure (sameContract remote remote.storageClass chunk.1) (.badGateway, .chunkContract)
  let _ ← orAnswer .internalServerError (beginSink x (sinkSpec sessionId remote sink lease))
  let _ ← orAnswer .internalServerError (putSinkChunk x (simple sessionId) index chunk.2.1 chunk.2.2)

/-- The chunks after the first, each under a lease of its own. -/
def fetchUnderNewLease (offer : ResourceOfferV1) (endpoint : MeshEndpointRecordV1) (remote : ArtifactRefV1)
    (sink : StorageClass × Nat) (sessionId : Uuid) (index : Nat) : Answering P Unit := do
  let lease ← leaseToRead x offer remote
  fetchChunk x peer endpoint remote sink sessionId lease index

/-- The loop of `retrieve_artifact`: the first chunk is fetched under the lease the transfer was begun with. -/
def fetchChunks (offer : ResourceOfferV1) (endpoint : MeshEndpointRecordV1) (remote : ArtifactRefV1)
    (sink : StorageClass × Nat) (sessionId : Uuid) (lease : StorageLeaseV1) : List Nat → Answering P Unit
  | [] => pure ()
  | index :: rest => do
    fetchChunk x peer endpoint remote sink sessionId lease index
    Handler.forEach (fetchUnderNewLease x peer offer endpoint remote sink sessionId) rest

/-- The answer of `retrieve_artifact`. -/
structure ArtifactPayload where
  artifact : ArtifactRefV1
  nodeId : Uuid
  transferSessionId : Uuid
  resumedChunks : Nat
  dataBase64 : List Char
deriving DecidableEq

/-- `state.artifact_store.head(..).ok()`. -/
def localContract (digest : String) : Answering P (Option ArtifactRefV1) := fun s =>
  (.ok (Storage.head x.cas digest s.artifactStore).toOption, s)

/-- `retrieve_artifact` once the replica and the offer are found. -/
def retrieveFrom (offer : ResourceOfferV1) (endpoint : MeshEndpointRecordV1) (remote : ArtifactRefV1) (nodeId : Uuid) :
    Answering P ArtifactPayload := do
  let found ← localContract x remote.digest
  let sink ← orAnswer .conflict (Handler.ofExcept (retrievalSinkContract remote found))
  let sessionId := artifactTransferSessionId x.cas nodeId remote.digest .get
  let lease ← leaseToRead x offer remote
  let progress ← orAnswer .internalServerError (beginSink x (sinkSpec sessionId remote sink lease))
  fetchChunks x peer offer endpoint remote sink sessionId lease progress.missingChunks
  let stored ← orAnswer .internalServerError (commitSink x (simple sessionId))
  ensure (stored.digest = remote.digest) (.badGateway, .contentAddress)
  let receipt ← orAnswer .badGateway (probeReplica x peer offer remote)
  Handler.modify fun s => { s with replicaEvidence := s.replicaEvidence.insert (remote.digest, nodeId) receipt }
  let payload ← orAnswer .internalServerError (readStore (Storage.get x.cas stored.digest))
  orAnswer .internalServerError
    (hosted (Controller.append x.world (.other "artifact.retrieved" (.text stored.digest))))
  return ⟨stored, nodeId, sessionId, progress.receivedChunks.length, Base64.encode payload⟩

/-- `retrieve_artifact`. -/
def retrieveArtifact (request : ArtifactRetrieveRequest) : Answering P ArtifactPayload := do
  refuseWhileKilled
  let s ← Handler.get
  match s.artifactReplicas.lookup (request.digest, request.nodeId) with
  | none => Handler.fail (.notFound, .noReplica)
  | some remote => do
    let target ← remoteOffer x request.nodeId
    retrieveFrom x peer target.1 target.2 remote request.nodeId

end Rampage.Replication
