/-
Storage leases, the authority to move one artifact to or from one node, and the requests, receipts and progress
reports of artifact transfers (version 2).
-/
import Rampage.Protocol.Contracts

namespace Rampage.Protocol

/-- A storage lease lets the controller put an artifact on a node or get it. -/
inductive ArtifactTransferOperation
  | put | get
deriving DecidableEq

/-- What the Governor grants for one artifact on one node. -/
structure StorageLeaseV1 where
  schema : String
  leaseId : Uuid
  nodeId : Uuid
  digest : String
  operation : ArtifactTransferOperation
  storageClass : StorageClass
  sizeBytes : Nat
  issuedAt : Int
  expiresAt : Int
  nonce : String
  fencingEpoch : Nat
  signature : String
deriving DecidableEq

/-- `StorageLeaseV1::SCHEMA`. -/
def StorageLeaseV1.schemaName : String := "rampage.storage-lease.v1"

/-- `StorageLeaseV1::is_active_at`. -/
def StorageLeaseV1.isActiveAt (lease : StorageLeaseV1) (now : Int) (currentEpoch : Nat) : Bool :=
  lease.schema == schemaName && leaseHasStarted lease.issuedAt now && now < lease.expiresAt &&
    lease.fencingEpoch == currentEpoch && lease.sizeBytes ≤ maxArtifactTransferBytes && lease.signature != ""

/-! ## Transfers -/

/-- What a request of a transfer asks for. -/
inductive ArtifactTransferActionV2
  | begin | status | putChunk | commit | getChunk | head
deriving DecidableEq

/-- The chunk every transfer is cut into, in bytes. -/
def artifactTransferChunkBytes : Nat := 4 * 1024 * 1024

/-- A request of a transfer, with the lease it rests on. -/
structure ArtifactTransferRequestV2 where
  schema : String
  requestId : Uuid
  sessionId : Uuid
  lease : StorageLeaseV1
  mediaType : String
  action : ArtifactTransferActionV2
  chunkSize : Nat
  chunkIndex : Option Nat
  chunkDigest : Option String
  payloadSize : Nat
  challengeNonce : String
deriving DecidableEq

/-- `ArtifactTransferRequestV2::SCHEMA`. -/
def ArtifactTransferRequestV2.schemaName : String := "rampage.artifact-transfer-request.v2"

/-- `expected_artifact_chunk_size`. -/
def expectedArtifactChunkSize (sizeBytes chunkSize chunkIndex : Nat) : Option Nat :=
  if sizeBytes = 0 ∨ chunkSize = 0 then none
  else if 2 ^ 64 ≤ chunkIndex * chunkSize then none
  else if sizeBytes ≤ chunkIndex * chunkSize then none
  else some (min (sizeBytes - chunkIndex * chunkSize) chunkSize)

/-- `ArtifactTransferRequestV2::is_valid`. -/
def ArtifactTransferRequestV2.isValid (r : ArtifactTransferRequestV2) : Bool :=
  if r.schema ≠ schemaName ∨ r.requestId = 0 ∨ r.sessionId = 0 ∨ r.lease.schema ≠ StorageLeaseV1.schemaName ∨
      r.lease.sizeBytes = 0 ∨ maxArtifactTransferBytes < r.lease.sizeBytes ∨ r.mediaType = "" ∨
      255 < r.mediaType.utf8ByteSize ∨ isAscii r.mediaType = false ∨ r.chunkSize ≠ artifactTransferChunkBytes ∨
      r.challengeNonce = "" ∨ 128 < r.challengeNonce.utf8ByteSize ∨ isAscii r.challengeNonce = false then false
  else
    let chunkCount := (r.lease.sizeBytes + r.chunkSize - 1) / r.chunkSize
    let bare := r.chunkIndex.isNone && r.chunkDigest.isNone && r.payloadSize == 0
    match r.action with
    | .begin | .status | .commit => r.lease.operation = .put && bare
    | .head => r.lease.operation = .get && bare
    | .putChunk =>
      r.lease.operation = .put && r.chunkIndex.any (· < chunkCount) && r.chunkDigest.any isSha256Digest &&
        r.payloadSize == (expectedArtifactChunkSize r.lease.sizeBytes r.chunkSize (r.chunkIndex.getD 0)).getD 0
    | .getChunk =>
      r.lease.operation = .get && r.chunkIndex.any (· < chunkCount) && r.chunkDigest.isNone && r.payloadSize == 0

/-- What the worker has of a transfer and what it lacks. -/
structure ArtifactTransferProgressV1 where
  schema : String
  sessionId : Uuid
  digest : String
  sizeBytes : Nat
  chunkSize : Nat
  chunkCount : Nat
  receivedChunks : List Nat
  missingChunks : List Nat
  complete : Bool
deriving DecidableEq

/-- `ArtifactTransferProgressV1::SCHEMA`. -/
def ArtifactTransferProgressV1.schemaName : String := "rampage.artifact-transfer-progress.v1"

/-- A node's proof that it holds an artifact, in answer to a challenge. -/
structure ArtifactReplicaReceiptV1 where
  schema : String
  receiptId : Uuid
  sessionId : Uuid
  leaseId : Uuid
  nodeId : Uuid
  digest : String
  sizeBytes : Nat
  storageClass : StorageClass
  challengeNonce : String
  verifiedAt : Int
  expiresAt : Int
  fencingEpoch : Nat
  signature : String
deriving DecidableEq

/-- `ArtifactReplicaReceiptV1::SCHEMA`. -/
def ArtifactReplicaReceiptV1.schemaName : String := "rampage.artifact-replica-receipt.v1"

/-- `ArtifactReplicaReceiptV1::is_valid_at`. -/
def ArtifactReplicaReceiptV1.isValidAt (r : ArtifactReplicaReceiptV1) (now : Int) : Bool :=
  r.schema == schemaName && r.receiptId != 0 && r.sessionId != 0 && r.leaseId != 0 && r.nodeId != 0 &&
    isSha256Digest r.digest && decide (0 < r.sizeBytes) && r.sizeBytes ≤ maxArtifactTransferBytes &&
    r.challengeNonce != "" && r.challengeNonce.utf8ByteSize ≤ 128 && isAscii r.challengeNonce &&
    r.verifiedAt ≤ now && decide (now < r.expiresAt) && r.expiresAt - r.verifiedAt ≤ minutes 15 && r.signature != ""

end Rampage.Protocol
