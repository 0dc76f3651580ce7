/-
The Governor's storage authority: `authorize_storage_at_epoch` mints the lease under which one
artifact is transferred.
-/
import Rampage.Governor.Check
import Rampage.Protocol.Storage

namespace Rampage.Governor

open Rampage.Protocol

/-- The resource class a stored artifact is charged to. -/
def storageResource : StorageClass → ResourceClass
  | .cache => .storageCache
  | .scratch => .storageScratch
  | .«protected» => .protectedStore

/-- `Governor::authorize_storage_at_epoch`, at the clock reading `now` and with the generated lease id
and nonce. -/
def authorizeStorageAtEpoch (config : GovernorConfig) (sign : StorageLeaseV1 → String) (offer : ResourceOfferV1)
    (digest : String) (sizeBytes : Nat) (storageClass : StorageClass) (operation : ArtifactTransferOperation)
    (fencingEpoch : Nat) (now : Int) (leaseId : Uuid) (nonce : String) : Except Denial StorageLeaseV1 :=
  if config.killed then .error .killLatch
  else if offer.expiresAt ≤ now then .error .offerExpired
  else if isSha256Digest digest = false ∨ maxArtifactTransferBytes < sizeBytes then .error .invalidArtifact
  else if operation = .put ∧ offer.resources.all (fun r =>
      r.cls != storageResource storageClass || r.available < sizeBytes) then .error .storageCapacityDenied
  else
    let lease : StorageLeaseV1 :=
      { schema := StorageLeaseV1.schemaName
        leaseId := leaseId
        nodeId := offer.nodeId
        digest := digest
        operation := operation
        storageClass := storageClass
        sizeBytes := sizeBytes
        issuedAt := now
        expiresAt := now + seconds (max config.leaseTtlSeconds 1)
        nonce := nonce
        fencingEpoch := fencingEpoch
        signature := "" }
    .ok { lease with signature := sign lease }

end Rampage.Governor
