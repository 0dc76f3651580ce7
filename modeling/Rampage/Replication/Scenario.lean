/-
A controller with one enrolled node that advertises an endpoint, on which the results on transfers are tried. The artifact
is the byte 1; SHA-256 has its real values on what is hashed for it.
-/
import Rampage.Controller.Scenario
import Rampage.Replication.Transfer
import Rampage.Storage.Scenario

namespace Rampage.Replication.Scenario

open Rampage.Protocol Rampage.Mesh
open Rampage.Controller (Config World)
open Rampage.Storage.Scenario (fit length_fit)

/-- The digest of the byte 1. -/
def digest : String := "sha256:4bf5122f344554c53bde2ebb8cd2b7e3d1600ad631c385a5d7cce23c7785459a"

/-- What the id of a transfer with the node is the hash of, up to its direction. -/
def binding : Storage.Bytes :=
  utf8 "rampage.artifact-transfer-session.v1" ++ 0 :: ((77 : Uuid).toBytes ++ 0 :: utf8 digest)

/-- SHA-256 of the bindings to the two directions. -/
def digests : List (Storage.Bytes × Storage.Bytes) :=
  [(binding ++ 0 :: utf8 "put",
      [226, 220, 207, 235, 95, 50, 116, 110, 84, 221, 67, 184, 88, 126, 6, 204,
      111, 252, 146, 53, 206, 115, 145, 64, 127, 170, 230, 128, 166, 57, 159, 235]),
    (binding ++ 0 :: utf8 "get",
      [58, 103, 161, 167, 169, 58, 132, 245, 236, 178, 74, 3, 211, 181, 38, 121,
      216, 157, 206, 121, 117, 170, 191, 199, 224, 235, 180, 141, 29, 160, 7, 151])]

/-- The store's primitives, with this digest too. -/
def cas : Storage.CasStore where
  sha256 := fun b => fit 32 (((digests ++ Storage.Scenario.digests).lookup b).getD b)
  sha256_length := fun _ => length_fit 32 _
  encrypt := Storage.Scenario.cas.encrypt
  decrypt := Storage.Scenario.cas.decrypt
  decrypt_encrypt := Storage.Scenario.cas.decrypt_encrypt
  encrypt_length := Storage.Scenario.cas.encrypt_length
  manifestSize := Storage.Scenario.cas.manifestSize
  limits := none

/-- The example's controller, to which every endpoint is well formed. -/
def config : Config := { Controller.Scenario.config with endpointIsWellFormed := fun _ => true }

/-- Every text is drawn once. -/
def world : World :=
  { Controller.Scenario.world with text := fun n => String.ofList (List.replicate (n + 1) 'a') }

theorem world_text_injective : Function.Injective world.text := by
  intro m n h
  have hlength := congrArg String.length h
  simp only [world, String.length_ofList, List.length_replicate] at hlength
  omega

/-- Every signature passes. -/
def setting : Setting := ⟨config, world, cas, fun n => Storage.Scenario.nonce (UInt8.ofNat n), fun _ _ => true⟩

/-- Where the node is reached. -/
def endpoint : MeshEndpointRecordV1 where
  schema := "rampage.mesh-endpoint.v1"
  endpointId := "0000000000000000000000000000000000000000000000000000000000000000"
  directAddresses := ["192.0.2.1:4433"]
  relayUrls := []
  issuedAt := 0
  expiresAt := seconds 1000
  signature := "signature"

/-- The node's offer, with this endpoint. -/
def offer : ResourceOfferV1 :=
  { Controller.Scenario.offer with meshEndpoint := some endpoint }

/-- The one byte, as an artifact of the cache. -/
def artifact : ArtifactRefV1 := ⟨"rampage.artifact-ref.v1", digest, 1, "application/octet-stream", .cache, true⟩

/-- A controller that knows the node, its offer and its replica. -/
def start {P : Type} (p : P) : Replicator P where
  toHost := { Controller.Scenario.start with
    nodes := (∅ : Table Uuid NodeIdentityV1).insert 77 Controller.Scenario.identity
    offers := (∅ : Table Uuid ResourceOfferV1).insert 77 offer
    artifactReplicas := (∅ : Table (String × Uuid) ArtifactRefV1).insert (digest, 77) artifact }
  artifactStore := Storage.Store.empty
  replicaEvidence := ∅
  peer := p
  nonces := 0
  accepted := []

/-- The receipt of a node for what it was asked. -/
def receipt (request : ArtifactTransferRequestV2) : ArtifactReplicaReceiptV1 where
  schema := ArtifactReplicaReceiptV1.schemaName
  receiptId := request.requestId
  sessionId := request.sessionId
  leaseId := request.lease.leaseId
  nodeId := request.lease.nodeId
  digest := request.lease.digest
  sizeBytes := request.lease.sizeBytes
  storageClass := request.lease.storageClass
  challengeNonce := request.challengeNonce
  verifiedAt := request.lease.issuedAt
  expiresAt := request.lease.issuedAt + minutes 15
  fencingEpoch := request.lease.fencingEpoch
  signature := "signature"

/-- A worker that answers every request with the receipt for the first one. -/
def replaying : Peer (Option ArtifactReplicaReceiptV1) := fun _ request _ first =>
  let r := first.getD (receipt request)
  (some (⟨ArtifactTransferResponseV2.schemaName, request.requestId, 200, some artifact, none, none, none, 0, some r, none⟩, []),
    some r)

/-- A worker that holds the byte. -/
def serving : Peer Unit := fun _ request _ _ =>
  match request.action with
  | .getChunk => (some (⟨ArtifactTransferResponseV2.schemaName, request.requestId, 200, some artifact, none, request.chunkIndex,
      some digest, 1, none, none⟩, [1]), ())
  | .head => (some (⟨ArtifactTransferResponseV2.schemaName, request.requestId, 200, some artifact, none, none, none, 0,
      some (receipt request), none⟩, []), ())
  | _ => (none, ())

end Rampage.Replication.Scenario
