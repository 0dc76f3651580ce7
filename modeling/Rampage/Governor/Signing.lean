/-
What the Governor's key signs: five kinds of lease, the controller's route and the relay's manifest, each as the digest of
its JSON with the signature blanked (`contract_message`), and the checkpoints of the ledger. Nothing but the JSON says which
kind a contract is of, and nothing but its length keeps a checkpoint from being read as a contract.
`accepted_was_granted`: whatever is presented to the verifiers, if one accepts it then an operation of the Governor of that
very kind has granted it with exactly these fields, unless a signature was forged or two texts share a digest.
-/
import Mathlib
import Rampage.Governor.Model
import Rampage.Governor.Promotion
import Rampage.Governor.Relay
import Rampage.Governor.Remote
import Rampage.Governor.Storage
import Rampage.Ledger.Checkpoint

namespace Rampage.Protocol

/-! ## The JSON of the contracts -/

/-- The name serde writes for it. -/
def ResourceClass.text : ResourceClass → String
  | .cpuCompute => "cpu_compute"
  | .gpuCompute => "gpu_compute"
  | .npuCompute => "npu_compute"
  | .gpuMemory => "gpu_memory"
  | .ramWorkingSet => "ram_working_set"
  | .ramCache => "ram_cache"
  | .storageCache => "storage_cache"
  | .storageScratch => "storage_scratch"
  | .protectedStore => "protected_store"
  | .networkFetch => "network_fetch"
  | .networkRelay => "network_relay"
  | .toolchain => "toolchain"
  | .runtime => "runtime"
  | .codec => "codec"
  | .licensedService => "licensed_service"

/-- The name serde writes for it. -/
def StorageClass.text : StorageClass → String
  | .cache => "cache"
  | .scratch => "scratch"
  | .«protected» => "protected"

/-- The name serde writes for it. -/
def ArtifactTransferOperation.text : ArtifactTransferOperation → String
  | .put => "put"
  | .get => "get"

/-- The name serde writes for it. -/
def PromotionRiskV1.text : PromotionRiskV1 → String
  | .r0Configuration => "r0_configuration"
  | .r1AllowlistedSource => "r1_allowlisted_source"
  | .r2ProtectedChange => "r2_protected_change"
  | .r3AuthorityCritical => "r3_authority_critical"

/-- A list of texts in JSON. -/
def textsJson (l : List String) : Json := .arr (l.map .str)

/-- The elements of a set in order, as a `BTreeSet` has them. -/
def ascending {α : Type} [LinearOrder α] (s : Finset α) : List α := s.sort

/-- A set of texts in JSON. -/
def textSetJson (s : Finset String) : Json := textsJson (ascending s)

/-- The fields as serde writes them; the labels are an object in the order of their keys. -/
def ResourceQuantityV1.toJson (r : ResourceQuantityV1) : Json :=
  .obj [("class", .str r.cls.text), ("capacity", jsonNat r.capacity), ("available", jsonNat r.available),
    ("unit", .str r.unit), ("labels", .obj (r.labels.map fun e => (e.1, .str e.2)))]

section

variable (texts : ModelTexts)

/-- The fields as serde writes them, the signature among them. -/
def CapabilityLeaseV1.toJson (l : CapabilityLeaseV1) : Json :=
  .obj [("schema", .str l.schema), ("lease_id", Uuid.toJson l.leaseId), ("job_id", Uuid.toJson l.jobId),
    ("node_id", Uuid.toJson l.nodeId), ("project_id", Uuid.toJson l.projectId), ("adapter", .str l.adapter),
    ("operation", .str l.operation), ("input_digests", textSetJson l.inputDigests),
    ("granted", .arr (l.granted.map ResourceQuantityV1.toJson)), ("network_allowlist", textSetJson l.networkAllowlist),
    ("issued_at", .str (texts.timeText l.issuedAt)), ("expires_at", .str (texts.timeText l.expiresAt)),
    ("nonce", .str l.nonce), ("fencing_epoch", jsonNat l.fencingEpoch), ("signature", .str l.signature)]

/-- The fields as serde writes them, the signature among them. -/
def StorageLeaseV1.toJson (l : StorageLeaseV1) : Json :=
  .obj [("schema", .str l.schema), ("lease_id", Uuid.toJson l.leaseId), ("node_id", Uuid.toJson l.nodeId),
    ("digest", .str l.digest), ("operation", .str l.operation.text), ("storage_class", .str l.storageClass.text),
    ("size_bytes", jsonNat l.sizeBytes), ("issued_at", .str (texts.timeText l.issuedAt)),
    ("expires_at", .str (texts.timeText l.expiresAt)), ("nonce", .str l.nonce),
    ("fencing_epoch", jsonNat l.fencingEpoch), ("signature", .str l.signature)]

/-- The fields as serde writes them, the signature among them. -/
def PromotionCanaryLeaseV1.toJson (l : PromotionCanaryLeaseV1) : Json :=
  .obj [("schema", .str l.schema), ("canary_id", Uuid.toJson l.canaryId), ("proposal_id", Uuid.toJson l.proposalId),
    ("project_id", Uuid.toJson l.projectId), ("candidate_digest", .str l.candidateDigest), ("risk", .str l.risk.text),
    ("max_traffic_basis_points", jsonNat l.maxTrafficBasisPoints),
    ("max_error_regression_basis_points", jsonNat l.maxErrorRegressionBasisPoints),
    ("max_latency_regression_basis_points", jsonNat l.maxLatencyRegressionBasisPoints),
    ("max_cost_regression_basis_points", jsonNat l.maxCostRegressionBasisPoints),
    ("issued_at", .str (texts.timeText l.issuedAt)), ("expires_at", .str (texts.timeText l.expiresAt)),
    ("nonce", .str l.nonce), ("fencing_epoch", jsonNat l.fencingEpoch), ("signature", .str l.signature)]

/-- The fields as serde writes them, the signature among them. -/
def MeshEndpointRecordV1.toJson (r : MeshEndpointRecordV1) : Json :=
  .obj [("schema", .str r.schema), ("endpoint_id", .str r.endpointId), ("direct_addresses", textsJson r.directAddresses),
    ("relay_urls", textsJson r.relayUrls), ("issued_at", .str (texts.timeText r.issuedAt)),
    ("expires_at", .str (texts.timeText r.expiresAt)), ("signature", .str r.signature)]

/-- The fields as serde writes them, the signature among them. -/
def RelayAccessManifestV1.toJson (m : RelayAccessManifestV1) : Json :=
  .obj [("schema", .str m.schema), ("fabric_id", .str m.fabricId), ("generation", jsonNat m.generation),
    ("allowed_endpoint_ids", textSetJson m.allowedEndpointIds), ("issued_at", .str (texts.timeText m.issuedAt)),
    ("expires_at", .str (texts.timeText m.expiresAt)), ("signature", .str m.signature)]

end

/-- `MeshEndpointRecordV1::SCHEMA`. -/
def MeshEndpointRecordV1.schemaName : String := "rampage.mesh-endpoint.v1"

/-! ## The JSON determines the contract -/

theorem ResourceClass.text_inj {a b : ResourceClass} : a.text = b.text ↔ a = b := by
  cases a <;> cases b <;> decide

theorem StorageClass.text_inj {a b : StorageClass} : a.text = b.text ↔ a = b := by
  cases a <;> cases b <;> decide

theorem ArtifactTransferOperation.text_inj {a b : ArtifactTransferOperation} : a.text = b.text ↔ a = b := by
  cases a <;> cases b <;> decide

theorem PromotionRiskV1.text_inj {a b : PromotionRiskV1} : a.text = b.text ↔ a = b := by
  cases a <;> cases b <;> decide

theorem textsJson_inj {l l' : List String} : textsJson l = textsJson l' ↔ l = l' := by
  have hstr : Function.Injective Json.str := fun _ _ h => Json.str.inj h
  rw [textsJson, textsJson, Json.arr.injEq, (List.map_injective_iff.2 hstr).eq_iff]

theorem textSetJson_inj {s s' : Finset String} : textSetJson s = textSetJson s' ↔ s = s' := by
  rw [textSetJson, textSetJson, textsJson_inj]
  constructor
  · intro h
    have := congrArg List.toFinset h
    rwa [ascending, ascending, Finset.sort_toFinset, Finset.sort_toFinset] at this
  · exact fun h => by rw [h]

theorem quantityJson_inj : Function.Injective ResourceQuantityV1.toJson := by
  rintro ⟨c, n, a, u, labels⟩ ⟨c', n', a', u', labels'⟩ h
  have hentry : Function.Injective fun e : String × String => (e.1, Json.str e.2) := by
    rintro ⟨k, v⟩ ⟨k', v'⟩ h
    simpa using h
  simpa [ResourceQuantityV1.toJson, ResourceClass.text_inj, jsonNat_inj, (List.map_injective_iff.2 hentry).eq_iff] using h

section

variable {texts : ModelTexts} (htime : Function.Injective texts.timeText)
include htime

theorem capabilityLeaseJson_inj : Function.Injective (CapabilityLeaseV1.toJson texts) := by
  intro a b h
  obtain ⟨⟩ := a
  obtain ⟨⟩ := b
  simpa [CapabilityLeaseV1.toJson, uuidJson_inj, jsonNat_inj, textSetJson_inj,
    (List.map_injective_iff.2 quantityJson_inj).eq_iff, htime.eq_iff] using h

theorem storageLeaseJson_inj : Function.Injective (StorageLeaseV1.toJson texts) := by
  intro a b h
  obtain ⟨⟩ := a
  obtain ⟨⟩ := b
  simpa [StorageLeaseV1.toJson, uuidJson_inj, jsonNat_inj, ArtifactTransferOperation.text_inj, StorageClass.text_inj,
    htime.eq_iff] using h

theorem promotionCanaryJson_inj : Function.Injective (PromotionCanaryLeaseV1.toJson texts) := by
  intro a b h
  obtain ⟨⟩ := a
  obtain ⟨⟩ := b
  simpa [PromotionCanaryLeaseV1.toJson, uuidJson_inj, jsonNat_inj, PromotionRiskV1.text_inj, htime.eq_iff] using h

theorem meshEndpointJson_inj : Function.Injective (MeshEndpointRecordV1.toJson texts) := by
  intro a b h
  obtain ⟨⟩ := a
  obtain ⟨⟩ := b
  simpa [MeshEndpointRecordV1.toJson, textsJson_inj, htime.eq_iff] using h

theorem relayAccessJson_inj : Function.Injective (RelayAccessManifestV1.toJson texts) := by
  intro a b h
  obtain ⟨⟩ := a
  obtain ⟨⟩ := b
  simpa [RelayAccessManifestV1.toJson, jsonNat_inj, textSetJson_inj, htime.eq_iff] using h

end

/-- The keys of an object, in order. -/
def Json.keys : Json → List String
  | .obj entries => entries.map (·.1)
  | _ => []

end Rampage.Protocol

namespace Rampage.Governor

open Rampage.Protocol

/-- The name serde writes for it. -/
def RemoteDesktopModeV1.text : RemoteDesktopModeV1 → String
  | .view => "view"
  | .control => "control"

/-- The fields as serde writes them, the signature among them. -/
def RemoteDesktopLeaseV1.toJson (texts : ModelTexts) (l : RemoteDesktopLeaseV1) : Json :=
  .obj [("schema", .str l.schema), ("lease_id", Uuid.toJson l.leaseId), ("session_id", Uuid.toJson l.sessionId),
    ("node_id", Uuid.toJson l.nodeId), ("controller_endpoint_id", .str l.controllerEndpointId),
    ("mode", .str l.mode.text), ("max_width", jsonNat l.maxWidth), ("max_height", jsonNat l.maxHeight),
    ("max_fps", jsonNat l.maxFps), ("issued_at", .str (texts.timeText l.issuedAt)),
    ("expires_at", .str (texts.timeText l.expiresAt)), ("nonce", .str l.nonce),
    ("fencing_epoch", jsonNat l.fencingEpoch), ("signature", .str l.signature)]

theorem RemoteDesktopModeV1.text_inj {a b : RemoteDesktopModeV1} : a.text = b.text ↔ a = b := by
  cases a <;> cases b <;> decide

theorem remoteDesktopLeaseJson_inj {texts : ModelTexts} (htime : Function.Injective texts.timeText) :
    Function.Injective (RemoteDesktopLeaseV1.toJson texts) := by
  intro a b h
  obtain ⟨⟩ := a
  obtain ⟨⟩ := b
  simpa [RemoteDesktopLeaseV1.toJson, uuidJson_inj, jsonNat_inj, RemoteDesktopModeV1.text_inj, htime.eq_iff] using h

/-! ## Contracts -/

/-- A contract of one of the kinds the Governor signs. -/
inductive Contract
  | capabilityLease (lease : CapabilityLeaseV1)
  | storageLease (lease : StorageLeaseV1)
  | modelSessionLease (lease : ModelSessionLeaseV1)
  | remoteDesktopLease (lease : RemoteDesktopLeaseV1)
  | promotionCanary (lease : PromotionCanaryLeaseV1)
  | meshEndpoint (endpoint : MeshEndpointRecordV1)
  | relayAccess (manifest : RelayAccessManifestV1)
deriving DecidableEq

namespace Contract

/-- What stands in the signature field of the contract. -/
def signature : Contract → String
  | .capabilityLease l => l.signature
  | .storageLease l => l.signature
  | .modelSessionLease l => l.signature
  | .remoteDesktopLease l => l.signature
  | .promotionCanary l => l.signature
  | .meshEndpoint r => r.signature
  | .relayAccess m => m.signature

/-- The contract with its signature blanked. -/
def unsigned : Contract → Contract
  | .capabilityLease l => .capabilityLease { l with signature := "" }
  | .storageLease l => .storageLease { l with signature := "" }
  | .modelSessionLease l => .modelSessionLease { l with signature := "" }
  | .remoteDesktopLease l => .remoteDesktopLease { l with signature := "" }
  | .promotionCanary l => .promotionCanary { l with signature := "" }
  | .meshEndpoint r => .meshEndpoint { r with signature := "" }
  | .relayAccess m => .relayAccess { m with signature := "" }

/-- The contract as serde writes it. -/
def toJson (texts : ModelTexts) : Contract → Json
  | .capabilityLease l => l.toJson texts
  | .storageLease l => l.toJson texts
  | .modelSessionLease l => l.toJson texts
  | .remoteDesktopLease l => l.toJson texts
  | .promotionCanary l => l.toJson texts
  | .meshEndpoint r => r.toJson texts
  | .relayAccess m => m.toJson texts

end Contract

/-- Contracts with the same JSON are of one kind and have the same fields. -/
theorem Contract.toJson_injective {texts : ModelTexts} (htime : Function.Injective texts.timeText) :
    Function.Injective (Contract.toJson texts) := by
  intro a b h
  -- no two kinds have the same keys
  have hkeys : (a.toJson texts).keys = (b.toJson texts).keys := by rw [h]
  cases a <;> cases b <;> try exact absurd hkeys (of_decide_eq_false rfl)
  case capabilityLease.capabilityLease l l' => rw [capabilityLeaseJson_inj htime h]
  case storageLease.storageLease l l' => rw [storageLeaseJson_inj htime h]
  case modelSessionLease.modelSessionLease l l' => rw [leaseJson_inj htime h]
  case remoteDesktopLease.remoteDesktopLease l l' => rw [remoteDesktopLeaseJson_inj htime h]
  case promotionCanary.promotionCanary l l' => rw [promotionCanaryJson_inj htime h]
  case meshEndpoint.meshEndpoint r r' => rw [meshEndpointJson_inj htime h]
  case relayAccess.relayAccess m m' => rw [relayAccessJson_inj htime h]

/-! ## Signing and verifying -/

/-- SHA-256, the Governor's Ed25519 key and serde's texts. -/
structure SigningCrates extends ModelTexts where
  sha256 : List UInt8 → { b : List UInt8 // b.length = 32 }
  sign : List UInt8 → { b : List UInt8 // b.length = 64 }
  verifyingKey : { b : List UInt8 // b.length = 32 }
  /-- `VerifyingKey::from_bytes` and `VerifyingKey::verify`, of a key, a message and a signature. -/
  verify : List UInt8 → List UInt8 → List UInt8 → Bool

section

variable (x : SigningCrates)

/-- The Governor's public key, as a worker pins it. -/
def SigningCrates.governorKey : String := Hex.encode x.verifyingKey.1

/-- The bytes of a contract that are hashed. -/
def Contract.bytes (c : Contract) : List UInt8 := (c.unsigned.toJson x.toModelTexts).toVec

/-- `contract_message`, of a contract whose signature is cleared. -/
def contractMessage (c : Contract) : List UInt8 := (x.sha256 (c.bytes x)).1

/-- `lease_message`: the bytes that the signature of a capability lease is over. -/
def leaseMessage (lease : CapabilityLeaseV1) : List UInt8 := contractMessage x (.capabilityLease lease)

/-- `storage_lease_message`. -/
def storageLeaseMessage (lease : StorageLeaseV1) : List UInt8 := contractMessage x (.storageLease lease)

/-- `model_session_lease_message`. -/
def modelSessionLeaseMessage (lease : ModelSessionLeaseV1) : List UInt8 := contractMessage x (.modelSessionLease lease)

/-- `remote_desktop_lease_message`. -/
def remoteDesktopLeaseMessage (lease : RemoteDesktopLeaseV1) : List UInt8 := contractMessage x (.remoteDesktopLease lease)

/-- `promotion_canary_message`. -/
def promotionCanaryMessage (lease : PromotionCanaryLeaseV1) : List UInt8 := contractMessage x (.promotionCanary lease)

/-- The signature of a message, as a contract carries it. -/
def signatureOf (message : List UInt8) : String := Hex.encode (x.sign message).1

/-- `verify_contract_signature`. -/
def verifyContractSignature (publicKey signature : String) (message : List UInt8) : Except Denial Unit :=
  match Hex.decode publicKey, Hex.decode signature with
  | some key, some bytes =>
    if key.length = 32 ∧ bytes.length = 64 ∧ x.verify key message bytes = true then .ok () else .error .invalidSignature
  | _, _ => .error .invalidSignature

/-- `verify_lease_with_key`. -/
def verifyLeaseWithKey (publicKey : String) (lease : CapabilityLeaseV1) : Except Denial Unit :=
  verifyContractSignature x publicKey lease.signature (leaseMessage x lease)

/-- `verify_storage_lease_with_key`. -/
def verifyStorageLeaseWithKey (publicKey : String) (lease : StorageLeaseV1) : Except Denial Unit :=
  verifyContractSignature x publicKey lease.signature (storageLeaseMessage x lease)

/-- `verify_model_session_lease_with_key`. -/
def verifyModelSessionLeaseWithKey (publicKey : String) (lease : ModelSessionLeaseV1) : Except Denial Unit :=
  verifyContractSignature x publicKey lease.signature (modelSessionLeaseMessage x lease)

/-- `verify_remote_desktop_lease_with_key`. -/
def verifyRemoteDesktopLeaseWithKey (publicKey : String) (lease : RemoteDesktopLeaseV1) : Except Denial Unit :=
  verifyContractSignature x publicKey lease.signature (remoteDesktopLeaseMessage x lease)

/-- `verify_promotion_canary_with_key`. -/
def verifyPromotionCanaryWithKey (publicKey : String) (lease : PromotionCanaryLeaseV1) : Except Denial Unit :=
  verifyContractSignature x publicKey lease.signature (promotionCanaryMessage x lease)

/-- `verify_pinned_mesh_endpoint_with_key`: a pinned route is checked whatever its age. -/
def verifyPinnedMeshEndpointWithKey (publicKey : String) (endpoint : MeshEndpointRecordV1) : Except Denial Unit :=
  if endpoint.schema ≠ MeshEndpointRecordV1.schemaName then .error .invalidSignature
  else verifyContractSignature x publicKey endpoint.signature (contractMessage x (.meshEndpoint endpoint))

/-- What the relay's manifest needs of them. -/
def SigningCrates.manifest : ManifestCrates where
  sha256 := x.sha256
  signManifest m := x.sign (contractMessage x (.relayAccess m))
  verifyManifest publicKey signature m :=
    (verifyContractSignature x publicKey signature (contractMessage x (.relayAccess m))).isOk

/-- The verifier of each kind. A route is verified as a pinned one is: `verify_mesh_endpoint_with_key` asks for its time
beside. -/
def Contract.verifyWithKey (publicKey : String) (now : Int) : Contract → Except Denial Unit
  | .capabilityLease l => verifyLeaseWithKey x publicKey l
  | .storageLease l => verifyStorageLeaseWithKey x publicKey l
  | .modelSessionLease l => verifyModelSessionLeaseWithKey x publicKey l
  | .remoteDesktopLease l => verifyRemoteDesktopLeaseWithKey x publicKey l
  | .promotionCanary l => verifyPromotionCanaryWithKey x publicKey l
  | .meshEndpoint r => verifyPinnedMeshEndpointWithKey x publicKey r
  | .relayAccess m => verifyRelayAccessManifestWithKey x.manifest publicKey now m

/-! ## The Governor at work -/

/-- The operations of a Governor that sign. -/
inductive Call
  | authorizeJobAtEpoch (job : JobSpecV1) (offer : ResourceOfferV1) (selectedNode : Uuid) (fencingEpoch : Nat) (now : Int)
      (leaseId : Uuid) (nonce : String)
  | authorizeStorageAtEpoch (offer : ResourceOfferV1) (digest : String) (sizeBytes : Nat) (storageClass : StorageClass)
      (operation : ArtifactTransferOperation) (fencingEpoch : Nat) (now : Int) (leaseId : Uuid) (nonce : String)
  | authorizeModelSessionAtEpoch (offer : ResourceOfferV1) (runtime : ModelRuntimeOfferV1) (model : InstalledModelV1)
      (controllerEndpointId : String) (limits : ModelSessionLimits) (fencingEpoch : Nat) (now : Int)
      (leaseId sessionId : Uuid) (nonce : String)
  | authorizeRemoteDesktopAtEpoch (offer : ResourceOfferV1) (controllerEndpointId : String) (sessionId : Uuid)
      (mode : RemoteDesktopModeV1) (limits : RemoteDesktopLimits) (fencingEpoch : Nat) (now : Int) (leaseId : Uuid)
      (nonce : String)
  | authorizePromotionCanaryAtEpoch (candidate : PromotionCandidateV1) (fencingEpoch : Nat) (now : Int) (canaryId : Uuid)
      (nonce : String)
  | signMeshEndpoint (endpoint : MeshEndpointRecordV1)
  | signRelayAccessManifest (manifest : RelayAccessManifestV1)

/-- `Governor::sign_mesh_endpoint`. -/
def signMeshEndpoint (endpoint : MeshEndpointRecordV1) : MeshEndpointRecordV1 :=
  { endpoint with signature := signatureOf x (contractMessage x (.meshEndpoint endpoint)) }

/-- What an operation grants. -/
def Call.run (config : GovernorConfig) : Call → Except Denial Contract
  | .authorizeJobAtEpoch job offer node epoch now leaseId nonce =>
    (Governor.authorizeJobAtEpoch config (fun l => signatureOf x (leaseMessage x l)) job offer node epoch now leaseId
      nonce).map .capabilityLease
  | .authorizeStorageAtEpoch offer digest size cls operation epoch now leaseId nonce =>
    (Governor.authorizeStorageAtEpoch config (fun l => signatureOf x (storageLeaseMessage x l)) offer digest size cls
      operation epoch now leaseId nonce).map .storageLease
  | .authorizeModelSessionAtEpoch offer runtime model controller limits epoch now leaseId sessionId nonce =>
    (Governor.authorizeModelSessionAtEpoch config (fun l => signatureOf x (modelSessionLeaseMessage x l)) offer runtime model
      controller limits epoch now leaseId sessionId nonce).map .modelSessionLease
  | .authorizeRemoteDesktopAtEpoch offer controller sessionId mode limits epoch now leaseId nonce =>
    (Governor.authorizeRemoteDesktopAtEpoch config (fun l => signatureOf x (remoteDesktopLeaseMessage x l)) offer controller
      sessionId mode limits epoch now leaseId nonce).map .remoteDesktopLease
  | .authorizePromotionCanaryAtEpoch candidate epoch now canaryId nonce =>
    (Governor.authorizePromotionCanaryAtEpoch config (fun l => signatureOf x (promotionCanaryMessage x l)) candidate epoch
      now canaryId nonce).map .promotionCanary
  | .signMeshEndpoint endpoint => .ok (.meshEndpoint (Governor.signMeshEndpoint x endpoint))
  | .signRelayAccessManifest manifest =>
    (Governor.signRelayAccessManifest x.manifest x.governorKey manifest).map .relayAccess

/-- The contracts that the Governor's key has signed, over all its operations and configurations. -/
def granted (calls : List (GovernorConfig × Call)) : List Contract :=
  calls.filterMap fun c => (c.2.run x c.1).toOption

/-- A signature that the Governor's key accepts, of a message that it has signed neither for a contract nor for a checkpoint.
The hash in a checkpoint is never empty. -/
def Forged (calls : List (GovernorConfig × Call)) (c : Contract) : Prop :=
  verifyContractSignature x x.governorKey c.signature (contractMessage x c) = .ok () ∧
    (∀ g ∈ granted x calls, contractMessage x g ≠ contractMessage x c) ∧
    ∀ sequence eventHash, eventHash ≠ "" → Ledger.Chain.ledgerCheckpointMessage sequence eventHash ≠ contractMessage x c

/-- Two contracts of different texts with one digest. -/
def Collision (g c : Contract) : Prop := g.bytes x ≠ c.bytes x ∧ x.sha256 (g.bytes x) = x.sha256 (c.bytes x)

/-- A contract that shows the Governor's signatures or digests to be broken. -/
def Broken (calls : List (GovernorConfig × Call)) (c : Contract) : Prop :=
  Forged x calls c ∨ ∃ g ∈ granted x calls, Collision x g c

end

/-! ## What is granted is signed, and accepted -/

section

variable {x : SigningCrates} {config : GovernorConfig} {calls : List (GovernorConfig × Call)}

theorem ok_of_map {α β : Type} {r : Except Denial α} {f : α → β} {b : β} (h : r.map f = .ok b) : ∃ a, r = .ok a ∧ f a = b := by
  cases r with
  | error d => cases h
  | ok a => exact ⟨a, rfl, Except.ok.inj h⟩

/-- Every granted contract carries the signature of its own message. -/
theorem signature_of_run {call : Call} {c : Contract} (h : call.run x config = .ok c) :
    c.signature = signatureOf x (contractMessage x c) := by
  cases call with
  | authorizeJobAtEpoch job offer node epoch now leaseId nonce =>
    obtain ⟨lease, hlease, rfl⟩ := ok_of_map h
    unfold authorizeJobAtEpoch at hlease
    split at hlease
    · cases hlease
    · cases hlease
      rfl
  | authorizeStorageAtEpoch offer digest size cls operation epoch now leaseId nonce =>
    obtain ⟨lease, hlease, rfl⟩ := ok_of_map h
    unfold authorizeStorageAtEpoch at hlease
    split_ifs at hlease
    cases hlease
    rfl
  | authorizeModelSessionAtEpoch offer runtime model controller limits epoch now leaseId sessionId nonce =>
    obtain ⟨lease, hlease, rfl⟩ := ok_of_map h
    unfold authorizeModelSessionAtEpoch at hlease
    split_ifs at hlease
    cases hlease
    rfl
  | authorizeRemoteDesktopAtEpoch offer controller sessionId mode limits epoch now leaseId nonce =>
    obtain ⟨lease, hlease, rfl⟩ := ok_of_map h
    unfold authorizeRemoteDesktopAtEpoch at hlease
    split_ifs at hlease
    cases hlease
    rfl
  | authorizePromotionCanaryAtEpoch candidate epoch now canaryId nonce =>
    obtain ⟨lease, hlease, rfl⟩ := ok_of_map h
    unfold authorizePromotionCanaryAtEpoch at hlease
    split_ifs at hlease
    split at hlease
    · cases hlease
    split at hlease
    · cases hlease
    · cases hlease
      rfl
  | signMeshEndpoint endpoint =>
    cases h
    rfl
  | signRelayAccessManifest manifest =>
    obtain ⟨signed, hsigned, rfl⟩ := ok_of_map h
    unfold signRelayAccessManifest at hsigned
    cases hid : relayFabricId x.manifest x.governorKey with
    | error e =>
      rw [hid] at hsigned
      cases hsigned
    | ok fabricId =>
      rw [hid] at hsigned
      cases hsigned
      rfl

theorem mem_granted {c : Contract} : c ∈ granted x calls ↔ ∃ config call, (config, call) ∈ calls ∧ call.run x config = .ok c := by
  rw [granted, List.mem_filterMap]
  constructor
  · rintro ⟨⟨config, call⟩, hmem, hrun⟩
    refine ⟨config, call, hmem, ?_⟩
    dsimp only at hrun
    cases hr : call.run x config with
    | error d =>
      rw [hr] at hrun
      cases hrun
    | ok c' =>
      rw [hr] at hrun
      cases hrun
      rfl
  · rintro ⟨config, call, hmem, hrun⟩
    exact ⟨(config, call), hmem, by rw [hrun]; rfl⟩

/-- One operation grants what it returns. -/
theorem granted_singleton {call : Call} {c : Contract} (h : call.run x config = .ok c) : granted x [(config, call)] = [c] := by
  unfold granted
  rw [List.filterMap_cons_some (b := c)]
  · rfl
  · dsimp only
    rw [h]
    rfl

theorem isOk_iff {r : Except Denial Unit} : r.isOk = true ↔ r = .ok () := by
  cases r with
  | ok _ => simp [Except.isOk, Except.toBool]
  | error d => simp [Except.isOk, Except.toBool]

theorem verifyManifest_iff {publicKey signature : String} {m : RelayAccessManifestV1} :
    x.manifest.verifyManifest publicKey signature m = true ↔
      verifyContractSignature x publicKey signature (contractMessage x (.relayAccess m)) = .ok () :=
  isOk_iff

/-- A verifier that accepts has checked the signature of the message. -/
theorem signature_of_verify {publicKey : String} {now : Int} {c : Contract} (h : c.verifyWithKey x publicKey now = .ok ()) :
    verifyContractSignature x publicKey c.signature (contractMessage x c) = .ok () := by
  cases c with
  | capabilityLease l => exact h
  | storageLease l => exact h
  | modelSessionLease l => exact h
  | remoteDesktopLease l => exact h
  | promotionCanary l => exact h
  | meshEndpoint r =>
    simp only [Contract.verifyWithKey, verifyPinnedMeshEndpointWithKey] at h
    split at h
    · cases h
    · exact h
  | relayAccess m =>
    simp only [Contract.verifyWithKey, verifyRelayAccessManifestWithKey] at h
    split at h
    · cases h
    split at h
    · cases h
    split_ifs at h with _ hverify
    exact verifyManifest_iff.1 hverify

/-- Ed25519: the key verifies what it has signed. -/
def SigningCrates.VerifiesOwn (x : SigningCrates) : Prop :=
  ∀ message, x.verify x.verifyingKey.1 message (x.sign message).1 = true

theorem verify_signatureOf (hown : x.VerifiesOwn) (message : List UInt8) :
    verifyContractSignature x x.governorKey (signatureOf x message) message = .ok () := by
  unfold verifyContractSignature SigningCrates.governorKey signatureOf
  rw [Hex.decode_encode, Hex.decode_encode]
  exact if_pos ⟨x.verifyingKey.2, (x.sign message).2, hown message⟩

/-! Each kind is granted by one operation. -/

theorem relayAccess_of_run {call : Call} {m : RelayAccessManifestV1} (h : call.run x config = .ok (.relayAccess m)) :
    ∃ manifest, call = .signRelayAccessManifest manifest ∧ signRelayAccessManifest x.manifest x.governorKey manifest = .ok m := by
  cases call with
  | signRelayAccessManifest manifest =>
    obtain ⟨m', hm, heq⟩ := ok_of_map h
    cases heq
    exact ⟨manifest, rfl, hm⟩
  | signMeshEndpoint endpoint => cases h
  | _ =>
    obtain ⟨_, _, hkind⟩ := ok_of_map h
    cases hkind

theorem storageLease_of_run {call : Call} {l : StorageLeaseV1} (h : call.run x config = .ok (.storageLease l)) :
    ∃ offer digest size cls operation epoch now leaseId nonce,
      call = .authorizeStorageAtEpoch offer digest size cls operation epoch now leaseId nonce ∧
        authorizeStorageAtEpoch config (fun l => signatureOf x (storageLeaseMessage x l)) offer digest size cls operation epoch
          now leaseId nonce = .ok l := by
  cases call with
  | authorizeStorageAtEpoch offer digest size cls operation epoch now leaseId nonce =>
    obtain ⟨l', hl, heq⟩ := ok_of_map h
    cases heq
    exact ⟨offer, digest, size, cls, operation, epoch, now, leaseId, nonce, rfl, hl⟩
  | signMeshEndpoint endpoint => cases h
  | _ =>
    obtain ⟨_, _, hkind⟩ := ok_of_map h
    cases hkind

theorem modelSessionLease_of_run {call : Call} {l : ModelSessionLeaseV1}
    (h : call.run x config = .ok (.modelSessionLease l)) :
    ∃ offer runtime model controller limits epoch now leaseId sessionId nonce,
      call = .authorizeModelSessionAtEpoch offer runtime model controller limits epoch now leaseId sessionId nonce ∧
        authorizeModelSessionAtEpoch config (fun l => signatureOf x (modelSessionLeaseMessage x l)) offer runtime model
          controller limits epoch now leaseId sessionId nonce = .ok l := by
  cases call with
  | authorizeModelSessionAtEpoch offer runtime model controller limits epoch now leaseId sessionId nonce =>
    obtain ⟨l', hl, heq⟩ := ok_of_map h
    cases heq
    exact ⟨offer, runtime, model, controller, limits, epoch, now, leaseId, sessionId, nonce, rfl, hl⟩
  | signMeshEndpoint endpoint => cases h
  | _ =>
    obtain ⟨_, _, hkind⟩ := ok_of_map h
    cases hkind

theorem remoteDesktopLease_of_run {call : Call} {l : RemoteDesktopLeaseV1}
    (h : call.run x config = .ok (.remoteDesktopLease l)) :
    ∃ offer controller sessionId mode limits epoch now leaseId nonce,
      call = .authorizeRemoteDesktopAtEpoch offer controller sessionId mode limits epoch now leaseId nonce ∧
        authorizeRemoteDesktopAtEpoch config (fun l => signatureOf x (remoteDesktopLeaseMessage x l)) offer controller
          sessionId mode limits epoch now leaseId nonce = .ok l := by
  cases call with
  | authorizeRemoteDesktopAtEpoch offer controller sessionId mode limits epoch now leaseId nonce =>
    obtain ⟨l', hl, heq⟩ := ok_of_map h
    cases heq
    exact ⟨offer, controller, sessionId, mode, limits, epoch, now, leaseId, nonce, rfl, hl⟩
  | signMeshEndpoint endpoint => cases h
  | _ =>
    obtain ⟨_, _, hkind⟩ := ok_of_map h
    cases hkind

/-- What the verifier of a kind asks for beside the signature. -/
def Contract.InTime (now : Int) : Contract → Prop
  | .meshEndpoint r => r.schema = MeshEndpointRecordV1.schemaName
  | .relayAccess m => m.isValidAt now = true
  | _ => True

/-- What is granted is accepted, in its time. -/
theorem granted_is_accepted (hown : x.VerifiesOwn) {c : Contract} (h : c ∈ granted x calls) {now : Int}
    (hnow : c.InTime now) : c.verifyWithKey x x.governorKey now = .ok () := by
  obtain ⟨config, call, -, hrun⟩ := mem_granted.1 h
  have hsigned : verifyContractSignature x x.governorKey c.signature (contractMessage x c) = .ok () := by
    rw [signature_of_run hrun]
    exact verify_signatureOf hown _
  cases c with
  | capabilityLease l => exact hsigned
  | storageLease l => exact hsigned
  | modelSessionLease l => exact hsigned
  | remoteDesktopLease l => exact hsigned
  | promotionCanary l => exact hsigned
  | meshEndpoint r => exact (if_neg (not_not.2 hnow)).trans hsigned
  | relayAccess m =>
    obtain ⟨manifest, -, hm⟩ := relayAccess_of_run hrun
    exact verify_signed (fun m => verifyManifest_iff.2 (verify_signatureOf hown _)) hm hnow

/-- No checkpoint of the ledger is signed as a contract is: it is longer than a digest. -/
theorem checkpoint_ne_contract {sequence : Nat} {eventHash : String} (hhash : eventHash ≠ "") (c : Contract) :
    Ledger.Chain.ledgerCheckpointMessage sequence eventHash ≠ contractMessage x c := by
  intro h
  have hlength := congrArg List.length h
  rw [contractMessage, (x.sha256 _).2, Ledger.Chain.ledgerCheckpointMessage, length_utf8, String.toList_ofList] at hlength
  have hschema : Ledger.Chain.ledgerCheckpointSchema.toList.length = 28 := by decide
  have hdigits : 0 < (Nat.toDigits 10 sequence).length := Nat.length_toDigits_pos
  have htext : 0 < eventHash.toList.length := by
    rw [List.length_pos_iff]
    simpa using hhash
  have hchars := length_le_byteLen
    (Ledger.Chain.ledgerCheckpointSchema.toList ++ '\n' :: (Nat.toDigits 10 sequence ++ '\n' :: (eventHash.toList ++ ['\n'])))
  simp only [List.length_append, List.length_cons, List.length_nil] at hchars
  omega

/-- Whatever a verifier under the Governor's key accepts was granted, by the operation of its kind and with its fields, unless
a signature is forged or two texts have one digest. -/
theorem accepted_was_granted (htime : Function.Injective x.timeText) (calls : List (GovernorConfig × Call)) (now : Int)
    (c : Contract) (haccepted : c.verifyWithKey x x.governorKey now = .ok ()) :
    (∃ g ∈ granted x calls, g.unsigned = c.unsigned) ∨ Broken x calls c := by
  by_cases hsigned : ∃ g ∈ granted x calls, contractMessage x g = contractMessage x c
  · obtain ⟨g, hg, hmessage⟩ := hsigned
    by_cases hbytes : g.bytes x = c.bytes x
    · -- the texts are the same, and a text has one contract
      have hjson := Json.toVec_injective hbytes
      exact Or.inl ⟨g, hg, Contract.toJson_injective htime hjson⟩
    · exact Or.inr (Or.inr ⟨g, hg, hbytes, Subtype.ext hmessage⟩)
  · refine Or.inr (Or.inl ⟨signature_of_verify haccepted, ?_, fun _ _ hhash => checkpoint_ne_contract hhash c⟩)
    exact fun g hg hmessage => hsigned ⟨g, hg, hmessage⟩

/-- What is granted breaks nothing. -/
theorem not_broken_of_granted {c : Contract} (h : granted x calls = [c]) : ¬ Broken x calls c := by
  have hmem : c ∈ granted x calls := by rw [h]; exact List.mem_singleton_self c
  rintro (⟨-, hnew, -⟩ | ⟨g, hg, hbytes, -⟩)
  · exact hnew c hmem rfl
  · rw [h, List.mem_singleton] at hg
    exact hbytes (by rw [hg])

end

namespace Scenario

/-- The distance from the epoch in strokes, after its sign. -/
def strokes (t : Int) : String := String.ofList ((if t < 0 then 'n' else 'p') :: List.replicate t.natAbs 'x')

theorem strokes_injective : Function.Injective strokes := by
  intro s t h
  have hlist := String.ofList_injective h
  obtain ⟨hsign, htail⟩ := List.cons.inj hlist
  have habs : s.natAbs = t.natAbs := by simpa using congrArg List.length htail
  split_ifs at hsign
  · omega
  · exact absurd hsign (by decide)
  · exact absurd hsign (by decide)
  · omega

theorem strokes_ne {t : Int} {s : String} (hs : s.toList.head? = some '1') : strokes t ≠ s := by
  rintro rfl
  rw [strokes, String.toList_ofList, List.head?_cons] at hs
  split at hs
  · exact absurd hs (by decide)
  · exact absurd hs (by decide)

/-- One more point can have a text that no other has. -/
theorem injective_ite {f : Int → String} (hf : Function.Injective f) {a : Int} {s : String} (hs : ∀ t, f t ≠ s) :
    Function.Injective fun t => if t = a then s else f t := by
  intro t u h
  dsimp only at h
  split_ifs at h with ht hu hu
  · exact ht.trans hu.symm
  · exact absurd h.symm (hs u)
  · exact absurd h (hs t)
  · exact hf h

/-- chrono's texts of the instants used here, and some text for every other. -/
def instantText (t : Int) : String :=
  if t = 0 then "1970-01-01T00:00:00Z"
  else if t = seconds 30 then "1970-01-01T00:00:30Z"
  else if t = minutes 2 then "1970-01-01T00:02:00Z"
  else strokes t

theorem instantText_injective : Function.Injective instantText := by
  refine injective_ite (injective_ite (injective_ite strokes_injective ?_) ?_) ?_
  · exact fun t => strokes_ne rfl
  · intro t
    split_ifs
    · decide
    · exact strokes_ne rfl
  · intro t
    split_ifs
    · decide
    · decide
    · exact strokes_ne rfl

/-- A key whose signatures are zeros. -/
def crates : SigningCrates where
  timeText := instantText
  f32Text := fun _ => .ofNat 0
  sha256 := fun _ => List.Vector.replicate 32 0
  sign := fun _ => List.Vector.replicate 64 0
  verifyingKey := List.Vector.replicate 32 0
  verify := fun key _ signature => key == List.replicate 32 0 && signature == List.replicate 64 0

theorem crates_verifiesOwn : crates.VerifiesOwn := by
  intro message
  show (List.replicate 32 (0 : UInt8) == List.replicate 32 0 && List.replicate 64 (0 : UInt8) == List.replicate 64 0) = true
  decide

/-- The controller's route, for two minutes. -/
def route : MeshEndpointRecordV1 where
  schema := MeshEndpointRecordV1.schemaName
  endpointId := "controller"
  directAddresses := ["192.0.2.10:4000"]
  relayUrls := []
  issuedAt := 0
  expiresAt := minutes 2
  signature := ""

/-- The route, signed. -/
def signedRoute : MeshEndpointRecordV1 := signMeshEndpoint crates route

theorem signedRoute_granted : .meshEndpoint signedRoute ∈ granted crates [(.default, .signMeshEndpoint route)] :=
  mem_granted.2 ⟨.default, .signMeshEndpoint route, List.mem_singleton_self _, rfl⟩

end Scenario

open Scenario in
theorem accepted_was_granted_route :
    (∃ g ∈ granted crates [(.default, .signMeshEndpoint route)], g.unsigned = .meshEndpoint route) ∨
      Broken crates [(.default, .signMeshEndpoint route)] (.meshEndpoint signedRoute) :=
  accepted_was_granted instantText_injective _ 0 (.meshEndpoint signedRoute)
    (granted_is_accepted crates_verifiesOwn signedRoute_granted rfl)

end Rampage.Governor
