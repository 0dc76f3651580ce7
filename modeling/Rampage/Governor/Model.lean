/-
The Governor's model authority: `authorize_model_session_at_epoch` mints the lease under which one worker runs one
installed model.
-/
import Rampage.Governor.Check
import Rampage.Protocol.Model

namespace Rampage.Governor

open Rampage.Protocol

/-- What a model session is asked for; the lease carries it as it is. -/
structure ModelSessionLimits where
  maxPromptBytes : Nat
  maxOutputTokens : Nat
deriving DecidableEq

/-- The limits are positive and within the bounds of the protocol. -/
def ModelSessionLimits.isValid (limits : ModelSessionLimits) : Bool :=
  0 < limits.maxPromptBytes && limits.maxPromptBytes ≤ maxModelPromptBytes && 0 < limits.maxOutputTokens &&
    limits.maxOutputTokens ≤ maxModelOutputTokens

/-- `exact_runtime`: the offer lists the runtime, with the model installed. -/
def listsRuntime (offer : ResourceOfferV1) (runtime : ModelRuntimeOfferV1) (model : InstalledModelV1) : Bool :=
  offer.modelRuntimes.any fun candidate =>
    candidate.schema == ModelRuntimeOfferV1.schemaName && candidate.adapter == runtime.adapter &&
      candidate.backend == runtime.backend && candidate.runtimeDigest == runtime.runtimeDigest &&
      candidate.compatibilityKey == runtime.compatibilityKey && candidate.status == runtime.status &&
      candidate.installedModels.contains model

/-- The bytes a model needs, with a fifth to spare. -/
def guardedModelBytes (model : InstalledModelV1) : Nat :=
  U64.satAdd model.artifactSizeBytes (model.artifactSizeBytes / 5)

/-- `Governor::authorize_model_session_at_epoch`, at the clock reading `now` and with the generated lease id, session id
and nonce. -/
def authorizeModelSessionAtEpoch (config : GovernorConfig) (sign : ModelSessionLeaseV1 → String) (offer : ResourceOfferV1)
    (runtime : ModelRuntimeOfferV1) (model : InstalledModelV1) (controllerEndpointId : String) (limits : ModelSessionLimits)
    (fencingEpoch : Nat) (now : Int) (leaseId sessionId : Uuid) (nonce : String) : Except Denial ModelSessionLeaseV1 :=
  if config.killed then .error .killLatch
  else if offer.expiresAt ≤ now then .error .offerExpired
  else if limits.isValid = false then .error .invalidModelSession
  else if controllerEndpointId = "" ∨ isAscii controllerEndpointId = false ∨ offer.meshEndpoint = none ∨
      "rampage.ollama.v1" ∉ offer.adapters ∨ runtime.adapter ≠ "rampage.ollama.v1" ∨ runtime.backend ≠ .localOllama ∨
      runtime.status ≠ .shippedLocal ∨ .wholeModel ∉ runtime.supportedParallelism ∨ model.isValid = false ∨
      runtime.availableModelBytes.toNat < guardedModelBytes model ∨ listsRuntime offer runtime model = false ∨
      offer.availability.foregroundAllowed = false ∨ offer.availability.thermalHeadroomPercent < 15 ∨
      (offer.availability.onAcPower = false ∧ offer.availability.batteryPercent.getD 100 < 50) then
    .error .modelRuntimeDenied
  else
    let lease : ModelSessionLeaseV1 :=
      { schema := ModelSessionLeaseV1.schemaName
        leaseId := leaseId
        sessionId := sessionId
        nodeId := offer.nodeId
        controllerEndpointId := controllerEndpointId
        modelId := model.modelId
        modelDigest := model.artifactDigest
        backend := runtime.backend
        runtimeDigest := runtime.runtimeDigest
        parallelism := .wholeModel
        maxPromptBytes := limits.maxPromptBytes
        maxOutputTokens := limits.maxOutputTokens
        issuedAt := now
        expiresAt := now + seconds (max config.leaseTtlSeconds 1)
        nonce := nonce
        fencingEpoch := fencingEpoch
        signature := "" }
    .ok { lease with signature := sign lease }

variable {config : GovernorConfig} {sign : ModelSessionLeaseV1 → String} {offer : ResourceOfferV1}
  {runtime : ModelRuntimeOfferV1} {model : InstalledModelV1} {endpoint : String} {limits : ModelSessionLimits}
  {epoch : Nat} {now : Int} {leaseId sessionId : Uuid} {nonce : String}

/-- Valid limits are not what a session is refused for. -/
theorem authorizeModelSessionAtEpoch_limits (h : limits.isValid = true) :
    authorizeModelSessionAtEpoch config sign offer runtime model endpoint limits epoch now leaseId sessionId nonce ≠
      .error .invalidModelSession := by
  unfold authorizeModelSessionAtEpoch
  rw [if_neg (show ¬ limits.isValid = false by simp [h])]
  split
  · exact nofun
  split
  · exact nofun
  split
  · exact nofun
  · exact nofun

/-- The lease that is signed. -/
def unsignedModelLease (config : GovernorConfig) (offer : ResourceOfferV1) (runtime : ModelRuntimeOfferV1)
    (model : InstalledModelV1) (controllerEndpointId : String) (limits : ModelSessionLimits) (fencingEpoch : Nat) (now : Int)
    (leaseId sessionId : Uuid) (nonce : String) : ModelSessionLeaseV1 where
  schema := ModelSessionLeaseV1.schemaName
  leaseId := leaseId
  sessionId := sessionId
  nodeId := offer.nodeId
  controllerEndpointId := controllerEndpointId
  modelId := model.modelId
  modelDigest := model.artifactDigest
  backend := runtime.backend
  runtimeDigest := runtime.runtimeDigest
  parallelism := .wholeModel
  maxPromptBytes := limits.maxPromptBytes
  maxOutputTokens := limits.maxOutputTokens
  issuedAt := now
  expiresAt := now + seconds (max config.leaseTtlSeconds 1)
  nonce := nonce
  fencingEpoch := fencingEpoch
  signature := ""

/-- What a minted lease is. -/
theorem authorizeModelSessionAtEpoch_lease {lease : ModelSessionLeaseV1}
    (h : authorizeModelSessionAtEpoch config sign offer runtime model endpoint limits epoch now leaseId sessionId nonce =
      .ok lease) :
    lease = { unsignedModelLease config offer runtime model endpoint limits epoch now leaseId sessionId nonce with
      signature := sign (unsignedModelLease config offer runtime model endpoint limits epoch now leaseId sessionId nonce) } := by
  unfold authorizeModelSessionAtEpoch at h
  split at h
  · cases h
  split at h
  · cases h
  split at h
  · cases h
  split at h
  · cases h
  · cases h
    rfl

/-- What a minted lease holds. -/
theorem authorizeModelSessionAtEpoch_ok {lease : ModelSessionLeaseV1}
    (h : authorizeModelSessionAtEpoch config sign offer runtime model endpoint limits epoch now leaseId sessionId nonce =
      .ok lease) : lease.nodeId = offer.nodeId ∧ lease.controllerEndpointId = endpoint ∧
        lease.maxPromptBytes = limits.maxPromptBytes ∧ lease.maxOutputTokens = limits.maxOutputTokens := by
  rw [authorizeModelSessionAtEpoch_lease h]
  exact ⟨rfl, rfl, rfl, rfl⟩

end Rampage.Governor
