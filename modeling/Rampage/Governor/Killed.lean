/-
The kill latch and the minting operations. Four of the five test it before anything else; the promotion lane does not, so
a killed Governor still signs a canary lease for every candidate it would otherwise accept (`killed_governor_refuses_iff`).
-/
import Rampage.Governor.Model
import Rampage.Governor.Promotion
import Rampage.Governor.Remote
import Rampage.Governor.Storage

namespace Rampage.Governor

open Rampage.Protocol

/-- The arguments of one of the five minting operations. -/
inductive LeaseRequest
  | job (job : JobSpecV1) (offer : ResourceOfferV1) (selectedNode : Uuid)
  | storage (offer : ResourceOfferV1) (digest : String) (sizeBytes : Nat) (storageClass : StorageClass)
      (operation : ArtifactTransferOperation)
  | modelSession (offer : ResourceOfferV1) (runtime : ModelRuntimeOfferV1) (model : InstalledModelV1)
      (controllerEndpointId : String) (limits : ModelSessionLimits)
  | remoteDesktop (offer : ResourceOfferV1) (controllerEndpointId : String) (sessionId : Uuid) (mode : RemoteDesktopModeV1)
      (limits : RemoteDesktopLimits)
  | promotionCanary (candidate : PromotionCandidateV1)

/-- A signed lease of one of the five kinds. -/
inductive SignedLease
  | job (lease : CapabilityLeaseV1)
  | storage (lease : StorageLeaseV1)
  | modelSession (lease : ModelSessionLeaseV1)
  | remoteDesktop (lease : RemoteDesktopLeaseV1)
  | promotionCanary (lease : PromotionCanaryLeaseV1)
deriving DecidableEq

/-- The Governor's signatures, by kind of lease. -/
structure Signer where
  job : CapabilityLeaseV1 → String
  storage : StorageLeaseV1 → String
  modelSession : ModelSessionLeaseV1 → String
  remoteDesktop : RemoteDesktopLeaseV1 → String
  promotionCanary : PromotionCanaryLeaseV1 → String

/-- What an operation reads besides its arguments: the clock, two generated ids and a nonce. -/
structure Fresh where
  now : Int
  firstId : Uuid
  secondId : Uuid
  nonce : String

section

variable (config : GovernorConfig)

/-- The Governor carries out one of its minting operations at an epoch. -/
def mint (signer : Signer) (fencingEpoch : Nat) (fresh : Fresh) : LeaseRequest → Except Denial SignedLease
  | .job job offer selectedNode =>
    (authorizeJobAtEpoch config signer.job job offer selectedNode fencingEpoch fresh.now fresh.firstId fresh.nonce).map .job
  | .storage offer digest sizeBytes storageClass operation =>
    (authorizeStorageAtEpoch config signer.storage offer digest sizeBytes storageClass operation fencingEpoch fresh.now
      fresh.firstId fresh.nonce).map .storage
  | .modelSession offer runtime model controllerEndpointId limits =>
    (authorizeModelSessionAtEpoch config signer.modelSession offer runtime model controllerEndpointId limits fencingEpoch
      fresh.now fresh.firstId fresh.secondId fresh.nonce).map .modelSession
  | .remoteDesktop offer controllerEndpointId sessionId mode limits =>
    (authorizeRemoteDesktopAtEpoch config signer.remoteDesktop offer controllerEndpointId sessionId mode limits fencingEpoch
      fresh.now fresh.firstId fresh.nonce).map .remoteDesktop
  | .promotionCanary candidate =>
    (authorizePromotionCanaryAtEpoch config signer.promotionCanary candidate fencingEpoch fresh.now fresh.firstId
      fresh.nonce).map .promotionCanary

/-- A candidate has complete evidence, declares the class of its paths, and this class has standing authority. -/
def PromotionCandidateV1.isAuthorized (candidate : PromotionCandidateV1) (now : Int) : Bool :=
  candidate.isValidAt now && promotionRisk candidate.risk == classifyPromotionPaths candidate.changedPaths &&
    (authorizePromotion config candidate.projectId (promotionRisk candidate.risk)).isOk

/-- What stands in the way of a lease besides the kill latch: only a candidate is judged on its own. -/
def LeaseRequest.IsCandidateFor (now : Int) : LeaseRequest → Prop
  | .promotionCanary candidate => PromotionCandidateV1.isAuthorized config candidate now = true
  | _ => False

end

section

variable {config : GovernorConfig} {signer : Signer} {epoch : Nat} {fresh : Fresh}

/-- The promotion lane mints exactly for authorized candidates; the latch is not among the tests. -/
theorem authorizePromotionCanaryAtEpoch_isOk_iff (sign : PromotionCanaryLeaseV1 → String) (candidate : PromotionCandidateV1)
    (now : Int) (canaryId : Uuid) (nonce : String) :
    (authorizePromotionCanaryAtEpoch config sign candidate epoch now canaryId nonce).isOk = true ↔
      PromotionCandidateV1.isAuthorized config candidate now = true := by
  unfold authorizePromotionCanaryAtEpoch PromotionCandidateV1.isAuthorized
  by_cases hvalid : candidate.isValidAt now = false
  · simp [hvalid, Except.isOk, Except.toBool]
  rw [if_neg hvalid]
  rw [Bool.not_eq_false] at hvalid
  by_cases hrisk : promotionRisk candidate.risk ≠ classifyPromotionPaths candidate.changedPaths
  · simp [hrisk, Except.isOk, Except.toBool]
  rw [if_neg hrisk]
  rw [not_not] at hrisk
  rw [hvalid, beq_iff_eq.2 hrisk, Bool.true_and, Bool.true_and]
  cases hauth : authorizePromotion config candidate.projectId (promotionRisk candidate.risk) with
  | error d => exact Iff.rfl
  | ok u =>
    -- only the class without authority has no traffic share
    cases hclass : candidate.risk with
    | r3AuthorityCritical =>
      rw [hclass] at hauth
      cases hauth
    | r0Configuration => exact Iff.rfl
    | r1AllowlistedSource => exact Iff.rfl
    | r2ProtectedChange => exact Iff.rfl

/-- A killed Governor refuses an operation exactly if it is not one for an authorized candidate. -/
theorem killed_governor_refuses_iff (hkilled : config.killed = true) (request : LeaseRequest) :
    (∃ denial, mint config signer epoch fresh request = .error denial) ↔ ¬ request.IsCandidateFor config fresh.now := by
  cases request with
  | job job offer selectedNode =>
    have hdenied : checkJobAt config job offer selectedNode fresh.now = .error .killLatch := by
      unfold checkJobAt
      exact if_pos hkilled
    refine ⟨fun _ => id, fun _ => ⟨.killLatch, ?_⟩⟩
    unfold mint authorizeJobAtEpoch
    dsimp only
    rw [hdenied]
    rfl
  | storage offer digest sizeBytes storageClass operation =>
    refine ⟨fun _ => id, fun _ => ⟨.killLatch, ?_⟩⟩
    unfold mint authorizeStorageAtEpoch
    dsimp only
    rw [if_pos hkilled]
    rfl
  | modelSession offer runtime model controllerEndpointId limits =>
    refine ⟨fun _ => id, fun _ => ⟨.killLatch, ?_⟩⟩
    unfold mint authorizeModelSessionAtEpoch
    dsimp only
    rw [if_pos hkilled]
    rfl
  | remoteDesktop offer controllerEndpointId sessionId mode limits =>
    refine ⟨fun _ => id, fun _ => ⟨.killLatch, ?_⟩⟩
    unfold mint authorizeRemoteDesktopAtEpoch
    dsimp only
    rw [if_pos hkilled]
    rfl
  | promotionCanary candidate =>
    have hiff := @authorizePromotionCanaryAtEpoch_isOk_iff config epoch signer.promotionCanary
      candidate fresh.now fresh.firstId fresh.nonce
    unfold mint LeaseRequest.IsCandidateFor
    dsimp only
    rw [← hiff]
    cases authorizePromotionCanaryAtEpoch config signer.promotionCanary candidate epoch fresh.now fresh.firstId
      fresh.nonce with
    | error denial => exact ⟨fun _ => Bool.false_ne_true, fun _ => ⟨denial, rfl⟩⟩
    | ok lease => exact ⟨nofun, fun h => absurd rfl h⟩

end

namespace Killed

/-- A killed Governor with the default policy. -/
def config : GovernorConfig := { GovernorConfig.default with killed := true }

/-- The digest of the example's model. -/
def digest : String := "sha256:ffffffffffffffffffffffffffffffffffffffffffffffffffffffffffffffff"

/-- A change of one prompt with complete evidence. -/
def candidate : PromotionCandidateV1 where
  schema := "rampage.promotion-candidate.v1"
  proposalId := 3
  projectId := 2
  baseRevision := "abc123"
  candidateDigest := digest
  changedPaths := ["prompts/router.md"]
  risk := .r0Configuration
  gates := PromotionCandidateV1.requiredGates.map fun name => ⟨name, true, digest, true⟩
  requestedAt := 0
  expiresAt := minutes 20

/-- Every signature is the same. -/
def signer : Signer := ⟨fun _ => "signed", fun _ => "signed", fun _ => "signed", fun _ => "signed", fun _ => "signed"⟩

theorem candidate_isAuthorized : (LeaseRequest.promotionCanary candidate).IsCandidateFor config 0 := by
  show PromotionCandidateV1.isAuthorized config candidate 0 = true
  decide +kernel

end Killed

theorem killed_governor_refuses_iff_prompt_change :
    (∃ denial, mint Killed.config Killed.signer 4 ⟨0, 8, 9, "nonce"⟩ (.promotionCanary Killed.candidate) = .error denial) ↔
      ¬ (LeaseRequest.promotionCanary Killed.candidate).IsCandidateFor Killed.config 0 :=
  killed_governor_refuses_iff rfl _

/-- A killed Governor signs a canary lease. -/
theorem killed_governor_mints_canary :
    ¬ ∀ (config : GovernorConfig) (signer : Signer) (epoch : Nat) (fresh : Fresh) (request : LeaseRequest),
      config.killed = true → ∃ denial, mint config signer epoch fresh request = .error denial := by
  intro hall
  obtain ⟨denial, hmint⟩ := hall Killed.config Killed.signer 4 ⟨0, 8, 9, "nonce"⟩ (.promotionCanary Killed.candidate) rfl
  have hok : (authorizePromotionCanaryAtEpoch Killed.config Killed.signer.promotionCanary Killed.candidate 4 0 8 "nonce").isOk =
      true := (authorizePromotionCanaryAtEpoch_isOk_iff _ _ _ _ _).2 Killed.candidate_isAuthorized
  unfold mint at hmint
  dsimp only at hmint
  cases hresult : authorizePromotionCanaryAtEpoch Killed.config Killed.signer.promotionCanary Killed.candidate 4 0 8 "nonce" with
  | error d =>
    rw [hresult] at hok
    cases hok
  | ok lease =>
    rw [hresult] at hmint
    cases hmint

end Rampage.Governor
