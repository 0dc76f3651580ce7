/-
The Governor's promotion lane: the deterministic classification of changed paths, the standing
authority per risk class, and the canary lease minted from complete evidence
(`authorize_promotion_canary_at_epoch`).
-/
import Rampage.Governor.Check
import Rampage.Protocol.Promotion

namespace Rampage.Governor

open Rampage.Protocol

/-- The risk a change is put into. -/
inductive RiskClass
  | r0Configuration | r1AllowlistedSource | r2ProtectedChange | r3AuthorityCritical
deriving DecidableEq

/-- `promotion_risk`. -/
def promotionRisk : PromotionRiskV1 → RiskClass
  | .r0Configuration => .r0Configuration
  | .r1AllowlistedSource => .r1AllowlistedSource
  | .r2ProtectedChange => .r2ProtectedChange
  | .r3AuthorityCritical => .r3AuthorityCritical

/-! ## Classification of changed paths -/

/-- `u8::to_ascii_lowercase`, on characters. -/
def toAsciiLowercase (c : Char) : Char :=
  if 65 ≤ c.toNat ∧ c.toNat ≤ 90 then Char.ofNat (c.toNat + 32) else c

/-- `path.replace('\\', "/").to_ascii_lowercase()`. -/
def normalizePath (path : String) : List Char :=
  path.toList.map fun c => toAsciiLowercase (if c = '\\' then '/' else c)

/-- `str::ends_with`, on characters. -/
def endsWith (suffix cs : List Char) : Bool := startsWith suffix.reverse cs.reverse

/-- `str::contains`, on characters. -/
def containsText (text : List Char) : List Char → Bool
  | [] => text == []
  | c :: cs => startsWith text (c :: cs) || containsText text cs

/-- The paths that say what the system may do. -/
def authorityCritical : List String :=
  ["crates/rampage-policy/", "crates/rampage-protocol/", "crates/rampage-controller/", "crates/rampage-agent/",
    "crates/rampage-mesh/", "crates/rampage-storage/", "policies/", "evals/holdouts/", "signing/", "updater/",
    "services/intelligence/src/rampage_intelligence/promotion.py", ".github/workflows/"]

/-- `classify_promotion_paths`. The test for `Cargo.toml` is on the lower-cased path, as in the source. -/
def classifyPromotionPaths (paths : List String) : RiskClass :=
  let normalized := paths.map normalizePath
  if normalized.any fun path => authorityCritical.any fun p => startsWith p.toList path then .r3AuthorityCritical
  else if normalized.any fun path => endsWith "pyproject.toml".toList path || endsWith "Cargo.toml".toList path ||
      endsWith "package.json".toList path || containsText "/migrations/".toList path ||
      startsWith "contracts/".toList path then .r2ProtectedChange
  else if normalized.all fun path => startsWith "prompts/".toList path || startsWith "routing/".toList path ||
      startsWith "cache/".toList path then .r0Configuration
  else .r1AllowlistedSource

/-! ## Authority -/

section

variable (config : GovernorConfig)

/-- `Governor::authorize_promotion`. -/
def authorizePromotion (projectId : Uuid) : RiskClass → Except Denial Unit
  | .r0Configuration => .ok ()
  | .r1AllowlistedSource =>
    if projectId ∈ config.trustedAutopilotProjects then .ok () else .error .autopilotNotEnabled
  | .r2ProtectedChange =>
    if projectId ∈ config.autonomousProtectedProjects then .ok () else .error .autonomousAuthorityDenied
  | .r3AuthorityCritical => .error .autonomousAuthorityDenied

/-- The traffic share of a risk class. -/
def maxTraffic : PromotionRiskV1 → Except Denial Nat
  | .r0Configuration => .ok 1000
  | .r1AllowlistedSource => .ok 500
  | .r2ProtectedChange => .ok 100
  | .r3AuthorityCritical => .error .autonomousAuthorityDenied

/-- `Governor::authorize_promotion_canary_at_epoch`, at the clock reading `now` and with the generated
canary id and nonce. -/
def authorizePromotionCanaryAtEpoch (sign : PromotionCanaryLeaseV1 → String) (candidate : PromotionCandidateV1)
    (fencingEpoch : Nat) (now : Int) (canaryId : Uuid) (nonce : String) :
    Except Denial PromotionCanaryLeaseV1 :=
  if candidate.isValidAt now = false then .error .invalidPromotionEvidence
  else if promotionRisk candidate.risk ≠ classifyPromotionPaths candidate.changedPaths then
    .error .promotionRiskMismatch
  else match authorizePromotion config candidate.projectId (promotionRisk candidate.risk) with
  | .error d => .error d
  | .ok () =>
    match maxTraffic candidate.risk with
    | .error d => .error d
    | .ok traffic =>
      let lease : PromotionCanaryLeaseV1 :=
        { schema := PromotionCanaryLeaseV1.schemaName
          canaryId := canaryId
          proposalId := candidate.proposalId
          projectId := candidate.projectId
          candidateDigest := candidate.candidateDigest
          risk := candidate.risk
          maxTrafficBasisPoints := traffic
          maxErrorRegressionBasisPoints := 100
          maxLatencyRegressionBasisPoints := 500
          maxCostRegressionBasisPoints := 500
          issuedAt := now
          expiresAt := min candidate.expiresAt (now + minutes 10)
          nonce := nonce
          fencingEpoch := fencingEpoch
          signature := "" }
      .ok { lease with signature := sign lease }

end

variable {config : GovernorConfig} {sign : PromotionCanaryLeaseV1 → String} {candidate : PromotionCandidateV1}
  {epoch : Nat} {now : Int} {canaryId : Uuid} {nonce : String} {lease : PromotionCanaryLeaseV1}

/-- A canary lease carries the epoch it was minted at, names the candidate it was minted for, and
expires after the instant it was minted at. -/
theorem authorizePromotionCanaryAtEpoch_spec
    (h : authorizePromotionCanaryAtEpoch config sign candidate epoch now canaryId nonce = .ok lease) :
    lease.fencingEpoch = epoch ∧ lease.proposalId = candidate.proposalId ∧
      lease.candidateDigest = candidate.candidateDigest ∧ now < lease.expiresAt := by
  unfold authorizePromotionCanaryAtEpoch at h
  split at h
  · cases h
  rename_i hv
  split at h
  · cases h
  split at h
  · cases h
  split at h
  · cases h
  simp only [Except.ok.injEq] at h
  subst h
  refine ⟨rfl, rfl, rfl, ?_⟩
  have he := (PromotionCandidateV1.isValidAt_expiresAt (by simpa using hv)).1
  have hten : (0 : Int) < minutes 10 := by decide
  exact lt_min he (by omega)

end Rampage.Governor
