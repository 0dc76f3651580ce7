/-
Promotion candidates and canary leases: the change a project proposes with its eight evidence
gates, and the bounded, expiring traffic share the Governor may grant it.
-/
import Rampage.Protocol.Contracts
import Mathlib.Data.Finset.Dedup

namespace Rampage.Protocol

/-- How much a change could do. -/
inductive PromotionRiskV1
  | r0Configuration | r1AllowlistedSource | r2ProtectedChange | r3AuthorityCritical
deriving DecidableEq

/-- A gate a candidate has gone through, with its evidence. -/
structure PromotionEvidenceGateV1 where
  name : String
  passed : Bool
  evidenceDigest : String
  independent : Bool
deriving DecidableEq

/-- A change that is proposed for a canary. -/
structure PromotionCandidateV1 where
  schema : String
  proposalId : Uuid
  projectId : Uuid
  baseRevision : String
  candidateDigest : String
  changedPaths : List String
  risk : PromotionRiskV1
  gates : List PromotionEvidenceGateV1
  requestedAt : Int
  expiresAt : Int
deriving DecidableEq

/-- `PromotionCandidateV1::REQUIRED_GATES`. -/
def PromotionCandidateV1.requiredGates : List String :=
  ["g0_schema_policy_static", "g1_deterministic_replay", "g2_quality_reliability_cost", "g3_sealed_holdout",
    "g4_adversarial_security", "g5_independent_replication", "g6_shadow", "g7_canary_rollback"]

/-- Either slash separates the parts of a path. -/
def isSeparator (c : Char) : Bool := c == '/' || c == '\\'

/-- `path.split(['/', '\\'])`, on characters. -/
def pathSegments : List Char → List (List Char)
  | [] => [[]]
  | c :: cs =>
    if isSeparator c then [] :: pathSegments cs
    else match pathSegments cs with
    | [] => [[c]]
    | segment :: rest => (c :: segment) :: rest

/-- A changed path stays inside the repository: relative, without a drive and without empty, `.`
or `..` segments. -/
def isChangedPath (path : String) : Bool :=
  path != "" && path.utf8ByteSize ≤ 260 && isAscii path && !path.toList.head?.any isSeparator &&
    !path.toList.contains ':' && (pathSegments path.toList).all fun s => s != [] && s != ['.'] && s != ['.', '.']

/-- `PromotionCandidateV1::is_valid_at`. -/
def PromotionCandidateV1.isValidAt (c : PromotionCandidateV1) (now : Int) : Bool :=
  let names := (c.gates.map (·.name)).toFinset
  c.schema == "rampage.promotion-candidate.v1" && c.baseRevision != "" && c.baseRevision.utf8ByteSize ≤ 128 &&
    isAscii c.baseRevision && isSha256Digest c.candidateDigest && c.changedPaths != [] &&
    c.changedPaths.length ≤ 32 && c.changedPaths.all isChangedPath && decide (c.requestedAt ≤ now) &&
    decide (now < c.expiresAt) && decide ((c.expiresAt - c.requestedAt).tdiv (seconds 1) ≤ 1800) &&
    c.gates.length == requiredGates.length && names.card == requiredGates.length &&
    requiredGates.all (· ∈ names) &&
    c.gates.all fun gate => gate.passed && isSha256Digest gate.evidenceDigest &&
      (gate.name != "g5_independent_replication" || gate.independent)

/-- What the Governor grants a candidate: a share of the traffic for a while. -/
structure PromotionCanaryLeaseV1 where
  schema : String
  canaryId : Uuid
  proposalId : Uuid
  projectId : Uuid
  candidateDigest : String
  risk : PromotionRiskV1
  maxTrafficBasisPoints : Nat
  maxErrorRegressionBasisPoints : Nat
  maxLatencyRegressionBasisPoints : Nat
  maxCostRegressionBasisPoints : Nat
  issuedAt : Int
  expiresAt : Int
  nonce : String
  fencingEpoch : Nat
  signature : String
deriving DecidableEq

/-- `PromotionCanaryLeaseV1::SCHEMA`. -/
def PromotionCanaryLeaseV1.schemaName : String := "rampage.promotion-canary-lease.v1"

/-- `PromotionCanaryLeaseV1::is_active_at`. -/
def PromotionCanaryLeaseV1.isActiveAt (lease : PromotionCanaryLeaseV1) (now : Int) (fencingEpoch : Nat) : Bool :=
  lease.schema == schemaName && leaseHasStarted lease.issuedAt now && decide (now < lease.expiresAt) &&
    lease.fencingEpoch == fencingEpoch && isSha256Digest lease.candidateDigest &&
    1 ≤ lease.maxTrafficBasisPoints && lease.maxTrafficBasisPoints ≤ 1000 &&
    lease.maxErrorRegressionBasisPoints ≤ 500 && lease.maxLatencyRegressionBasisPoints ≤ 1000 &&
    lease.maxCostRegressionBasisPoints ≤ 1000 && lease.nonce != "" && lease.nonce.utf8ByteSize ≤ 128 &&
    isAscii lease.nonce && lease.signature != ""

theorem PromotionCandidateV1.isValidAt_expiresAt {c : PromotionCandidateV1} {now : Int}
    (h : c.isValidAt now = true) : now < c.expiresAt ∧ isSha256Digest c.candidateDigest = true := by
  simp only [isValidAt, Bool.and_eq_true, decide_eq_true_eq] at h
  exact ⟨by tauto, by tauto⟩

end Rampage.Protocol
