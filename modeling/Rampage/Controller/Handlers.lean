/-
The other handlers that touch authority: enrolment and revocation, claims and receipts, owner STOP
and resume, and promotion canaries. As in `Admission`, a handler that waits for the admission gate
is split there. `claim_work` and `submit_receipt` take the gate without waiting and answer
`SERVICE_UNAVAILABLE` when it is busy; their definitions here are the runs that got it.
-/
import Rampage.Controller.Admission

namespace Rampage.Controller

open Rampage.Protocol Rampage.Planner Rampage.Governor Rampage.Ledger Handler

variable (cfg : Config) (w : World)

/-! ## Enrolment -/

/-- The answer of `create_invite`; the code a device shows is the invite id with the secret. -/
structure EnrollmentInvite where
  inviteId : Uuid
  secret : String
  expiresAt : Int
  meshIssuedAt : Int
deriving DecidableEq

/-- `create_invite`. -/
def createInvite : Request EnrollmentInvite := do
  ensure cfg.localEnrollmentEnabled
    { status := .forbidden, error := "local enrollment is disabled on non-loopback binds" }
  let inviteId ← newUuid w
  let secret ← newText w
  let now ← utcNow w
  let expiresAt := now + minutes 10
  modify fun s => { s with invites := s.invites.insert inviteId ⟨cfg.hashSecret secret, expiresAt⟩ }
  append w (.inviteCreated inviteId expiresAt (cfg.hashSecret secret))
  let meshIssuedAt ← utcNow w
  pure ⟨inviteId, secret, expiresAt, meshIssuedAt⟩

/-- `verify_enrollment`. -/
def verifyEnrollment (request : EnrollmentRequestV1) : Except Denial Unit :=
  if request.schema ≠ "rampage.enrollment-request.v1" ∨ request.inviteId = 0 ∨
      request.enrollmentCode.utf8ByteSize ≠ 32 ∨ request.enrollmentCode.toList.all isHexDigit = false ∨
      request.identity.isValidForEnrollment = false then .error .invalidIdentity
  else if cfg.verifyEnrollmentSignature request then .ok ()
  else .error .invalidSignature

/-- The invite is taken out of the table before its expiry and code are looked at. -/
def takeInvite (inviteId : Uuid) : Request InviteRecord := fun s =>
  match s.invites.lookup inviteId with
  | some record => (.ok record, { s with invites := s.invites.erase inviteId })
  | none => (.error { status := .unauthorized, error := "unknown or already consumed invite" }, s)

/-- `enroll_node`. -/
def enrollNode (request : EnrollmentRequestV1) : Request (Uuid × Nat) := do
  ensure (request.schema == "rampage.enrollment-request.v1")
    { status := .badRequest, error := "unsupported enrollment schema" }
  orRefuse .unauthorized Denial.text (verifyEnrollment cfg request)
  let record ← takeInvite request.inviteId
  let now ← utcNow w
  ensure (decide (now < record.expiresAt) && record.secretHash == cfg.hashSecret request.enrollmentCode)
    { status := .unauthorized, error := "expired or invalid enrollment code" }
  append w (.inviteConsumed request.inviteId request.identity.nodeId)
  modify fun s => { s with nodes := s.nodes.insert request.identity.nodeId request.identity }
  append w (.nodeEnrolled request.identity)
  pure (request.identity.nodeId, request.identity.fencingEpoch)

/-! ## Revocation -/

/-- The new constraints, recorded before they apply. -/
def applyConstraints (found : Diagnosis) : Request Unit :=
  if found.constraintsChanged then do
    mapError (fun e => internalError ("autonomous constraint evidence write failed: " ++ e.error))
      (append w (.other "diagnostic.autonomy.applied" (.text found.evidenceDigest)))
    modify fun s => { s with excludedNodes := found.excludedNodes }
  else pure ()

/-- The record of a self-scan that found something new. -/
def recordScan (found : Diagnosis) : Request Unit :=
  if found.reportChanged then
    mapError (fun e => internalError ("diagnostic evidence write failed: " ++ e.error))
      (append w (.other "diagnostic.self_scan.completed" (.text found.evidenceDigest)))
  else pure ()

/-- `refresh_diagnostics`, on what the self-scan finds. -/
def refreshDiagnostics : Request Unit := do
  let s ← get
  let _ ← utcNow w
  applyConstraints w (w.diagnosis s.reads)
  recordScan w (w.diagnosis s.reads)

/-- The tables without a node. -/
def forgetNode (nodeId : Uuid) (s : Host) : Host :=
  { s with
    nodes := s.nodes.erase nodeId
    offers := s.offers.erase nodeId
    assignments := s.assignments.retain fun _ a => a.lease.nodeId != nodeId
    reservations := s.reservations.filter (·.nodeId != nodeId)
    shardSets := s.shardSets.retain fun _ r => r.leases.all (·.nodeId != nodeId)
    artifactReplicas := s.artifactReplicas.retain fun k _ => k.2 != nodeId }

/-- `revoke_node`. The confirmation is `FORGET` and the node id. -/
def revokeNode (nodeId : Uuid) (confirmed : Bool) : Request Unit := do
  ensure confirmed { status := .forbidden, error := "exact device revocation confirmation is required" }
  let s ← get
  match s.nodes.lookup nodeId with
  | none => fail { status := .notFound, error := "node is not enrolled" }
  | some identity => do
    let _ ← utcNow w
    append w (.nodeRevoked nodeId identity.displayName identity.publicKey)
    modify (forgetNode nodeId)
    refreshDiagnostics w

/-! ## Claims -/

/-- `claim_work` can hand out this assignment. -/
def isClaimable (nodeId : Uuid) (now : Int) (epoch : Nat) (a : Assignment) : Bool :=
  !a.claimed && a.lease.nodeId == nodeId && a.lease.isActiveAt now epoch

/-- The entry `claim_work` picks: the first of the oldest claimable ones. -/
def pickAssignment (order : IterOrder) (s : AppState) (nodeId : Uuid) (now : Int) :
    Option (Sigma fun _ : Uuid => Assignment) :=
  Select.minByKey (fun e => e.2.lease.issuedAt)
    ((order.apply s.assignments.entries).filter fun e => isClaimable nodeId now s.fencingEpoch e.2)

/-- What a node gets for an assignment. -/
def workClaim (a : Assignment) : WorkClaimV1 where
  schema := WorkClaimV1.schemaName
  job := a.job
  lease := a.lease
  governorPublicKey := cfg.governorPublicKey

/-- The assignment has been handed out. -/
def markClaimed (jobId : Uuid) (a : Assignment) (s : Host) : Host :=
  { s with assignments := s.assignments.insert jobId { a with claimed := true } }

/-- `claim_work`. The assignment is marked before the claim is recorded. -/
def claimWork (nodeId : Uuid) : Request (Option WorkClaimV1) := do
  refuseWhileKilled
  let s ← get
  ensure (s.nodes.lookup nodeId).isSome { status := .unauthorized, error := "node is not enrolled" }
  let now ← utcNow w
  match pickAssignment (w.order s.reads) s.toAppState nodeId now with
  | none => pure none
  | some picked => do
    modify (markClaimed picked.1 picked.2)
    append w (.jobClaimed (workClaim cfg picked.2))
    pure (some (workClaim cfg picked.2))

/-! ## Receipts -/

/-- What a receipt is answered with. -/
structure ReceiptReply where
  status : StatusCode
  receiptId : Uuid
  state : JobState
  duplicate : Bool
deriving DecidableEq

/-- `verify_receipt`. -/
def verifyReceipt (identity : NodeIdentityV1) (receipt : ExecutionReceiptV1) : Except Denial Unit :=
  if identity.nodeId ≠ receipt.nodeId then .error .nodeMismatch
  else if cfg.verifyReceiptSignature identity.publicKey receipt then .ok ()
  else .error .invalidSignature

/-- The receipt is for this assignment, which was claimed and is current. -/
def receiptMatches (a : Assignment) (receipt : ExecutionReceiptV1) (epoch : Nat) : Bool :=
  a.lease.leaseId == receipt.leaseId && a.lease.nodeId == receipt.nodeId && a.claimed &&
    a.lease.fencingEpoch == epoch && decide (a.lease.issuedAt ≤ receipt.startedAt) &&
    decide (receipt.startedAt ≤ a.lease.expiresAt)

/-- The output is an encrypted artifact by a well-formed digest, of a size that can be moved. -/
def isOutputValid (output : ArtifactRefV1) : Bool :=
  let validDigest := match stripPrefix digestPrefix output.digest.toList with
    | some value => value.length == 64 && value.all isHexDigit
    | none => false
  output.schema == "rampage.artifact-ref.v1" && output.encrypted && validDigest &&
    output.sizeBytes ≤ maxArtifactTransferBytes

/-- The tables without a receipted job. -/
def settleJob (jobId : Uuid) (key : String) (s : Host) : Host :=
  { s with
    assignments := s.assignments.erase jobId
    idempotency := s.idempotency.erase key
    reservations := s.reservations.filter (·.jobId != jobId) }

/-- The replica and the event of one output. -/
def recordOutput (receipt : ExecutionReceiptV1) (output : ArtifactRefV1) : Request Unit := do
  modify fun s =>
    { s with artifactReplicas := s.artifactReplicas.insert (output.digest, receipt.nodeId) output }
  append w (.artifactHeld .outputRecorded output receipt.nodeId)

/-- The part of `submit_receipt` that settles a matching receipt. The tables change before the
receipt is recorded. -/
def settleReceipt (a : Assignment) (receipt : ExecutionReceiptV1) : Request ReceiptReply := do
  modify (settleJob receipt.jobId a.job.idempotencyKey)
  append w (.jobReceipted receipt)
  modify fun s => { s with completedReceipts := s.completedReceipts.insert receipt.receiptId receipt.jobId }
  forEach (recordOutput w receipt) receipt.outputs
  pure ⟨.accepted, receipt.receiptId, receipt.state, false⟩

/-- The receipt reports the end of a job. -/
def isTerminalReceipt (receipt : ExecutionReceiptV1) : Bool :=
  receipt.schema == "rampage.execution-receipt.v1" &&
    (receipt.state == .succeeded || receipt.state == .failed) && decide (receipt.startedAt ≤ receipt.finishedAt)

/-- The part of `submit_receipt` under the gate. -/
def submitReceiptGated (receipt : ExecutionReceiptV1) : Request ReceiptReply := do
  refuseWhileKilled
  let s ← get
  match s.assignments.lookup receipt.jobId with
  | none => fail { status := .conflict, error := "receipt has no active assignment" }
  | some a => do
    ensure (receiptMatches a receipt s.fencingEpoch)
      { status := .conflict, error := "receipt does not match the current claimed lease authority" }
    ensure (receipt.outputs.all isOutputValid)
      { status := .badRequest, error := "receipt contains an invalid output artifact" }
    settleReceipt w a receipt

/-- `submit_receipt`. -/
def submitReceipt (receipt : ExecutionReceiptV1) : Request ReceiptReply := do
  ensure (isTerminalReceipt receipt)
    { status := .badRequest, error := "invalid terminal execution receipt" }
  let s ← get
  match s.nodes.lookup receipt.nodeId with
  | none => fail { status := .unauthorized, error := "node is not enrolled" }
  | some identity => do
    orRefuse .unauthorized Denial.text (verifyReceipt cfg identity receipt)
    if s.completedReceipts.lookup receipt.receiptId = some receipt.jobId then
      pure ⟨.ok, receipt.receiptId, receipt.state, true⟩
    else submitReceiptGated w receipt

/-! ## Owner STOP and resume -/

/-- What STOP is answered with. -/
structure StopReply where
  status : StatusCode
  fencingEpoch : Nat
  duplicate : Bool
deriving DecidableEq

/-- STOP has completed for the current epoch: `local_stop` answers with a duplicate. -/
def isStopped (s : AppState) : Bool := s.killLatch && s.stopEpochMarker.join == some s.fencingEpoch

/-- The first effect of `local_stop`. -/
def createKillLatch : Request Unit := do
  let s ← get
  if s.killLatch then pure () else fileOperation w fun s => { s with killLatch := true }

/-- `advance_fencing_epoch("controller")` and the store of the new epoch. -/
def advanceFencingEpoch : Request Nat := do
  let s ← get
  ensure (s.fencingEpoch + 1 < 2 ^ 63) (internalError "fencing epoch overflow for authority scope controller")
  append w (.epochAdvanced "controller" (s.fencingEpoch + 1))
  modify fun t => { t with fencingEpoch := s.fencingEpoch + 1 }
  pure (s.fencingEpoch + 1)

/-- `write_stop_epoch_marker`: truncate, then write. -/
def writeStopEpochMarker (epoch : Nat) : Request Unit := do
  fileOperation w fun s => { s with stopEpochMarker := some none }
  fileOperation w fun s => { s with stopEpochMarker := some (some epoch) }

/-- `local_stop`, under the gate. -/
def localStop : Request StopReply := do
  let s ← get
  if isStopped s.toAppState then pure ⟨.ok, s.fencingEpoch, true⟩
  else do
    createKillLatch w
    let epoch ← advanceFencingEpoch w
    writeStopEpochMarker w epoch
    append w (.ownerStop epoch)
    pure ⟨.accepted, epoch, false⟩

/-- `local_resume` refuses anything but the exact confirmation, before it takes the gate. -/
def localResumeArrive (confirmation : String) : Request Unit :=
  ensure (confirmation == "OWNER_RESUME")
    { status := .forbidden, error := "exact owner resume confirmation is required" }

/-- `std::fs::remove_file(marker)`, if it is there. -/
def removeStopEpochMarker : Request Unit := do
  let s ← get
  if s.stopEpochMarker.isSome then fileOperation w fun s => { s with stopEpochMarker := none } else pure ()

/-- `std::fs::remove_file(kill_latch_path)`, if it is there. -/
def removeKillLatch : Request Unit := do
  let s ← get
  if s.killLatch then fileOperation w fun s => { s with killLatch := false } else pure ()

/-- `local_resume`, under the gate: the marker goes before the latch. -/
def localResumeGated : Request Nat := do
  removeStopEpochMarker w
  removeKillLatch w
  append w .ownerResume
  let s ← get
  pure s.fencingEpoch

/-! ## Promotion canaries -/

/-- The scan of `authorize_promotion_canary` over the events about its proposal: a conflict, an
active lease to answer with again, or nothing. -/
def scanPromotionEvents (candidate : PromotionCandidateV1) (epoch : Nat) :
    List Event → Request (Option PromotionCanaryLeaseV1)
  | [] => pure none
  | .promotionCandidateProposed existing :: rest =>
    if existing.candidateDigest ≠ candidate.candidateDigest ∨ existing.projectId ≠ candidate.projectId ∨
        existing.changedPaths ≠ candidate.changedPaths then
      fail { status := .conflict, error := "proposal id is already bound to another candidate" }
    else scanPromotionEvents candidate epoch rest
  | .promotionCanaryLeaseIssued existing :: rest =>
    if existing.candidateDigest ≠ candidate.candidateDigest ∨ existing.projectId ≠ candidate.projectId then
      fail { status := .conflict, error := "proposal id is already bound to another canary" }
    else do
      let now ← utcNow w
      if existing.isActiveAt now epoch then pure (some existing) else scanPromotionEvents candidate epoch rest
  | _ :: rest => scanPromotionEvents candidate epoch rest

/-- The status a denied canary is answered with. -/
def canaryDenialStatus : Denial → StatusCode
  | .invalidPromotionEvidence => .badRequest
  | .promotionRiskMismatch => .badRequest
  | .killLatch => .locked
  | _ => .forbidden

/-- `authorize_promotion_canary`, under the gate. -/
def authorizePromotionCanaryGated (candidate : PromotionCandidateV1) :
    Request (StatusCode × PromotionCanaryLeaseV1) := do
  let s ← get
  let existing ← scanPromotionEvents w candidate s.fencingEpoch
    (eventsForSubject s.ledger (.id candidate.proposalId) 128)
  match existing with
  | some lease => pure (.ok, lease)
  | none => do
    let now ← utcNow w
    let canaryId ← newUuid w
    let nonce ← newText w
    let lease ← ofExcept ((authorizePromotionCanaryAtEpoch cfg.governor cfg.signCanary candidate s.fencingEpoch now
      canaryId nonce).mapError fun d => { status := canaryDenialStatus d, error := d.text })
    append w (.promotionCandidateProposed candidate)
    append w (.promotionCanaryLeaseIssued lease)
    pure (.created, lease)

/-- `authorize_promotion_canary`. -/
def authorizePromotionCanary (candidate : PromotionCandidateV1) : Request (StatusCode × PromotionCanaryLeaseV1) := do
  refuseWhileKilled
  authorizePromotionCanaryGated cfg w candidate

end Rampage.Controller
