/-
A small fabric on which the general results are tried: one enrolled node with one offer, a clock
that ticks once per reading, and a ledger whose appends succeed.
-/
import Rampage.Controller.Change

namespace Rampage.Controller.Scenario

open Rampage.Protocol Rampage.Planner Rampage.Governor Rampage.Ledger

/-- A default governor, whose signatures are all the same. -/
def config : Config where
  governor := .default
  admissionPolicy := .default
  localEnrollmentEnabled := true
  governorPublicKey := "governor"
  hashSecret := id
  signLease := fun _ => "signature"
  signCanary := fun _ => "signature"
  signStorage := fun _ => "signature"
  verifyEnrollmentSignature := fun _ => true
  verifyReceiptSignature := fun _ _ => true
  endpointIsWellFormed := fun _ => false

/-- The clock counts the reads, and no write fails. -/
def world : World where
  clock := fun n => n
  uuid := fun n => BitVec.ofNat 128 (n + 1)
  text := fun _ => "0123456789abcdef0123456789abcdef"
  appendFailure := fun _ => none
  fileFailure := fun _ => none
  remote := fun _ _ => .error "unreachable"
  diagnosis := fun _ => ⟨"", ∅, false, false⟩
  order := fun _ => IterOrder.entries

/-- The one node. -/
def identity : NodeIdentityV1 where
  schema := "rampage.node-identity.v1"
  nodeId := 77
  ownerId := 1
  displayName := "node"
  deviceKind := .desktop
  platform := "linux"
  publicKey := "0000000000000000000000000000000000000000000000000000000000000000"
  enrolledAt := 0
  fencingEpoch := 0

/-- Its offer, without resources. -/
def offer : ResourceOfferV1 where
  schema := "rampage.resource-offer.v1"
  offerId := 5
  nodeId := 77
  observedAt := 0
  expiresAt := seconds 1000
  resources := []
  availability := ⟨true, none, 100, true, true⟩
  adapters := {"rampage.echo.v1"}
  workloadCapabilities := []
  linkBenchmark := none
  meshEndpoint := none
  signature := "signature"

/-- A job that needs no resources and no inputs, with the given id and idempotency key. -/
def job (jobId : Uuid) (key : String) : JobSpecV1 where
  schema := "rampage.job-spec.v1"
  jobId := jobId
  projectId := 1
  submittedBy := 1
  adapter := "rampage.echo.v1"
  operation := "echo"
  arguments := []
  inputs := []
  requests := []
  trust := .nativeTrusted
  restartTolerant := true
  networkAllowlist := ∅
  deadline := seconds 100
  idempotencyKey := key

/-- The enrolment request for the invite of a fresh controller. -/
def enrollment : EnrollmentRequestV1 where
  schema := "rampage.enrollment-request.v1"
  inviteId := 1
  enrollmentCode := "0123456789abcdef0123456789abcdef"
  identity := identity
  signature := "signature"

/-- The offer reaches the controller. -/
def offered : Background where
  offers := (∅ : Table Uuid ResourceOfferV1).insert 77 offer
  excludedNodes := ∅
  artifactReplicas := ∅
  artifactHead := fun _ => .error "missing"
  events := []
  kinds := by simp
  readings := 0
  ids := 0

/-- A controller on a new directory. -/
def start : Host := initial 0 fun _ => .error "missing"

/-- The node is enrolled and has published its offer. -/
def setup : List Op := [.createInvite, .enrollNode enrollment, .background offered]

/-- The receipt of a lease for job 9. -/
def receipt (leaseId : Uuid) : ExecutionReceiptV1 where
  schema := "rampage.execution-receipt.v1"
  receiptId := 40
  leaseId := leaseId
  jobId := 9
  nodeId := 77
  state := .succeeded
  startedAt := seconds 1
  finishedAt := seconds 2
  outputs := []
  signature := "signature"

/-- A minute passes. -/
def elapsed : Background := { offered with readings := 60000000000 }

theorem world_clock_monotone : Monotone world.clock := fun _ _ h => Int.ofNat_le.2 h

end Rampage.Controller.Scenario
