/-
Executing a work claim, as the desktop agent and the edge worker both do through `execute_claim_with_store`: the claim
is checked, its lease is consumed in the durable authority store, its adapter is run and a receipt is signed. The
state records which claims had their adapter run. The adapters themselves and the Ed25519 signatures are parameters.
-/
import Rampage.Lib.Handler
import Rampage.Storage.Session

namespace Rampage.Agent

open Rampage.Protocol Rampage.Storage

/-- Why a claim is not run, or what its run fails with. -/
inductive ExecutionError
  | wrongSchema
  | wrongNode
  | leaseMismatch
  | inactiveLease
  | invalidLease
  | authorityState (e : StorageError)
  | unsupportedAdapter
  | missingArgument (name : String)
  | invalidArgument (name : String)
  | backendUnavailable (text : String)
deriving DecidableEq

/-- What a worker executes claims with. -/
structure Executor where
  cas : CasStore
  nodeId : Uuid
  /-- `verify_lease_with_key`: the public key and the lease. -/
  verifyLease : String → CapabilityLeaseV1 → Bool
  /-- `sign_receipt` under the worker's key. -/
  signReceipt : ExecutionReceiptV1 → String
  /-- `run_adapter`: the output artifacts, or the failure. -/
  runAdapter : WorkClaimV1 → Store → Except ExecutionError (List ArtifactRefV1) × Store

/-- The authority store, and the claims whose adapter was run. -/
structure Executing where
  store : Store
  executed : List WorkClaimV1

/-- A claim acts on the worker or fails. -/
abbrev Execute (α : Type) := Handler Executing ExecutionError α

/-- The clock readings and the identifier an execution draws. -/
structure ExecutionDraws where
  now : Int
  acceptedAt : Int
  startedAt : Int
  finishedAt : Int
  receiptId : Uuid

section

variable (x : Executor)

/-- The checks of `execute_claim_inner`. The lease is checked under the key that the claim carries. -/
def checkClaim (d : ExecutionDraws) (claim : WorkClaimV1) (fencingEpoch : Nat) : Except ExecutionError Unit :=
  if claim.schema ≠ WorkClaimV1.schemaName then .error .wrongSchema
  else if claim.lease.nodeId ≠ x.nodeId then .error .wrongNode
  else if claim.lease.jobId ≠ claim.job.jobId ∨ claim.lease.projectId ≠ claim.job.projectId ∨
      claim.lease.adapter ≠ claim.job.adapter ∨ claim.lease.operation ≠ claim.job.operation then .error .leaseMismatch
  else if x.verifyLease claim.governorPublicKey claim.lease = false then .error .invalidLease
  else if claim.lease.isActiveAt d.now fencingEpoch = false then .error .inactiveLease
  else .ok ()

/-- `store.accept_authority("governor", ..)` for the lease of a claim. -/
def acceptClaim (d : ExecutionDraws) (claim : WorkClaimV1) : Execute Unit := fun e =>
  let plan := acceptAuthority d.acceptedAt "governor" claim.lease.fencingEpoch claim.lease.nonce claim.lease.expiresAt e.store
  (plan.result.mapError .authorityState, { e with store := storeEffects.applyAll plan.effects e.store })

/-- `run_adapter`. Its failure becomes part of the receipt. -/
def runClaim (claim : WorkClaimV1) : Execute (Except ExecutionError (List ArtifactRefV1)) := fun e =>
  let (outcome, store) := x.runAdapter claim e.store
  (.ok outcome, { store := store, executed := e.executed ++ [claim] })

/-- The signed receipt of an execution. -/
def executionReceipt (d : ExecutionDraws) (claim : WorkClaimV1) (outcome : Except ExecutionError (List ArtifactRefV1)) :
    ExecutionReceiptV1 :=
  let unsigned : ExecutionReceiptV1 :=
    { schema := "rampage.execution-receipt.v1"
      receiptId := d.receiptId
      leaseId := claim.lease.leaseId
      jobId := claim.job.jobId
      nodeId := x.nodeId
      state := match outcome with | .ok _ => .succeeded | .error _ => .failed
      startedAt := d.startedAt
      finishedAt := d.finishedAt
      outputs := match outcome with | .ok outputs => outputs | .error _ => []
      signature := "" }
  { unsigned with signature := x.signReceipt unsigned }

/-- `execute_claim_with_store`. -/
def executeClaimWithStore (d : ExecutionDraws) (claim : WorkClaimV1) (fencingEpoch : Nat) : Execute ExecutionReceiptV1 := do
  Handler.ofExcept (checkClaim x d claim fencingEpoch)
  acceptClaim d claim
  let outcome ← runClaim x claim
  return executionReceipt x d claim outcome

end

section

variable {x : Executor} {d : ExecutionDraws} {claim : WorkClaimV1} {fencingEpoch : Nat} {e : Executing}

theorem checkClaim_verified (h : checkClaim x d claim fencingEpoch = .ok ()) :
    x.verifyLease claim.governorPublicKey claim.lease = true := by
  unfold checkClaim at h
  split at h
  · cases h
  split at h
  · cases h
  split at h
  · cases h
  split at h
  · cases h
  · rename_i hverified
    simpa using hverified

/-- A claim is refused and nothing is run, or it is checked, its adapter is run and it has its receipt. -/
theorem executeClaim_cases : ((∃ err, (executeClaimWithStore x d claim fencingEpoch e).1 = .error err) ∧
      (executeClaimWithStore x d claim fencingEpoch e).2.executed = e.executed) ∨
    (x.verifyLease claim.governorPublicKey claim.lease = true ∧
      (executeClaimWithStore x d claim fencingEpoch e).2.executed = e.executed ++ [claim] ∧
      ∃ outcome, (executeClaimWithStore x d claim fencingEpoch e).1 = .ok (executionReceipt x d claim outcome)) := by
  unfold executeClaimWithStore
  cases hcheck : checkClaim x d claim fencingEpoch with
  | error err => exact Or.inl ⟨⟨err, rfl⟩, rfl⟩
  | ok u =>
    rw [Handler.bind_of_ok (rfl : Handler.ofExcept (.ok u) e = (.ok u, e))]
    rcases haccept : acceptClaim d claim e with ⟨err | u, e'⟩
    · left
      rw [Handler.bind_of_error haccept]
      have hexecuted : (acceptClaim d claim e).2.executed = e.executed := rfl
      rw [haccept] at hexecuted
      exact ⟨⟨err, rfl⟩, hexecuted⟩
    · right
      rw [Handler.bind_of_ok haccept]
      have hexecuted : (acceptClaim d claim e).2.executed = e.executed := rfl
      rw [haccept] at hexecuted
      refine ⟨checkClaim_verified hcheck, ?_, (x.runAdapter claim e'.store).1, rfl⟩
      show e'.executed ++ [claim] = _
      rw [hexecuted]

end

end Rampage.Agent
