/-
`restore_state`: the controller's tables rebuilt from the evidence ledger at startup, as a fold over
the replayed event classes in ledger order, followed by the tables derived from the result (the
newest offers, the idempotency keys and the reservations). Replica receipts are not modelled.
-/
import Rampage.Controller.Handlers

namespace Rampage.Controller

open Rampage.Protocol Rampage.Planner Rampage.Governor Rampage.Ledger

/-- The maps `restore_state` fills while it replays events. -/
structure Replay where
  nodes : Table Uuid NodeIdentityV1
  invites : Table Uuid InviteRecord
  proposedJobs : Table Uuid JobSpecV1
  assignments : Table Uuid Assignment
  completedReceipts : Table Uuid Uuid
  shardSets : Table Uuid ShardSetRecord
  artifactReplicas : Table (String × Uuid) ArtifactRefV1

/-- The tables before the first event. -/
def Replay.empty : Replay := ⟨∅, ∅, ∅, ∅, ∅, ∅, ∅⟩

section

variable (now : Int) (epoch : Nat)

/-- A lease that is still authority: unexpired and of the current epoch. -/
def isCurrent (lease : CapabilityLeaseV1) : Bool := decide (now < lease.expiresAt) && lease.fencingEpoch == epoch

/-- The assignment of a current lease whose job is known. -/
def replayLease (job : Option JobSpecV1) (lease : CapabilityLeaseV1) (t : Table Uuid Assignment) :
    Table Uuid Assignment :=
  match job with
  | some job => if isCurrent now epoch lease then t.insert lease.jobId ⟨job, lease, false⟩ else t
  | none => t

/-- The job of a set a lease names; of several with one id the last counts. -/
def shardOf (set : ShardSetV1) (jobId : Uuid) : Option JobSpecV1 :=
  (set.shards.filter (·.jobId == jobId)).getLast?

/-- The loop over the leases of an admitted set. -/
def replayLeases (set : ShardSetV1) : List CapabilityLeaseV1 → Table Uuid Assignment → Table Uuid Assignment
  | [], t => t
  | lease :: rest, t => replayLeases set rest (replayLease now epoch (shardOf set lease.jobId) lease t)

/-- `assignments.get_mut(&job_id)` and `claimed = true`. -/
def replayClaim (jobId : Uuid) (t : Table Uuid Assignment) : Table Uuid Assignment :=
  match t.lookup jobId with
  | some a => t.insert jobId { a with claimed := true }
  | none => t

/-- One event of the replay. -/
def replayEvent (r : Replay) : Event → Replay
  | .nodeEnrolled identity => { r with nodes := r.nodes.insert identity.nodeId identity }
  | .nodeRevoked nodeId _ _ =>
    { r with
      nodes := r.nodes.erase nodeId
      assignments := r.assignments.retain fun _ a => a.lease.nodeId != nodeId
      shardSets := r.shardSets.retain fun _ s => s.leases.all (·.nodeId != nodeId)
      artifactReplicas := r.artifactReplicas.retain fun k _ => k.2 != nodeId }
  | .inviteCreated inviteId expiresAt secretHash =>
    if now < expiresAt then { r with invites := r.invites.insert inviteId ⟨secretHash, expiresAt⟩ } else r
  | .inviteConsumed inviteId _ => { r with invites := r.invites.erase inviteId }
  | .jobProposed job => { r with proposedJobs := r.proposedJobs.insert job.jobId job }
  | .leaseIssued lease _ =>
    { r with assignments := replayLease now epoch (r.proposedJobs.lookup lease.jobId) lease r.assignments }
  | .shardSetAdmitted set leases _ =>
    { r with
      assignments := replayLeases now epoch set leases r.assignments
      shardSets := r.shardSets.insert set.setId ⟨set, leases⟩ }
  | .jobClaimed claim => { r with assignments := replayClaim claim.job.jobId r.assignments }
  | .jobReceipted receipt =>
    { r with
      assignments := r.assignments.erase receipt.jobId
      completedReceipts := r.completedReceipts.insert receipt.receiptId receipt.jobId }
  | .artifactHeld _ artifact nodeId =>
    { r with artifactReplicas := r.artifactReplicas.insert (artifact.digest, nodeId) artifact }
  | _ => r

/-- The replay of the ledger. -/
def replay (l : List Event) : Replay := (restoreEvents l).foldl (replayEvent now epoch) .empty

/-- The newest offer of every enrolled node, if it is fresh. -/
def restoredOffers (l : List Event) (nodes : List Uuid) : Table Uuid ResourceOfferV1 :=
  nodes.foldl (fun t nodeId =>
    match latestEventForSubjectOfType l (.id nodeId) .resourceOfferRegistered with
    | some (.resourceOfferRegistered offer) =>
      if offer.nodeId = nodeId ∧ now < offer.expiresAt then t.insert nodeId offer else t
    | _ => t) ∅

end

/-- The idempotency keys of the restored assignments. -/
def restoredIdempotency (assignments : List Assignment) : Table String Uuid :=
  assignments.foldl (fun t a => t.insert a.job.idempotencyKey a.job.jobId) ∅

/-- The reservations of the restored assignments. -/
def restoredReservations (assignments : List Assignment) : List ResourceReservation :=
  assignments.flatMap fun a => reservationsOf a.job a.lease.nodeId a.lease.expiresAt

/-- The tables that come out of a replay. -/
def rebuild (order : IterOrder) (now : Int) (s : AppState) (r : Replay) : AppState :=
  { s with
    nodes := r.nodes
    offers := restoredOffers now s.ledger (order.apply r.nodes.keys)
    invites := r.invites
    assignments := r.assignments
    idempotency := restoredIdempotency (order.apply r.assignments.values)
    reservations := restoredReservations (order.apply r.assignments.values)
    completedReceipts := r.completedReceipts
    shardSets := r.shardSets
    artifactReplicas := r.artifactReplicas
    excludedNodes := ∅ }

/-- `restore_state`, at a clock reading and the stored epoch. -/
def restoreState (order : IterOrder) (now : Int) (s : AppState) : AppState :=
  rebuild order now s (replay now s.fencingEpoch s.ledger)

/-- A restart of the controller at the same epoch: the ledger, the latch, its marker and the epoch are
kept outside the process. -/
def restart (w : World) : Request Unit := fun s =>
  (.ok (), { s with
    toAppState := restoreState (w.order s.reads) (w.clock s.reads) s.toAppState
    reads := s.reads + 1 })

/-! ## The replay as a fold over the whole ledger -/

section

variable {now : Int} {epoch : Nat}

theorem replayEvent_of_not_restored {r : Replay} {e : Event} (h : e.kind ∉ restoreKinds) :
    replayEvent now epoch r e = r := by
  cases e with
  | artifactHeld held artifact nodeId =>
    refine absurd ?_ h
    show held.kind ∈ restoreKinds
    cases held <;> decide
  | nodeEnrolled | nodeRevoked | inviteCreated | inviteConsumed | jobProposed | leaseIssued | shardSetAdmitted
  | jobClaimed | jobReceipted =>
    refine absurd ?_ h
    simp [Event.kind, restoreKinds]
  | _ => rfl

/-- Skipping the events of the other classes changes nothing. -/
theorem foldl_replayEvent_filter : ∀ (l : List Event) (r : Replay),
    (l.filter fun e => decide (e.kind ∈ restoreKinds)).foldl (replayEvent now epoch) r =
      l.foldl (replayEvent now epoch) r
  | [], _ => rfl
  | e :: l, r => by
    by_cases h : e.kind ∈ restoreKinds
    · simp only [List.filter_cons, h, decide_true, if_true, List.foldl_cons]
      exact foldl_replayEvent_filter l _
    · simp only [List.filter_cons, h, decide_false, Bool.false_eq_true, if_false, List.foldl_cons]
      rw [replayEvent_of_not_restored h]
      exact foldl_replayEvent_filter l r

theorem replay_eq_foldl (l : List Event) : replay now epoch l = l.foldl (replayEvent now epoch) .empty := by
  unfold replay
  rw [restoreEvents_eq, foldl_replayEvent_filter]

/-- A restart by the plain fold. -/
theorem restart_eq_foldl (w : World) (s : Host) : (restart w s).2 = { s with
    toAppState := rebuild (w.order s.reads) (w.clock s.reads) s.toAppState
      (s.ledger.foldl (replayEvent (w.clock s.reads) s.fencingEpoch) .empty)
    reads := s.reads + 1 } := by
  rw [← replay_eq_foldl]
  rfl

@[simp] theorem replay_nil : replay now epoch [] = .empty := by rw [replay_eq_foldl]; rfl

theorem replay_append (l l' : List Event) :
    replay now epoch (l ++ l') = l'.foldl (replayEvent now epoch) (replay now epoch l) := by
  rw [replay_eq_foldl, replay_eq_foldl, List.foldl_append]

theorem replay_snoc (l : List Event) (e : Event) :
    replay now epoch (l ++ [e]) = replayEvent now epoch (replay now epoch l) e := replay_append l [e]

end

end Rampage.Controller
