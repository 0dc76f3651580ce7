/-
The evidence ledger as the controller reads it back: a sequence of typed events numbered from 1 in
the order they were appended, with the page reads `events_of_type`, `events_for_subject` and
`latest_event_for_subject_of_type`. An event's JSON payload is kept as the record it is printed
from, and its subject as the identifier it names. `restoreEvents` is the gathering loop of the
controller's startup: one paged read per event class, then a sort by sequence number; it yields
exactly the events of those classes, in ledger order (`restoreEvents_eq`).
-/
import Rampage.Planner.Score
import Rampage.Protocol.Promotion
import Mathlib.Data.List.Sort

namespace Rampage.Ledger

open Rampage.Protocol Rampage.Planner

/-- The `event_type` of an event. -/
inductive EventKind
  | nodeEnrolled | nodeRevoked | inviteCreated | inviteConsumed | jobProposed | jobBlocked | leaseIssued
  | shardSetAdmitted | jobClaimed | jobReceipted | artifactReplicated | artifactInputStaged
  | artifactOutputRecorded | artifactReplicaVerified | artifactRepaired | artifactReplicaInvalidated
  | storageLeaseIssued | resourceOfferRegistered | promotionCandidateProposed | promotionCanaryLeaseIssued
  | epochAdvanced | ownerStop | ownerResume | other
deriving DecidableEq

/-- The five classes of events that record an artifact held by a node. -/
inductive HeldKind
  | replicated | inputStaged | outputRecorded | replicaVerified | repaired
deriving DecidableEq

/-- The type of an event about an artifact. -/
def HeldKind.kind : HeldKind → EventKind
  | .replicated => .artifactReplicated
  | .inputStaged => .artifactInputStaged
  | .outputRecorded => .artifactOutputRecorded
  | .replicaVerified => .artifactReplicaVerified
  | .repaired => .artifactRepaired

/-- The `subject_id` of an event: the identifier or the text it is about. -/
inductive Subject
  | id (value : Uuid)
  | text (value : String)
deriving DecidableEq

/-- A ledger event: its class with the payload the controller reads back. -/
inductive Event
  | nodeEnrolled (identity : NodeIdentityV1)
  | nodeRevoked (nodeId : Uuid) (displayName publicKey : String)
  | inviteCreated (inviteId : Uuid) (expiresAt : Int) (secretHash : String)
  | inviteConsumed (inviteId nodeId : Uuid)
  | jobProposed (job : JobSpecV1)
  | jobBlocked (jobId : Uuid) (reason : String)
  | leaseIssued (lease : CapabilityLeaseV1) (placement : PlacementScore)
  | shardSetAdmitted (set : ShardSetV1) (leases : List CapabilityLeaseV1) (placements : List ShardPlacement)
  | jobClaimed (claim : WorkClaimV1)
  | jobReceipted (receipt : ExecutionReceiptV1)
  | artifactHeld (held : HeldKind) (artifact : ArtifactRefV1) (nodeId : Uuid)
  | artifactReplicaInvalidated (digest : String) (nodeId : Uuid)
  | storageLeaseIssued (leaseId : Uuid)
  | resourceOfferRegistered (offer : ResourceOfferV1)
  | promotionCandidateProposed (candidate : PromotionCandidateV1)
  | promotionCanaryLeaseIssued (lease : PromotionCanaryLeaseV1)
  | epochAdvanced (scope : String) (fencingEpoch : Nat)
  | ownerStop (fencingEpoch : Nat)
  | ownerResume
  | other (eventType : String) (subject : Subject)

/-- The type an event is recorded under. -/
def Event.kind : Event → EventKind
  | .nodeEnrolled .. => .nodeEnrolled
  | .nodeRevoked .. => .nodeRevoked
  | .inviteCreated .. => .inviteCreated
  | .inviteConsumed .. => .inviteConsumed
  | .jobProposed .. => .jobProposed
  | .jobBlocked .. => .jobBlocked
  | .leaseIssued .. => .leaseIssued
  | .shardSetAdmitted .. => .shardSetAdmitted
  | .jobClaimed .. => .jobClaimed
  | .jobReceipted .. => .jobReceipted
  | .artifactHeld held .. => held.kind
  | .artifactReplicaInvalidated .. => .artifactReplicaInvalidated
  | .storageLeaseIssued .. => .storageLeaseIssued
  | .resourceOfferRegistered .. => .resourceOfferRegistered
  | .promotionCandidateProposed .. => .promotionCandidateProposed
  | .promotionCanaryLeaseIssued .. => .promotionCanaryLeaseIssued
  | .epochAdvanced .. => .epochAdvanced
  | .ownerStop .. => .ownerStop
  | .ownerResume => .ownerResume
  | .other .. => .other

/-- What an event is recorded about. -/
def Event.subject : Event → Subject
  | .nodeEnrolled identity => .id identity.nodeId
  | .nodeRevoked nodeId _ _ => .id nodeId
  | .inviteCreated inviteId _ _ => .id inviteId
  | .inviteConsumed inviteId _ => .id inviteId
  | .jobProposed job => .id job.jobId
  | .jobBlocked jobId _ => .id jobId
  | .leaseIssued lease _ => .id lease.jobId
  | .shardSetAdmitted set _ _ => .id set.setId
  | .jobClaimed claim => .id claim.job.jobId
  | .jobReceipted receipt => .id receipt.jobId
  | .artifactHeld _ artifact _ => .text artifact.digest
  | .artifactReplicaInvalidated digest _ => .text digest
  | .storageLeaseIssued leaseId => .id leaseId
  | .resourceOfferRegistered offer => .id offer.nodeId
  | .promotionCandidateProposed candidate => .id candidate.proposalId
  | .promotionCanaryLeaseIssued lease => .id lease.proposalId
  | .epochAdvanced scope _ => .text scope
  | .ownerStop _ => .text "local-fabric"
  | .ownerResume => .text "local-fabric"
  | .other _ subject => subject

/-- A stored row: an event with its sequence number. -/
structure LedgerEvent where
  sequence : Nat
  event : Event

/-- The rows of a ledger: `AUTOINCREMENT` numbers them from 1. -/
def rowsFrom (n : Nat) : List Event → List LedgerEvent
  | [] => []
  | e :: l => ⟨n + 1, e⟩ :: rowsFrom (n + 1) l

/-- The events as the ledger numbers them. -/
def rows (l : List Event) : List LedgerEvent := rowsFrom 0 l

/-- `events_of_type`: `WHERE event_type = ?1 AND sequence > ?2 ORDER BY sequence LIMIT ?3`. -/
def eventsOfType (l : List Event) (kind : EventKind) (after limit : Nat) : List LedgerEvent :=
  ((rows l).filter fun r => r.event.kind == kind && decide (after < r.sequence)).take (Nat.min limit 10000)

/-- `events_for_subject`: `WHERE subject_id = ?1 ORDER BY sequence ASC LIMIT ?2`. -/
def eventsForSubject (l : List Event) (subject : Subject) (limit : Nat) : List Event :=
  (l.filter (·.subject == subject)).take (Nat.min limit 10000)

/-- `latest_event_for_subject_of_type`: the last event of a class about a subject. -/
def latestEventForSubjectOfType (l : List Event) (subject : Subject) (kind : EventKind) : Option Event :=
  (l.filter fun e => e.subject == subject && e.kind == kind).getLast?

/-- The event classes `restore_state` replays. -/
def restoreKinds : List EventKind :=
  [.nodeEnrolled, .nodeRevoked, .inviteCreated, .inviteConsumed, .jobProposed, .leaseIssued, .shardSetAdmitted,
    .jobClaimed, .jobReceipted, .artifactReplicated, .artifactInputStaged, .artifactOutputRecorded,
    .artifactReplicaVerified, .artifactRepaired, .artifactReplicaInvalidated]

/-- The page loop of `restore_state` for one event class. -/
def restorePages (l : List Event) (kind : EventKind) : Nat → Nat → List LedgerEvent
  | 0, _ => []
  | fuel + 1, after =>
    let page := eventsOfType l kind after 10000
    match page.getLast? with
    | none => []
    | some last => page ++ restorePages l kind fuel last.sequence

/-- The events `restore_state` replays, sorted by sequence number. Each round of a page loop reads
at least one row, so a round per row is enough. -/
def restoreEvents (l : List Event) : List Event :=
  ((restoreKinds.flatMap fun kind => restorePages l kind (l.length + 1) 0).mergeSort
    fun a b => a.sequence ≤ b.sequence).map (·.event)

/-! ## The restored events are the ledger's, in order -/

theorem mem_rowsFrom_lt {n : Nat} {l : List Event} {r : LedgerEvent} (h : r ∈ rowsFrom n l) : n < r.sequence := by
  induction l generalizing n with
  | nil => cases h
  | cons e l ih =>
    rcases List.mem_cons.1 h with rfl | h
    · exact Nat.lt_succ_self n
    · have := ih h
      omega

theorem rowsFrom_sorted (n : Nat) : ∀ l : List Event, (rowsFrom n l).Pairwise (·.sequence < ·.sequence)
  | [] => .nil
  | _ :: l => .cons (fun _ h => mem_rowsFrom_lt h) (rowsFrom_sorted (n + 1) l)

/-- Rows with the same number are the same row. -/
theorem rowsFrom_inj {n : Nat} {l : List Event} {a b : LedgerEvent} (ha : a ∈ rowsFrom n l)
    (hb : b ∈ rowsFrom n l) (h : a.sequence = b.sequence) : a = b := by
  induction l generalizing n with
  | nil => cases ha
  | cons e l ih =>
    rcases List.mem_cons.1 ha with rfl | ha
    · rcases List.mem_cons.1 hb with rfl | hb
      · rfl
      · have := mem_rowsFrom_lt hb
        simp only at h
        omega
    · rcases List.mem_cons.1 hb with rfl | hb
      · have := mem_rowsFrom_lt ha
        simp only at h
        omega
      · exact ih ha hb

@[simp] theorem length_rowsFrom (n : Nat) : ∀ l : List Event, (rowsFrom n l).length = l.length
  | [] => rfl
  | _ :: l => congrArg (· + 1) (length_rowsFrom (n + 1) l)

theorem rowsFrom_event (n : Nat) : ∀ l : List Event, (rowsFrom n l).map (·.event) = l
  | [] => rfl
  | e :: l => congrArg (e :: ·) (rowsFrom_event (n + 1) l)

/-- The rows of a class after a sequence number. -/
def after (l : List Event) (kind : EventKind) (n : Nat) : List LedgerEvent :=
  (rows l).filter fun r => r.event.kind == kind && decide (n < r.sequence)

theorem after_sorted (l : List Event) (kind : EventKind) (n : Nat) :
    (after l kind n).Pairwise (·.sequence < ·.sequence) :=
  (rowsFrom_sorted 0 l).sublist List.filter_sublist

/-- Cutting a sorted list after a row is keeping the rows with a greater number. -/
theorem after_cut {l : List Event} {kind : EventKind} {n : Nat} {xs ys : List LedgerEvent} {last : LedgerEvent}
    (h : after l kind n = xs ++ ys) (hl : xs.getLast? = some last) : after l kind last.sequence = ys := by
  have hs := after_sorted l kind n
  rw [h, List.pairwise_append] at hs
  obtain ⟨hxs, _, hxy⟩ := hs
  have hmem : last ∈ xs := List.mem_of_getLast? hl
  have hn : n < last.sequence := by
    have : last ∈ after l kind n := by rw [h]; exact List.mem_append_left _ hmem
    have h2 := (List.mem_filter.1 this).2
    simp only [Bool.and_eq_true, decide_eq_true_eq] at h2
    exact h2.2
  have hfilter : after l kind last.sequence = (after l kind n).filter fun r => decide (last.sequence < r.sequence) := by
    unfold after
    rw [List.filter_filter]
    apply List.filter_congr
    intro r _
    by_cases hk : r.event.kind = kind
    · by_cases hr : last.sequence < r.sequence
      · have : n < r.sequence := by omega
        simp [hk, hr, this]
      · simp [hk, hr]
    · have hb : (r.event.kind == kind) = false := beq_eq_false_iff_ne.2 hk
      rw [hb, Bool.false_and, Bool.false_and, Bool.and_false]
  rw [hfilter, h, List.filter_append]
  have hnil : xs.filter (fun r => decide (last.sequence < r.sequence)) = [] := by
    rw [List.filter_eq_nil_iff]
    intro r hr
    obtain ⟨zs, rfl⟩ := List.getLast?_eq_some_iff.1 hl
    rcases List.mem_append.1 hr with hr | hr
    · have hlt := (List.pairwise_append.1 hxs).2.2 r hr last (List.mem_singleton_self _)
      rw [decide_eq_true_eq]
      exact Nat.not_lt.2 (Nat.le_of_lt hlt)
    · rw [List.mem_singleton] at hr
      simp [hr]
  have hall : ys.filter (fun r => decide (last.sequence < r.sequence)) = ys := by
    rw [List.filter_eq_self]
    intro r hr
    simpa using hxy last hmem r hr
  rw [hnil, hall, List.nil_append]

/-- The page loop reads every row of the class after its start. -/
theorem restorePages_eq (l : List Event) (kind : EventKind) :
    ∀ (fuel n : Nat), (after l kind n).length < fuel → restorePages l kind fuel n = after l kind n
  | 0, _, h => by omega
  | fuel + 1, n, h => by
    have hpage : eventsOfType l kind n 10000 = (after l kind n).take 10000 := rfl
    unfold restorePages
    simp only [hpage]
    split
    · rename_i hnone
      rw [List.getLast?_eq_none_iff, List.take_eq_nil_iff] at hnone
      rcases hnone with h0 | h0
      · omega
      · exact h0.symm
    · rename_i last hlast
      have hsplit : after l kind n = (after l kind n).take 10000 ++ (after l kind n).drop 10000 :=
        (List.take_append_drop _ _).symm
      have hcut := after_cut hsplit hlast
      have hne : after l kind n ≠ [] := by
        intro h0
        rw [h0] at hlast
        cases hlast
      have hpos : 0 < (after l kind n).length := List.length_pos_iff.2 hne
      have hlen : (after l kind last.sequence).length < fuel := by
        rw [hcut, List.length_drop]
        omega
      rw [restorePages_eq l kind fuel last.sequence hlen, hcut, List.take_append_drop]

theorem after_zero (l : List Event) (kind : EventKind) :
    after l kind 0 = (rows l).filter fun r => r.event.kind == kind := by
  unfold after
  apply List.filter_congr
  intro r hr
  have := mem_rowsFrom_lt (n := 0) hr
  simp [this]

theorem filter_kinds_perm (rs : List LedgerEvent) : ∀ kinds : List EventKind, kinds.Nodup →
    (kinds.flatMap fun kind => rs.filter fun r => r.event.kind == kind).Perm
      (rs.filter fun r => decide (r.event.kind ∈ kinds))
  | [], _ => by simp
  | kind :: kinds, h => by
    obtain ⟨hk, hkinds⟩ := List.nodup_cons.1 h
    rw [List.flatMap_cons]
    refine ((filter_kinds_perm rs kinds hkinds).append_left _).trans ?_
    have hsplit := List.filter_append_perm (fun r : LedgerEvent => r.event.kind == kind)
      (rs.filter fun r => decide (r.event.kind ∈ kind :: kinds))
    rw [List.filter_filter, List.filter_filter] at hsplit
    refine List.Perm.trans (List.Perm.of_eq ?_) hsplit
    congr 1
    · apply List.filter_congr
      intro r _
      by_cases he : r.event.kind = kind <;> simp [he]
    · apply List.filter_congr
      intro r _
      by_cases he : r.event.kind = kind
      · simp [he, hk]
      · simp [he]

/-- The events `restore_state` replays are the ledger's events of the replayed classes, in order. -/
theorem restoreEvents_eq (l : List Event) :
    restoreEvents l = l.filter fun e => decide (e.kind ∈ restoreKinds) := by
  have hpages : (restoreKinds.flatMap fun kind => restorePages l kind (l.length + 1) 0) =
      restoreKinds.flatMap fun kind => (rows l).filter fun r => r.event.kind == kind := by
    congr 1
    funext kind
    rw [restorePages_eq, after_zero]
    calc (after l kind 0).length ≤ (rows l).length := List.length_filter_le ..
      _ = l.length := length_rowsFrom 0 l
      _ < l.length + 1 := Nat.lt_succ_self _
  have hsorted : ((rows l).filter fun r => decide (r.event.kind ∈ restoreKinds)).Pairwise
      (fun a b : LedgerEvent => decide (a.sequence ≤ b.sequence) = true) :=
    ((rowsFrom_sorted 0 l).sublist List.filter_sublist).imp fun h => by simpa using Nat.le_of_lt h
  -- both lists are sorted by sequence and hold the same rows
  have hmerge : ((restoreKinds.flatMap fun kind => restorePages l kind (l.length + 1) 0).mergeSort
      fun a b => a.sequence ≤ b.sequence) = (rows l).filter fun r => decide (r.event.kind ∈ restoreKinds) := by
    rw [hpages]
    have hperm := filter_kinds_perm (rows l) restoreKinds (by decide)
    have hm := (List.mergeSort_perm (restoreKinds.flatMap fun kind => (rows l).filter fun r => r.event.kind == kind)
      (fun a b => decide (a.sequence ≤ b.sequence))).trans hperm
    refine List.Perm.eq_of_pairwise ?_ (List.pairwise_mergeSort ?_ ?_ _) hsorted hm
    · intro a b ha hb hab hba
      have ha' : a ∈ rows l := (List.mem_filter.1 (hm.mem_iff.1 ha)).1
      have hb' : b ∈ rows l := (List.mem_filter.1 hb).1
      simp only [decide_eq_true_eq] at hab hba
      exact rowsFrom_inj ha' hb' (by omega)
    · intro a b c hab hbc
      simp only [decide_eq_true_eq] at *
      omega
    · intro a b
      simp only [Bool.or_eq_true, decide_eq_true_eq]
      omega
  unfold restoreEvents
  rw [hmerge]
  have := rowsFrom_event 0 l
  conv_rhs => rw [← this]
  rw [List.filter_map]
  rfl

end Rampage.Ledger
