/-
What the events of a step do to a replay of the ledger, and how replays at different times are
related: an assignment that one replay restores and that is still unexpired later is restored by
the later replay too (`replay_later`).
-/
import Rampage.Controller.Authority

namespace Rampage.Controller

open Rampage.Protocol Rampage.Planner Rampage.Governor Rampage.Ledger

section

variable {u : Int} {epoch : Nat}

/-- The tables about jobs are the same. -/
structure SameJobs (r r' : Replay) : Prop where
  assignments : r'.assignments = r.assignments
  completedReceipts : r'.completedReceipts = r.completedReceipts
  shardSets : r'.shardSets = r.shardSets

/-- An event that touches no assignment. -/
theorem replayEvent_of_jobPassive {r : Replay} {e : Event} (h : JobPassive e.kind) :
    SameJobs r (replayEvent u epoch r e) := by
  cases e with
  | nodeRevoked | leaseIssued | shardSetAdmitted | jobClaimed | jobReceipted => exact absurd (by simp [Event.kind]) h
  | inviteCreated =>
    unfold replayEvent
    dsimp only
    split <;> exact ⟨rfl, rfl, rfl⟩
  | _ => exact ⟨rfl, rfl, rfl⟩

theorem foldl_replayEvent_jobPassive : ∀ {es : List Event} {r : Replay}, (∀ e ∈ es, JobPassive e.kind) →
    SameJobs r (es.foldl (replayEvent u epoch) r)
  | [], _, _ => ⟨rfl, rfl, rfl⟩
  | e :: es, r, h => by
    have h1 : SameJobs r (replayEvent u epoch r e) := replayEvent_of_jobPassive (h e (List.mem_cons_self ..))
    have h2 := foldl_replayEvent_jobPassive (r := replayEvent u epoch r e)
      fun e' he' => h e' (List.mem_cons_of_mem _ he')
    exact ⟨h2.assignments.trans h1.assignments, h2.completedReceipts.trans h1.completedReceipts,
      h2.shardSets.trans h1.shardSets⟩

theorem replay_append_jobPassive {l es : List Event} (h : ∀ e ∈ es, JobPassive e.kind) :
    SameJobs (replay u epoch l) (replay u epoch (l ++ es)) := by
  rw [replay_append]
  exact foldl_replayEvent_jobPassive h

theorem jobPassive_of_halting {k : EventKind} (h : k = .epochAdvanced ∨ k = .ownerStop ∨ k = .ownerResume) :
    JobPassive k := by
  rcases h with rfl | rfl | rfl <;> simp [JobPassive]

theorem jobPassive_of_other {k : EventKind} (h : Other k) : JobPassive k := by
  rw [h]
  simp [JobPassive]

theorem jobPassive_of_recording {k : EventKind} (h : Recording k) : JobPassive k := by
  rw [h]
  simp [JobPassive]

end

/-! ## Replays at different times -/

section Later

variable {u v : Int} {epoch : Nat}

/-- A lease that is current later is current before. -/
theorem isCurrent_of_le {lease : CapabilityLeaseV1} (huv : u ≤ v) (h : isCurrent v epoch lease = true) :
    isCurrent u epoch lease = true := by
  simp only [isCurrent, Bool.and_eq_true, decide_eq_true_eq] at h ⊢
  exact ⟨lt_of_le_of_lt huv h.1, h.2⟩

/-- The proposals do not depend on the clock. -/
theorem replay_proposedJobs (l : List Event) : (replay u epoch l).proposedJobs = (replay v epoch l).proposedJobs := by
  induction l using List.reverseRecOn with
  | nil => rw [replay_nil, replay_nil]
  | append_singleton l e ih =>
    rw [replay_snoc, replay_snoc]
    cases e with
    | jobProposed job =>
      show (replay u epoch l).proposedJobs.insert _ _ = (replay v epoch l).proposedJobs.insert _ _
      rw [ih]
    | inviteCreated =>
      unfold replayEvent
      dsimp only
      split <;> split <;> exact ih
    | _ => exact ih

/-- The later table keeps what the earlier one holds and is still current. -/
def KeepsCurrent (v : Int) (epoch : Nat) (t t' : Table Uuid Assignment) : Prop :=
  ∀ j b, t.lookup j = some b → isCurrent v epoch b.lease = true → t'.lookup j = some b

theorem KeepsCurrent.replayLease {t t' : Table Uuid Assignment} (huv : u ≤ v) (h : KeepsCurrent v epoch t t')
    (job : Option JobSpecV1) (lease : CapabilityLeaseV1) :
    KeepsCurrent v epoch (replayLease u epoch job lease t) (replayLease v epoch job lease t') := by
  intro j b hb hc
  cases job with
  | none => exact h j b hb hc
  | some spec =>
    simp only [Controller.replayLease] at hb ⊢
    by_cases hu : isCurrent u epoch lease = true
    · rw [if_pos hu, Table.lookup_insert'] at hb
      by_cases hj : j = lease.jobId
      · rw [if_pos hj, Option.some.injEq] at hb
        subst hb
        rw [if_pos hc, Table.lookup_insert', if_pos hj]
      · rw [if_neg hj] at hb
        by_cases hv : isCurrent v epoch lease = true
        · rw [if_pos hv, Table.lookup_insert', if_neg hj]
          exact h j b hb hc
        · rw [if_neg hv]
          exact h j b hb hc
    · -- what has expired at the earlier time has expired at the later
      have hv : ¬ isCurrent v epoch lease = true := fun hv => hu (isCurrent_of_le huv hv)
      rw [if_neg hu] at hb
      rw [if_neg hv]
      exact h j b hb hc

theorem KeepsCurrent.replayLeases (huv : u ≤ v) (set : ShardSetV1) : ∀ (leases : List CapabilityLeaseV1)
    {t t' : Table Uuid Assignment}, KeepsCurrent v epoch t t' →
    KeepsCurrent v epoch (replayLeases u epoch set leases t) (replayLeases v epoch set leases t')
  | [], _, _, h => h
  | lease :: leases, _, _, h => KeepsCurrent.replayLeases huv set leases (h.replayLease huv _ lease)

/-- An assignment a replay restores is restored by every later replay at which it is current. -/
theorem replay_later (huv : u ≤ v) (l : List Event) :
    KeepsCurrent v epoch (replay u epoch l).assignments (replay v epoch l).assignments := by
  induction l using List.reverseRecOn with
  | nil =>
    intro j b hb
    rw [replay_nil] at hb
    simp [Replay.empty] at hb
  | append_singleton l e ih =>
    rw [replay_snoc, replay_snoc]
    cases e with
    | nodeRevoked nodeId name key =>
      intro j b hb hc
      obtain ⟨hold, hp⟩ := lookup_of_retain hb
      show ((replay v epoch l).assignments.retain _).lookup j = some b
      rw [Table.lookup_retain, ih j b hold hc]
      simp [hp]
    | inviteCreated inviteId expiresAt secretHash =>
      intro j b hb hc
      have hsame : ∀ x, (replayEvent x epoch (replay x epoch l) (.inviteCreated inviteId expiresAt secretHash)).assignments =
          (replay x epoch l).assignments :=
        fun x => (replayEvent_of_jobPassive (by simp [JobPassive, Event.kind])).assignments
      rw [hsame] at hb ⊢
      exact ih j b hb hc
    | leaseIssued lease placement =>
      show KeepsCurrent v epoch (replayLease u epoch ((replay u epoch l).proposedJobs.lookup lease.jobId) lease _)
        (replayLease v epoch ((replay v epoch l).proposedJobs.lookup lease.jobId) lease _)
      -- the proposed jobs are the same at any time
      rw [replay_proposedJobs (v := v) l]
      exact ih.replayLease huv _ lease
    | shardSetAdmitted set leases placements => exact KeepsCurrent.replayLeases huv set leases ih
    | jobClaimed claim =>
      intro j b hb hc
      rcases lookup_of_replayClaim hb with ⟨hj, hb⟩ | ⟨hj, b', hb', rfl⟩
      · have := ih j b hb hc
        show (replayClaim claim.job.jobId _).lookup j = some b
        unfold replayClaim
        split
        · rw [Table.lookup_insert', if_neg hj, this]
        · exact this
      · have := ih j b' hb' hc
        show (replayClaim claim.job.jobId _).lookup j = _
        rw [hj] at this
        unfold replayClaim
        rw [this, Table.lookup_insert', if_pos hj]
    | jobReceipted receipt =>
      intro j b hb hc
      obtain ⟨hold, hj⟩ := lookup_of_erase hb
      show AList.lookup j ((replay v epoch l).assignments.erase receipt.jobId) = some b
      rw [Table.lookup_erase', if_neg hj]
      exact ih j b hold hc
    | _ => exact ih

end Later

/-! ## Admissions -/

section

variable {w : World} {u : Int} {epoch : Nat} {s t : Host} {members : List (JobSpecV1 × CapabilityLeaseV1)}

theorem memberEntry_keys (ms : List (JobSpecV1 × CapabilityLeaseV1)) :
    (ms.map memberEntry).map (·.1) = ms.map (·.1.jobId) := by
  rw [List.map_map]
  rfl

/-- An admitted member is stored. -/
theorem Admission.lookup_of_mem (h : Admission w s t members) {m : JobSpecV1 × CapabilityLeaseV1} (hm : m ∈ members) :
    t.assignments.lookup m.1.jobId = some ⟨m.1, m.2, false⟩ := by
  rw [h.assignments]
  refine Table.lookup_insertAll_of_mem ?_ (List.mem_map_of_mem (f := memberEntry) hm)
  rw [memberEntry_keys]
  exact h.distinct

/-- An admission leaves the assignments of other jobs alone. -/
theorem Admission.lookup_of_notMem (h : Admission w s t members) {j : Uuid} (hj : j ∉ members.map (·.1.jobId)) :
    t.assignments.lookup j = s.assignments.lookup j := by
  rw [h.assignments]
  apply Table.lookup_insertAll_of_notMem
  rw [memberEntry_keys]
  exact hj

/-- A replay after an admission restores its current members. -/
theorem Admission.replayed_of_mem (h : Admission w s t members) {m : JobSpecV1 × CapabilityLeaseV1} (hm : m ∈ members)
    (hc : isCurrent u epoch m.2 = true) :
    (replay u epoch t.ledger).assignments.lookup m.1.jobId = some ⟨m.1, m.2, false⟩ := by
  rw [h.replayed]
  refine Table.lookup_insertAll_of_mem ?_ (List.mem_map_of_mem (f := memberEntry) (List.mem_filter.2 ⟨hm, hc⟩))
  rw [memberEntry_keys]
  exact h.distinct.sublist (List.filter_sublist.map _)

/-- It restores for any other job what it did before. -/
theorem Admission.replayed_of_notMem (h : Admission w s t members) {j : Uuid}
    (hj : ∀ m ∈ members, isCurrent u epoch m.2 = true → m.1.jobId ≠ j) :
    (replay u epoch t.ledger).assignments.lookup j = (replay u epoch s.ledger).assignments.lookup j := by
  rw [h.replayed]
  apply Table.lookup_insertAll_of_notMem
  rw [memberEntry_keys]
  intro hm
  obtain ⟨m, hm, hmj⟩ := List.mem_map.1 hm
  obtain ⟨hm, hc⟩ := List.mem_filter.1 hm
  exact hj m hm hc hmj

/-- A restored assignment after an admission is a current member's or was restored before. -/
theorem Admission.replayed_cases (h : Admission w s t members) {j : Uuid} {b : Assignment}
    (hb : (replay u epoch t.ledger).assignments.lookup j = some b) :
    (∃ m ∈ members, isCurrent u epoch m.2 = true ∧ j = m.1.jobId ∧ b = ⟨m.1, m.2, false⟩) ∨
      (replay u epoch s.ledger).assignments.lookup j = some b := by
  rw [h.replayed] at hb
  rcases Table.lookup_insertAll_cases hb with hm | ⟨_, ho⟩
  · obtain ⟨m, hm, he⟩ := List.mem_map.1 hm
    obtain ⟨hm, hc⟩ := List.mem_filter.1 hm
    simp only [memberEntry, Prod.mk.injEq] at he
    exact Or.inl ⟨m, hm, hc, he.1.symm, he.2.symm⟩
  · exact Or.inr ho

end

end Rampage.Controller
