/-
The list of everything a step of the controller can do to the tables about jobs. `step_change` says
that every step is one of these changes; the invariants of a run are proved by cases on `Change`
and never look into a handler again.
-/
import Rampage.Controller.Admitted

namespace Rampage.Controller

open Rampage.Protocol Rampage.Planner Rampage.Governor Rampage.Ledger Handler

/-- The claim a reply hands out. -/
def Reply.claimed : Reply → Option WorkClaimV1
  | .claim (.ok c) => c
  | _ => none

/-- The reply accepts a receipt. -/
def Reply.isAccepted : Reply → Bool
  | .receipt (.ok a) => a.status == .accepted
  | _ => false

/-- The jobs of a request that its deduplication lets through: a job whose key is not bound to a
stored assignment, and the shards of a set whose key is not bound. -/
def Op.undeduplicated (s : Host) : Op → List JobSpecV1
  | .submitJob job => if (boundAssignment s.toAppState job.idempotencyKey).isNone then [job] else []
  | .submitShardSet set =>
    if s.shardSets.values.all (·.spec.idempotencyKey != set.idempotencyKey) then set.shards else []
  | _ => []

/-- Owner STOP and resume. -/
def Op.isHalting : Op → Bool
  | .localStop => true
  | .localResume _ => true
  | _ => false

/-- Events that touch no assignment. -/
def JobPassive (k : EventKind) : Prop :=
  k ∉ [EventKind.nodeRevoked, .leaseIssued, .shardSetAdmitted, .jobClaimed, .jobReceipted]

/-- What a step can do. -/
inductive Change (cfg : Config) (w : World) (s t : Host) : Op → Reply → Prop
  /-- Nothing about jobs, beside events that touch no assignment; only the two enrolment handlers touch
  the nodes and the invites. -/
  | idle {op : Op} {r : Reply} (frame : Frame JobPassive s t) (claimed : r.claimed = none)
      (accepted : r.isAccepted = false)
      (devices : Quiet Passive s t ∨ op = .createInvite ∨ ∃ request, op = .enrollNode request) : Change cfg w s t op r
  /-- STOP or resume. -/
  | halted {op : Op} {r : Reply} (halting : Halting s t) (claimed : r.claimed = none)
      (accepted : r.isAccepted = false) (halts : op.isHalting = true) : Change cfg w s t op r
  /-- Members of a request were admitted. -/
  | admitted {op : Op} {r : Reply} {members : List (JobSpecV1 × CapabilityLeaseV1)}
      (admission : Admission w s t members) (named : ∀ m ∈ members, m.1 ∈ op.undeduplicated s)
      (claimed : r.claimed = none) (accepted : r.isAccepted = false) : Change cfg w s t op r
  /-- A node was revoked. -/
  | revoked {nodeId : Uuid} {confirmed : Bool} {r : Reply} {name key : String}
      (quiet : Quiet Other (forgetNode nodeId { s with
        ledger := s.ledger ++ [.nodeRevoked nodeId name key]
        reads := s.reads + 1
        appends := s.appends + 1 }) t)
      (claimed : r.claimed = none) (accepted : r.isAccepted = false) :
      Change cfg w s t (.revokeNode nodeId confirmed) r
  /-- A claim was handed out and recorded. -/
  | claimed {nodeId jobId : Uuid} {a : Assignment} (claimable : Claimable w s nodeId jobId a)
      (append : w.appendFailure s.appends = none)
      (result : t = markClaimed jobId a { s with
        ledger := s.ledger ++ [.jobClaimed (workClaim cfg a)]
        reads := s.reads + 1
        appends := s.appends + 1 }) :
      Change cfg w s t (.claimWork nodeId) (.claim (.ok (some (workClaim cfg a))))
  /-- An assignment was marked but the record of the claim failed. -/
  | claimLost {nodeId jobId : Uuid} {a : Assignment} {r : Reply} (claimable : Claimable w s nodeId jobId a)
      (append : w.appendFailure s.appends ≠ none)
      (result : t = markClaimed jobId a { s with
        reads := s.reads + 1
        appends := s.appends + 1 })
      (claimed : r.claimed = none) (accepted : r.isAccepted = false) : Change cfg w s t (.claimWork nodeId) r
  /-- A matching receipt was recorded. -/
  | receipted {receipt : ExecutionReceiptV1} {a : Assignment} {r : Reply}
      (stored : s.assignments.lookup receipt.jobId = some a)
      (matching : receiptMatches a receipt s.fencingEpoch = true) (append : w.appendFailure s.appends = none)
      (quiet : Quiet Recording (receipted a receipt s) t) (claimed : r.claimed = none) :
      Change cfg w s t (.submitReceipt receipt) r
  /-- A matching receipt was settled but its record failed. -/
  | receiptLost {receipt : ExecutionReceiptV1} {a : Assignment} {r : Reply}
      (stored : s.assignments.lookup receipt.jobId = some a)
      (matching : receiptMatches a receipt s.fencingEpoch = true) (append : w.appendFailure s.appends ≠ none)
      (result : t = { settleJob receipt.jobId a.job.idempotencyKey s with appends := s.appends + 1 })
      (claimed : r.claimed = none) (accepted : r.isAccepted = false) : Change cfg w s t (.submitReceipt receipt) r
  /-- The controller was restarted. -/
  | restarted : t = (restart w s).2 → Change cfg w s t .restart .done

variable {cfg : Config} {w : World}

theorem jobPassive_of_passive {k : EventKind} (h : Passive k) : JobPassive k := by
  simp only [Passive, JobPassive, List.mem_cons, List.not_mem_nil, or_false, not_or] at *
  tauto

theorem jobPassive_of_enrolling {k : EventKind} (h : Enrolling k) : JobPassive k := by
  rcases h with rfl | rfl | rfl <;> simp [JobPassive]

theorem passive_of_promoting {k : EventKind} (h : Promoting k) : Passive k := by
  rcases h with rfl | rfl <;> simp [Passive]

theorem passive_of_background {k : EventKind} (h : k ∈ backgroundKinds) : Passive k := by
  simp only [backgroundKinds, List.mem_cons, List.not_mem_nil, or_false] at h
  rcases h with rfl | rfl | rfl | rfl | rfl | rfl | rfl <;> simp [Passive]

theorem quiet_background (b : Background) (s : Host) : Quiet Passive s (background b s) := by
  refine ⟨⟨⟨Nat.le_add_right _ _, Nat.le_add_right _ _, Nat.le_add_right _ _⟩, ⟨b.events, rfl, ?_⟩, rfl, rfl, rfl, rfl,
    rfl, rfl, rfl, rfl⟩, rfl, rfl⟩
  exact fun e he => passive_of_background (b.kinds e he)

/-- A quiet step is idle. -/
theorem Change.of_quiet {s t : Host} {op : Op} {r : Reply} (h : Quiet Passive s t) (claimed : r.claimed = none)
    (accepted : r.isAccepted = false) : Change cfg w s t op r :=
  .idle (h.toFrame.mono fun _ => jobPassive_of_passive) claimed accepted (Or.inl h)

/-- Every step is one of the changes. -/
theorem step_change (op : Op) (s : Host) : Change cfg w s (step cfg w op s).2 op (step cfg w op s).1 := by
  cases op with
  | createInvite =>
    exact .idle ((frame_createInvite s).mono fun _ => jobPassive_of_enrolling) rfl rfl (Or.inr (Or.inl rfl))
  | enrollNode request =>
    exact .idle ((frame_enrollNode request s).mono fun _ => jobPassive_of_enrolling) rfl rfl
      (Or.inr (Or.inr ⟨request, rfl⟩))
  | revokeNode nodeId confirmed =>
    rcases revokeNode_cases (w := w) nodeId confirmed s with h | ⟨name, key, h⟩
    · exact .of_quiet (h.mono fun k hk => by rw [hk]; simp [Passive]) rfl rfl
    · exact .revoked h rfl rfl
  | submitJob job =>
    rcases @submitJob_cases cfg w job s with ⟨h, _⟩ | ⟨lease, score, s₁, _, h⟩
    · exact .of_quiet (h.mono fun _ => passive_of_submitting) rfl rfl
    · refine .admitted h.admission ?_ rfl rfl
      intro m hm
      rw [List.mem_singleton] at hm
      subst hm
      simp [Op.undeduplicated, h.unbound]
  | submitShardSet set =>
    rcases @submitShardSet_cases cfg w set s with ⟨h, _⟩ | ⟨leases, placements, s₁, _, h⟩
    · exact .of_quiet (h.mono fun _ => passive_of_staging) rfl rfl
    · refine .admitted h.admission ?_ rfl rfl
      intro m hm
      -- the key was bound to no record, so no member was looked up by its own
      have hnew : s.shardSets.values.all (·.spec.idempotencyKey != set.idempotencyKey) = true := by
        rw [List.all_eq_true]
        intro r hr
        simpa using h.unbound r hr
      rw [Op.undeduplicated, if_pos hnew]
      exact (List.of_mem_zip hm).1
  | claimWork nodeId =>
    rcases @claimWork_cases cfg w nodeId s with ⟨h, hno⟩ | ⟨jobId, a, hc, ⟨hf, hr, ht⟩ | ⟨hf, hno, ht⟩⟩
    · refine .of_quiet (h.mono fun _ => False.elim) ?_ rfl
      show Reply.claimed (.claim (claimWork cfg w nodeId s).1) = none
      rcases hr : (claimWork cfg w nodeId s).1 with e | c
      · rfl
      · cases c with
        | none => rfl
        | some c => exact absurd hr (hno c)
    · have hreply : (step cfg w (.claimWork nodeId) s).1 = .claim (.ok (some (workClaim cfg a))) := by
        show Reply.claim (claimWork cfg w nodeId s).1 = _
        rw [hr]
      rw [hreply]
      exact .claimed hc hf ht
    · refine .claimLost hc hf ht ?_ rfl
      show Reply.claimed (.claim (claimWork cfg w nodeId s).1) = none
      rcases hr : (claimWork cfg w nodeId s).1 with e | c
      · rfl
      · cases c with
        | none => rfl
        | some c => exact absurd hr (hno c)
  | submitReceipt receipt =>
    have hacc : ∀ r : Except HttpError ReceiptReply, ¬ IsAccepted r → Reply.isAccepted (.receipt r) = false := by
      intro r h
      cases r with
      | error e => rfl
      | ok a =>
        show (a.status == .accepted) = false
        rw [beq_eq_false_iff_ne]
        exact fun ha => h ⟨a, rfl, ha⟩
    rcases @submitReceipt_cases cfg w receipt s with ⟨h, hno⟩ | ⟨a, ha, hm, ⟨hf, hno, ht⟩ | ⟨hf, h⟩⟩
    · exact .of_quiet (h.mono fun _ => False.elim) rfl (hacc _ hno)
    · exact .receiptLost ha hm hf ht rfl (hacc _ hno)
    · exact .receipted ha hm hf h rfl
  | authorizePromotionCanary candidate =>
    exact .of_quiet ((quiet_authorizePromotionCanary candidate s).mono fun _ => passive_of_promoting) rfl rfl
  | localStop => exact .halted (halting_localStop s) rfl rfl rfl
  | localResume confirmation =>
    exact .halted ((Keeps.bind (Keeps.ensure _ _) fun _ => halting_localResumeGated) s) rfl rfl rfl
  | background b => exact .of_quiet (quiet_background b s) rfl rfl
  | restart => exact .restarted rfl

/-- The streams only move forward. -/
theorem Change.later {s t : Host} {op : Op} {r : Reply} (h : Change cfg w s t op r) : Later s t := by
  cases h with
  | idle frame => exact frame.later
  | halted halting => exact halting.later
  | admitted admission => exact admission.later
  | revoked quiet =>
    have h := quiet.later
    exact ⟨(Nat.le_succ _).trans h.reads, (Nat.le_succ _).trans h.appends, h.uuids⟩
  | claimed _ _ result => rw [result]; exact ⟨Nat.le_succ _, Nat.le_succ _, le_rfl⟩
  | claimLost _ _ result => rw [result]; exact ⟨Nat.le_succ _, Nat.le_succ _, le_rfl⟩
  | receipted _ _ _ quiet =>
    have h := quiet.later
    exact ⟨h.reads, (Nat.le_succ _).trans h.appends, h.uuids⟩
  | receiptLost _ _ _ result => rw [result]; exact ⟨le_rfl, Nat.le_succ _, le_rfl⟩
  | restarted h => rw [h]; exact ⟨Nat.le_succ _, le_rfl, le_rfl⟩

/-- The ledger only grows. -/
theorem Change.ledger {s t : Host} {op : Op} {r : Reply} (h : Change cfg w s t op r) :
    ∃ es, t.ledger = s.ledger ++ es := by
  cases h with
  | idle frame =>
    obtain ⟨es, hes, _⟩ := frame.events
    exact ⟨es, hes⟩
  | halted halting =>
    obtain ⟨es, hes, _⟩ := halting.events
    exact ⟨es, hes⟩
  | admitted admission =>
    obtain ⟨es, hes, _⟩ := admission.events
    exact ⟨es, hes⟩
  | revoked quiet =>
    obtain ⟨es, hes, _⟩ := quiet.events
    exact ⟨[_] ++ es, by rw [hes]; exact List.append_assoc _ _ _⟩
  | claimed _ _ result => exact ⟨_, by rw [result]; rfl⟩
  | claimLost _ _ result => exact ⟨[], by rw [result]; exact (List.append_nil _).symm⟩
  | receipted _ _ _ quiet =>
    obtain ⟨es, hes, _⟩ := quiet.events
    exact ⟨[_] ++ es, by rw [hes]; exact List.append_assoc _ _ _⟩
  | receiptLost _ _ _ result => exact ⟨[], by rw [result]; exact (List.append_nil _).symm⟩
  | restarted h => exact ⟨[], by rw [h]; exact (List.append_nil _).symm⟩

/-- The fencing epoch never goes back. -/
theorem Change.fencingEpoch {s t : Host} {op : Op} {r : Reply} (h : Change cfg w s t op r) :
    s.fencingEpoch ≤ t.fencingEpoch := by
  cases h with
  | idle frame => rw [frame.fencingEpoch]
  | halted halting => exact halting.fencingEpoch
  | admitted admission => rw [admission.fencingEpoch]
  | revoked quiet => rw [quiet.fencingEpoch]; exact le_rfl
  | claimed _ _ result => rw [result]; exact le_rfl
  | claimLost _ _ result => rw [result]; exact le_rfl
  | receipted _ _ _ quiet => rw [quiet.fencingEpoch]; exact le_rfl
  | receiptLost _ _ _ result => rw [result]; exact le_rfl
  | restarted h => rw [h]; exact le_rfl

end Rampage.Controller
