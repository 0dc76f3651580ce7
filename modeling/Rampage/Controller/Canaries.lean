/-
Promotion canaries in a run. A request decides from the oldest 128 events about its proposal: they bind the proposal to a
candidate, and an active lease among them is answered with again. So a proposal has one active canary and one candidate as
long as the events that a request does not see agree with those it sees and hold no active lease (`one_active_canary`). Every
renewal adds two events, and after 64 of them a request no longer sees the lease of the one before.
-/
import Rampage.Controller.Scenario
import Rampage.Governor.Killed

namespace Rampage.Controller

open Rampage.Protocol Rampage.Governor Rampage.Ledger Handler

/-! ## Promotions on the ledger -/

/-- The candidate digest and the project an event binds its proposal to. -/
def bindingOf : Event → Option (String × Uuid)
  | .promotionCandidateProposed candidate => some (candidate.candidateDigest, candidate.projectId)
  | .promotionCanaryLeaseIssued lease => some (lease.candidateDigest, lease.projectId)
  | _ => none

/-- The canary lease an event records. -/
def canaryOf : Event → Option PromotionCanaryLeaseV1
  | .promotionCanaryLeaseIssued lease => some lease
  | _ => none

/-- The events about a proposal. -/
def aboutProposal (ledger : List Event) (proposalId : Uuid) : List Event := ledger.filter (·.subject == .id proposalId)

/-- The canary leases issued for a proposal, in the order of the ledger. -/
def canaryLeases (ledger : List Event) (proposalId : Uuid) : List PromotionCanaryLeaseV1 :=
  (aboutProposal ledger proposalId).filterMap canaryOf

/-- The leases of a proposal that are active at an instant in the current epoch. -/
def activeCanaries (s : Host) (proposalId : Uuid) (now : Int) : List PromotionCanaryLeaseV1 :=
  (canaryLeases s.ledger proposalId).filter (·.isActiveAt now s.fencingEpoch)

/-- The events that a request for a proposal reads. -/
def windowOf (ledger : List Event) (proposalId : Uuid) : List Event := (aboutProposal ledger proposalId).take 128

theorem eventsForSubject_eq (ledger : List Event) (proposalId : Uuid) :
    eventsForSubject ledger (.id proposalId) 128 = windowOf ledger proposalId := rfl

theorem bindingOf_canary {e : Event} {lease : PromotionCanaryLeaseV1} (h : canaryOf e = some lease) :
    e = .promotionCanaryLeaseIssued lease := by
  cases e with
  | promotionCanaryLeaseIssued l =>
    cases h
    rfl
  | _ => cases h

theorem mem_aboutProposal {ledger : List Event} {proposalId : Uuid} {e : Event} :
    e ∈ aboutProposal ledger proposalId ↔ e ∈ ledger ∧ e.subject = .id proposalId := by
  unfold aboutProposal
  rw [List.mem_filter, beq_iff_eq]

theorem mem_canaryLeases {ledger : List Event} {proposalId : Uuid} {lease : PromotionCanaryLeaseV1} :
    lease ∈ canaryLeases ledger proposalId ↔
      .promotionCanaryLeaseIssued lease ∈ ledger ∧ lease.proposalId = proposalId := by
  unfold canaryLeases
  rw [List.mem_filterMap]
  constructor
  · rintro ⟨e, he, hlease⟩
    rw [bindingOf_canary hlease] at he
    obtain ⟨hmem, hsubject⟩ := mem_aboutProposal.1 he
    exact ⟨hmem, Subject.id.inj hsubject⟩
  · rintro ⟨hmem, hid⟩
    exact ⟨_, mem_aboutProposal.2 ⟨hmem, congrArg Subject.id hid⟩, rfl⟩

theorem canaryLeases_append (ledger es : List Event) (proposalId : Uuid) :
    canaryLeases (ledger ++ es) proposalId = canaryLeases ledger proposalId ++ canaryLeases es proposalId := by
  unfold canaryLeases aboutProposal
  rw [List.filter_append, List.filterMap_append]

/-- A candidate alone is no lease. -/
theorem canaryLeases_proposed (candidate : PromotionCandidateV1) (proposalId : Uuid) :
    canaryLeases [.promotionCandidateProposed candidate] proposalId = [] := by
  refine List.eq_nil_iff_forall_not_mem.2 fun lease hlease => ?_
  cases List.mem_singleton.1 (mem_canaryLeases.1 hlease).1

/-- One event is one lease at most. -/
theorem length_canaryLeases_singleton (e : Event) (proposalId : Uuid) : (canaryLeases [e] proposalId).length ≤ 1 := by
  unfold canaryLeases aboutProposal
  exact (List.length_filterMap_le _ _).trans (List.length_filter_le _ _)

/-- An event that is no promotion binds nothing and is no lease. -/
theorem not_promoting {e : Event} (h : ¬ Promoting e.kind) : bindingOf e = none ∧ canaryOf e = none := by
  cases e with
  | promotionCandidateProposed c => exact absurd (.inl rfl) h
  | promotionCanaryLeaseIssued l => exact absurd (.inr rfl) h
  | _ => exact ⟨rfl, rfl⟩

/-- A lease that is active later is active at every instant since it was issued. -/
theorem isActiveAt_earlier {lease : PromotionCanaryLeaseV1} {now earlier : Int} {epoch : Nat}
    (h : lease.isActiveAt now epoch = true) (hissued : lease.issuedAt ≤ earlier) (hle : earlier ≤ now) :
    lease.isActiveAt earlier epoch = true := by
  have hskew : (0 : Int) ≤ seconds maxLeaseClockSkewSeconds := by decide
  have hstarted : leaseHasStarted lease.issuedAt earlier = true := by
    unfold leaseHasStarted
    exact decide_eq_true (by omega)
  unfold PromotionCanaryLeaseV1.isActiveAt at h ⊢
  simp only [Bool.and_eq_true, decide_eq_true_eq] at h ⊢
  have hexpires : earlier < lease.expiresAt := by
    have : now < lease.expiresAt := by tauto
    omega
  tauto

theorem epoch_of_isActiveAt {lease : PromotionCanaryLeaseV1} {now : Int} {epoch : Nat}
    (h : lease.isActiveAt now epoch = true) : lease.fencingEpoch = epoch := by
  unfold PromotionCanaryLeaseV1.isActiveAt at h
  simp only [Bool.and_eq_true, beq_iff_eq] at h
  tauto

/-! ## Requests -/

section

variable {cfg : Config} {w : World}

/-- What a scan of events found that let it through: nothing is bound to another candidate, and no lease was active
when it was read. -/
structure Clear (w : World) (candidate : PromotionCandidateV1) (epoch first last : Nat) (events : List Event) : Prop where
  bound : ∀ e ∈ events, ∀ b, bindingOf e = some b → b = (candidate.candidateDigest, candidate.projectId)
  inactive : ∀ e ∈ events, ∀ lease, canaryOf e = some lease →
    ∃ n, first ≤ n ∧ n < last ∧ lease.isActiveAt (w.clock n) epoch = false

/-- A scan only reads the clock. It fails, finds an active lease of the candidate, or is clear. -/
inductive Scanned (w : World) (candidate : PromotionCandidateV1) (epoch : Nat) (events : List Event) (s : Host) :
    Except HttpError (Option PromotionCanaryLeaseV1) × Host → Prop
  | failed {n : Nat} {e : HttpError} (later : s.reads ≤ n) :
    Scanned w candidate epoch events s (.error e, { s with reads := n })
  | found {n : Nat} {lease : PromotionCanaryLeaseV1} (later : s.reads ≤ n)
    (issued : .promotionCanaryLeaseIssued lease ∈ events) (digest : lease.candidateDigest = candidate.candidateDigest)
    (project : lease.projectId = candidate.projectId) :
    Scanned w candidate epoch events s (.ok (some lease), { s with reads := n })
  | clear {n : Nat} (later : s.reads ≤ n) (clear : Clear w candidate epoch s.reads n events) :
    Scanned w candidate epoch events s (.ok none, { s with reads := n })

/-- An event that says nothing against the request. -/
theorem Scanned.cons {candidate : PromotionCandidateV1} {epoch : Nat} {event : Event} {rest : List Event} {s : Host} {m : Nat}
    {r : Except HttpError (Option PromotionCanaryLeaseV1) × Host} (hm : s.reads ≤ m)
    (h : Scanned w candidate epoch rest { s with reads := m } r)
    (hbound : ∀ b, bindingOf event = some b → b = (candidate.candidateDigest, candidate.projectId))
    (hinactive : ∀ lease, canaryOf event = some lease →
      ∃ n, s.reads ≤ n ∧ n < m ∧ lease.isActiveAt (w.clock n) epoch = false) :
    Scanned w candidate epoch (event :: rest) s r := by
  cases h with
  | failed later => exact .failed (hm.trans later)
  | found later issued digest project => exact .found (hm.trans later) (List.mem_cons_of_mem _ issued) digest project
  | @clear n later clear =>
    have hn : m ≤ n := later
    refine .clear (hm.trans hn) ⟨?_, ?_⟩
    · intro e he
      rcases List.mem_cons.1 he with rfl | he
      · exact hbound
      · exact clear.bound e he
    · intro e he lease hlease
      rcases List.mem_cons.1 he with rfl | he
      · obtain ⟨k, hk, hkm, hactive⟩ := hinactive lease hlease
        exact ⟨k, hk, Nat.lt_of_lt_of_le hkm hn, hactive⟩
      · obtain ⟨k, hk, hkn, hactive⟩ := clear.inactive e he lease hlease
        exact ⟨k, hm.trans hk, hkn, hactive⟩

theorem scanned_fail {candidate : PromotionCandidateV1} {epoch : Nat} {events : List Event} {s : Host} (e : HttpError) :
    Scanned w candidate epoch events s ((fail e : Request (Option PromotionCanaryLeaseV1)) s) := by
  show Scanned w candidate epoch events s (.error e, { s with reads := s.reads })
  exact .failed (Nat.le_refl s.reads)

theorem scanPromotionEvents_scanned (candidate : PromotionCandidateV1) (epoch : Nat) (events : List Event) (s : Host) :
    Scanned w candidate epoch events s (scanPromotionEvents w candidate epoch events s) := by
  induction events generalizing s with
  | nil =>
    show Scanned w candidate epoch [] s (.ok none, { s with reads := s.reads })
    refine .clear (Nat.le_refl s.reads) ⟨?_, ?_⟩
    · intro e he
      cases he
    · intro e he
      cases he
  | cons event rest ih =>
    cases event with
    | promotionCandidateProposed existing =>
      rw [scanPromotionEvents]
      by_cases hother : existing.candidateDigest ≠ candidate.candidateDigest ∨ existing.projectId ≠ candidate.projectId ∨
          existing.changedPaths ≠ candidate.changedPaths
      · rw [if_pos hother]
        exact scanned_fail _
      · rw [if_neg hother]
        push Not at hother
        refine .cons (Nat.le_refl s.reads) (ih s) ?_ ?_
        · rintro b hb
          cases hb
          rw [hother.1, hother.2.1]
        · intro lease hlease
          cases hlease
    | promotionCanaryLeaseIssued existing =>
      rw [scanPromotionEvents]
      by_cases hother : existing.candidateDigest ≠ candidate.candidateDigest ∨ existing.projectId ≠ candidate.projectId
      · rw [if_pos hother]
        exact scanned_fail _
      · rw [if_neg hother, utcNow_bind]
        push Not at hother
        -- the clock is read for each lease, and the first one that is active is the answer
        by_cases hactive : existing.isActiveAt (w.clock s.reads) epoch = true
        · rw [if_pos hactive]
          show Scanned w candidate epoch _ s (.ok (some existing), { s with reads := s.reads + 1 })
          exact .found (Nat.le_succ s.reads) (List.mem_cons_self ..) hother.1 hother.2
        · rw [if_neg hactive]
          rw [Bool.not_eq_true] at hactive
          refine .cons (Nat.le_succ _) (ih { s with reads := s.reads + 1 }) ?_ ?_
          · rintro b hb
            cases hb
            rw [hother.1, hother.2]
          · rintro lease hlease
            cases hlease
            exact ⟨s.reads, le_rfl, Nat.lt_succ_self _, hactive⟩
    | _ =>
      refine .cons (Nat.le_refl s.reads) (ih s) ?_ ?_
      · intro b hb
        cases hb
      · intro lease hlease
        cases hlease

/-- What a request for a canary leaves and answers: nothing new and an error, the active lease again, a candidate without
a lease, or a new lease. -/
inductive Authorized (w : World) (candidate : PromotionCandidateV1) (s t : Host) :
    Except HttpError (StatusCode × PromotionCanaryLeaseV1) → Prop
  | refused {e : HttpError} (ledger : t.ledger = s.ledger) : Authorized w candidate s t (.error e)
  | again {lease : PromotionCanaryLeaseV1} (ledger : t.ledger = s.ledger)
    (issued : .promotionCanaryLeaseIssued lease ∈ windowOf s.ledger candidate.proposalId)
    (digest : lease.candidateDigest = candidate.candidateDigest) (project : lease.projectId = candidate.projectId) :
    Authorized w candidate s t (.ok (.ok, lease))
  | lost {n : Nat} {e : HttpError}
    (clear : Clear w candidate s.fencingEpoch s.reads n (windowOf s.ledger candidate.proposalId))
    (ledger : t.ledger = s.ledger ++ [.promotionCandidateProposed candidate]) : Authorized w candidate s t (.error e)
  | minted {n m : Nat} {lease : PromotionCanaryLeaseV1}
    (clear : Clear w candidate s.fencingEpoch s.reads n (windowOf s.ledger candidate.proposalId))
    (reads : s.reads ≤ n ∧ n ≤ m ∧ m < t.reads) (issuedAt : lease.issuedAt = w.clock m) (epoch : lease.fencingEpoch = s.fencingEpoch)
    (proposal : lease.proposalId = candidate.proposalId) (digest : lease.candidateDigest = candidate.candidateDigest)
    (project : lease.projectId = candidate.projectId)
    (ledger : t.ledger = s.ledger ++ [.promotionCandidateProposed candidate, .promotionCanaryLeaseIssued lease]) :
    Authorized w candidate s t (.ok (.created, lease))

/-- A lease is minted at the reading of its request, for the candidate's project, and expires with the evidence at the latest. -/
theorem authorizePromotionCanaryAtEpoch_fresh {config : GovernorConfig} {sign : PromotionCanaryLeaseV1 → String}
    {candidate : PromotionCandidateV1} {epoch : Nat} {now : Int} {canaryId : Uuid} {nonce : String}
    {lease : PromotionCanaryLeaseV1}
    (h : authorizePromotionCanaryAtEpoch config sign candidate epoch now canaryId nonce = .ok lease) :
    lease.issuedAt = now ∧ lease.projectId = candidate.projectId ∧ lease.expiresAt ≤ candidate.expiresAt := by
  unfold authorizePromotionCanaryAtEpoch at h
  split at h
  · cases h
  split at h
  · cases h
  split at h
  · cases h
  split at h
  · cases h
  cases h
  exact ⟨rfl, rfl, min_le_left _ _⟩

/-- What a request does with the Governor's decision. -/
def recordCanary (w : World) (candidate : PromotionCandidateV1) (decision : Except Denial PromotionCanaryLeaseV1) :
    Request (StatusCode × PromotionCanaryLeaseV1) := do
  let lease ← ofExcept (decision.mapError fun d => { status := canaryDenialStatus d, error := d.text })
  append w (.promotionCandidateProposed candidate)
  append w (.promotionCanaryLeaseIssued lease)
  pure (.created, lease)

/-- A request after a clear scan. -/
theorem authorizePromotionCanaryGated_of_clear {candidate : PromotionCandidateV1} {s t : Host}
    (h : scanPromotionEvents w candidate s.fencingEpoch (windowOf s.ledger candidate.proposalId) s = (.ok none, t)) :
    authorizePromotionCanaryGated cfg w candidate s =
      recordCanary w candidate (authorizePromotionCanaryAtEpoch cfg.governor cfg.signCanary candidate s.fencingEpoch
        (w.clock t.reads) (w.uuid t.uuids) (w.text t.texts))
        { t with reads := t.reads + 1, uuids := t.uuids + 1, texts := t.texts + 1 } := by
  unfold authorizePromotionCanaryGated
  rw [get_bind, eventsForSubject_eq, bind_of_ok h]
  rfl

theorem authorizePromotionCanaryGated_authorized (candidate : PromotionCandidateV1) (s : Host) :
    Authorized w candidate s (authorizePromotionCanaryGated cfg w candidate s).2
      (authorizePromotionCanaryGated cfg w candidate s).1 := by
  have hscan := @scanPromotionEvents_scanned w candidate s.fencingEpoch (windowOf s.ledger candidate.proposalId) s
  generalize hr : scanPromotionEvents w candidate s.fencingEpoch (windowOf s.ledger candidate.proposalId) s = r at hscan
  -- by what the scan of the candidate's history comes to
  cases hscan with
  | failed later =>
    unfold authorizePromotionCanaryGated
    rw [get_bind, eventsForSubject_eq, bind_of_error hr]
    exact .refused rfl
  | found later issued digest project =>
    unfold authorizePromotionCanaryGated
    rw [get_bind, eventsForSubject_eq, bind_of_ok hr]
    exact .again rfl issued digest project
  | @clear n later clear =>
    rw [authorizePromotionCanaryGated_of_clear hr]
    dsimp only
    cases hauth : authorizePromotionCanaryAtEpoch cfg.governor cfg.signCanary candidate s.fencingEpoch
        (w.clock n) (w.uuid s.uuids) (w.text s.texts) with
    | error d => exact .refused rfl
    | ok lease =>
      obtain ⟨hepoch, hproposal, hdigest, -⟩ := authorizePromotionCanaryAtEpoch_spec hauth
      obtain ⟨hissued, hproject, -⟩ := authorizePromotionCanaryAtEpoch_fresh hauth
      show Authorized w candidate s ((append w (.promotionCandidateProposed candidate) >>= fun _ => _ : Request _) _).2
        ((append w (.promotionCandidateProposed candidate) >>= fun _ => _ : Request _) _).1
      rcases h1 : append w (.promotionCandidateProposed candidate)
        { s with reads := n + 1, uuids := s.uuids + 1, texts := s.texts + 1 } with ⟨e | u, s₁⟩
      · obtain ⟨_, rfl⟩ := append_error h1
        rw [bind_of_error h1]
        exact .refused rfl
      obtain ⟨_, rfl⟩ := append_ok h1
      rw [bind_of_ok h1]
      rcases h2 : append w (.promotionCanaryLeaseIssued lease)
        { s with
          ledger := s.ledger ++ [.promotionCandidateProposed candidate]
          reads := n + 1
          appends := s.appends + 1
          uuids := s.uuids + 1
          texts := s.texts + 1 } with ⟨e | u, s₂⟩
      · obtain ⟨_, rfl⟩ := append_error h2
        rw [bind_of_error h2]
        exact .lost clear rfl
      · obtain ⟨_, rfl⟩ := append_ok h2
        rw [bind_of_ok h2]
        refine .minted clear ⟨later, Nat.le_refl n, Nat.lt_succ_self n⟩ hissued hepoch hproposal hdigest hproject ?_
        exact List.append_assoc _ _ _

/-- Under the kill latch nothing happens. -/
theorem authorizePromotionCanary_authorized (candidate : PromotionCandidateV1) (s : Host) :
    Authorized w candidate s (authorizePromotionCanary cfg w candidate s).2
      (authorizePromotionCanary cfg w candidate s).1 := by
  unfold authorizePromotionCanary
  rcases h : refuseWhileKilled s with ⟨e | u, t⟩
  · rw [bind_of_error h]
    unfold refuseWhileKilled at h
    split at h
    · cases h
      exact .refused rfl
    · cases h
  · obtain ⟨_, rfl⟩ := refuseWhileKilled_ok h
    rw [bind_of_ok h]
    exact authorizePromotionCanaryGated_authorized candidate t

end

/-! ## Runs -/

section

variable {cfg : Config} {w : World}

/-- Between `s` and `t` no promotion was recorded. -/
def Unpromoting (s t : Host) : Prop := ∃ es, t.ledger = s.ledger ++ es ∧ ∀ e ∈ es, ¬ Promoting e.kind

theorem Unpromoting.of_frame {K : EventKind → Prop} (hK : ∀ k, K k → ¬ Promoting k) {s t : Host} (h : Frame K s t) :
    Unpromoting s t := by
  obtain ⟨es, hes, hkinds⟩ := h.events
  exact ⟨es, hes, fun e he => hK _ (hkinds e he)⟩

theorem Unpromoting.of_admission {s t : Host} {members : List (JobSpecV1 × CapabilityLeaseV1)} (h : Admission w s t members) :
    Unpromoting s t := by
  obtain ⟨es, hes, hkinds⟩ := h.events
  refine ⟨es, hes, fun e he => ?_⟩
  rcases hkinds e he with (hk | hk | hk | hk) | hk | hk <;> rw [hk] <;> simp [Promoting]

theorem Unpromoting.of_halting {s t : Host} (h : Halting s t) : Unpromoting s t := by
  obtain ⟨es, hes, hkinds⟩ := h.events
  refine ⟨es, hes, fun e he => ?_⟩
  rcases hkinds e he with hk | hk | hk <;> rw [hk] <;> simp [Promoting]

/-- Only a request for a canary records a promotion. -/
theorem step_unpromoting {op : Op} (hop : ∀ candidate, op ≠ .authorizePromotionCanary candidate) (s : Host) :
    Unpromoting s (step cfg w op s).2 := by
  -- no operation but the request for a canary records a kind that promotes
  have henrolling : ∀ k, Enrolling k → ¬ Promoting k := by
    rintro k (rfl | rfl | rfl) <;> simp [Promoting]
  have hother : ∀ k, Other k → ¬ Promoting k := by
    rintro k rfl
    simp [Promoting]
  cases op with
  | createInvite => exact .of_frame henrolling (frame_createInvite s)
  | enrollNode request => exact .of_frame henrolling (frame_enrollNode request s)
  | revokeNode nodeId confirmed =>
    rcases @revokeNode_cases w nodeId confirmed s with h | ⟨name, key, h⟩
    · exact .of_frame hother h.toFrame
    · obtain ⟨es, hes, hkinds⟩ := h.events
      refine ⟨.nodeRevoked nodeId name key :: es, ?_, ?_⟩
      · exact hes.trans (List.append_assoc s.ledger [_] es)
      · intro e he
        rcases List.mem_cons.1 he with rfl | he
        · simp [Promoting, Event.kind]
        · exact hother _ (hkinds e he)
  | submitJob job =>
    rcases @submitJob_cases cfg w job s with ⟨h, _⟩ | ⟨lease, score, s₁, _, h⟩
    · refine .of_frame ?_ h.toFrame
      rintro k (rfl | rfl | rfl | rfl) <;> simp [Promoting]
    · exact .of_admission h.admission
  | submitShardSet set =>
    rcases @submitShardSet_cases cfg w set s with ⟨h, _⟩ | ⟨leases, placements, s₁, _, h⟩
    · refine .of_frame ?_ h.toFrame
      rintro k (rfl | rfl | rfl) <;> simp [Promoting]
    · exact .of_admission h.admission
  | claimWork nodeId =>
    rcases @claimWork_cases cfg w nodeId s with ⟨h, _⟩ | ⟨jobId, a, _, ⟨_, _, ht⟩ | ⟨_, _, ht⟩⟩
    · exact .of_frame (fun _ => False.elim) h.toFrame
    · show Unpromoting s (claimWork cfg w nodeId s).2
      rw [ht]
      refine ⟨[.jobClaimed (workClaim cfg a)], rfl, ?_⟩
      simp [Promoting, Event.kind]
    · show Unpromoting s (claimWork cfg w nodeId s).2
      rw [ht]
      exact ⟨[], (List.append_nil _).symm, by simp⟩
  | submitReceipt receipt =>
    rcases @submitReceipt_cases cfg w receipt s with ⟨h, _⟩ | ⟨a, _, _, ⟨_, _, ht⟩ | ⟨_, h⟩⟩
    · exact .of_frame (fun _ => False.elim) h.toFrame
    · show Unpromoting s (submitReceipt cfg w receipt s).2
      rw [ht]
      exact ⟨[], (List.append_nil _).symm, by simp⟩
    · obtain ⟨es, hes, hkinds⟩ := h.events
      refine ⟨.jobReceipted receipt :: es, ?_, ?_⟩
      · exact hes.trans (List.append_assoc s.ledger [_] es)
      · intro e he
        rcases List.mem_cons.1 he with rfl | he
        · simp [Promoting, Event.kind]
        · rw [hkinds e he]
          simp [Promoting]
  | authorizePromotionCanary candidate => exact absurd rfl (hop candidate)
  | localStop => exact .of_halting (halting_localStop s)
  | localResume confirmation =>
    exact .of_halting ((Keeps.bind (Keeps.ensure _ _) fun _ => halting_localResumeGated) s)
  | background b =>
    refine ⟨b.events, rfl, fun e he => ?_⟩
    have hk := b.kinds e he
    simp only [backgroundKinds, List.mem_cons, List.not_mem_nil, or_false] at hk
    rcases hk with hk | hk | hk | hk | hk | hk | hk <;> rw [hk] <;> simp [Promoting]
  | restart => exact ⟨[], (List.append_nil _).symm, by simp⟩

/-- The request sees the promotions that matter: if it agrees with every promotion in its window, it agrees with those
beyond it too, and none of the leases beyond it is active. -/
def SeesPromotions (w : World) (s : Host) : Op → Prop
  | .authorizePromotionCanary candidate =>
    (∀ e ∈ windowOf s.ledger candidate.proposalId, ∀ b, bindingOf e = some b →
      b = (candidate.candidateDigest, candidate.projectId)) →
    ∀ e ∈ (aboutProposal s.ledger candidate.proposalId).drop 128,
      (∀ b, bindingOf e = some b → b = (candidate.candidateDigest, candidate.projectId)) ∧
        ∀ lease, canaryOf e = some lease → lease.isActiveAt (w.clock s.reads) s.fencingEpoch = false
  | _ => True

/-- What holds of the promotions after a run whose requests see them. -/
structure Promoted (w : World) (tr : List (Op × Reply)) (s : Host) : Prop where
  bound : ∀ e ∈ s.ledger, ∀ e' ∈ s.ledger, e.subject = e'.subject → ∀ b b', bindingOf e = some b → bindingOf e' = some b' →
    b = b'
  accepted : ∀ candidate status lease,
    (Op.authorizePromotionCanary candidate, Reply.canary (.ok (status, lease))) ∈ tr →
    ∃ e ∈ s.ledger, e.subject = .id candidate.proposalId ∧
      bindingOf e = some (candidate.candidateDigest, candidate.projectId)
  issued : ∀ lease, .promotionCanaryLeaseIssued lease ∈ s.ledger → ∃ n < s.reads, lease.issuedAt = w.clock n
  apart : ∀ proposalId, (canaryLeases s.ledger proposalId).Pairwise fun lease later => ∀ now epoch, later.issuedAt ≤ now →
    lease.isActiveAt now epoch = true → later.isActiveAt now epoch = false

/-- Steps that record no promotion and accept no candidate. -/
theorem Promoted.of_unpromoting {tr : List (Op × Reply)} {s t : Host} {op : Op} {r : Reply} (h : Promoted w tr s)
    (hu : Unpromoting s t) (hreads : s.reads ≤ t.reads)
    (haccepted : ∀ candidate status lease, (op, r) ≠ (.authorizePromotionCanary candidate, .canary (.ok (status, lease)))) :
    Promoted w (tr ++ [(op, r)]) t := by
  obtain ⟨es, hes, hkinds⟩ := hu
  have hold : ∀ e ∈ t.ledger, ∀ b, bindingOf e = some b → e ∈ s.ledger := by
    intro e he b hb
    rw [hes] at he
    rcases List.mem_append.1 he with he | he
    · exact he
    · rw [(not_promoting (hkinds e he)).1] at hb
      cases hb
  have hleases : ∀ proposalId, canaryLeases t.ledger proposalId = canaryLeases s.ledger proposalId := by
    intro proposalId
    have hnone : canaryLeases es proposalId = [] := by
      refine List.eq_nil_iff_forall_not_mem.2 fun lease hlease => ?_
      exact absurd (.inr rfl) (hkinds _ (mem_canaryLeases.1 hlease).1)
    rw [hes, canaryLeases_append, hnone, List.append_nil]
  refine ⟨?_, ?_, ?_, ?_⟩
  · intro e he e' he' hsubject b b' hb hb'
    exact h.bound e (hold e he b hb) e' (hold e' he' b' hb') hsubject b b' hb hb'
  · intro candidate status lease hmem
    rcases List.mem_append.1 hmem with hmem | hmem
    · obtain ⟨e, he, hrest⟩ := h.accepted candidate status lease hmem
      exact ⟨e, by rw [hes]; exact List.mem_append_left _ he, hrest⟩
    · exact absurd (List.mem_singleton.1 hmem).symm (haccepted candidate status lease)
  · intro lease hlease
    obtain ⟨n, hn, hissued⟩ := h.issued lease (hold _ hlease _ rfl)
    exact ⟨n, by omega, hissued⟩
  · intro proposalId
    rw [hleases]
    exact h.apart proposalId

section

variable {tr : List (Op × Reply)} {s t : Host} {candidate : PromotionCandidateV1} {n m : Nat}

/-- An event about a proposal is in the window of a request or beyond it. -/
theorem mem_window_or_beyond {e : Event} (h : e ∈ aboutProposal s.ledger candidate.proposalId) :
    e ∈ windowOf s.ledger candidate.proposalId ∨ e ∈ (aboutProposal s.ledger candidate.proposalId).drop 128 := by
  rw [← List.take_append_drop 128 (aboutProposal s.ledger candidate.proposalId)] at h
  exact List.mem_append.1 h

/-- After a clear scan that sees the promotions, everything about the proposal is bound to the candidate. -/
theorem bound_of_clear (hsees : SeesPromotions w s (.authorizePromotionCanary candidate))
    (hclear : Clear w candidate s.fencingEpoch s.reads n (windowOf s.ledger candidate.proposalId)) {e : Event}
    (he : e ∈ s.ledger) (hsubject : e.subject = .id candidate.proposalId) {b : String × Uuid} (hb : bindingOf e = some b) :
    b = (candidate.candidateDigest, candidate.projectId) := by
  rcases mem_window_or_beyond (mem_aboutProposal.2 ⟨he, hsubject⟩) with he | he
  · exact hclear.bound e he b hb
  · exact (hsees hclear.bound e he).1 b hb

/-- Every lease of the proposal was inactive at some reading of the request. -/
theorem inactive_of_clear (hsees : SeesPromotions w s (.authorizePromotionCanary candidate))
    (hclear : Clear w candidate s.fencingEpoch s.reads n (windowOf s.ledger candidate.proposalId)) (hn : s.reads ≤ n)
    {lease : PromotionCanaryLeaseV1} (hlease : lease ∈ canaryLeases s.ledger candidate.proposalId) :
    ∃ k, s.reads ≤ k ∧ k ≤ n ∧ lease.isActiveAt (w.clock k) s.fencingEpoch = false := by
  obtain ⟨e, he, hcanary⟩ := List.mem_filterMap.1 hlease
  rcases mem_window_or_beyond he with he | he
  · obtain ⟨k, hk, hkn, hactive⟩ := hclear.inactive e he lease hcanary
    exact ⟨k, hk, hkn.le, hactive⟩
  · exact ⟨s.reads, Nat.le_refl _, hn, (hsees hclear.bound e he).2 lease hcanary⟩

/-- Events of the candidate leave everything bound as it was. -/
theorem Promoted.bound_append (h : Promoted w tr s) {es : List Event} (ht : t.ledger = s.ledger ++ es)
    (hold : ∀ e ∈ s.ledger, e.subject = .id candidate.proposalId → ∀ b, bindingOf e = some b →
      b = (candidate.candidateDigest, candidate.projectId))
    (hnew : ∀ e ∈ es, e.subject = .id candidate.proposalId ∧
      bindingOf e = some (candidate.candidateDigest, candidate.projectId)) :
    ∀ e ∈ t.ledger, ∀ e' ∈ t.ledger, e.subject = e'.subject → ∀ b b', bindingOf e = some b → bindingOf e' = some b' →
      b = b' := by
  have hall : ∀ e ∈ t.ledger, e.subject = .id candidate.proposalId → ∀ b, bindingOf e = some b →
      b = (candidate.candidateDigest, candidate.projectId) := by
    intro e he hsubject b hb
    rw [ht] at he
    rcases List.mem_append.1 he with he | he
    · exact hold e he hsubject b hb
    · rw [(hnew e he).2] at hb
      exact (Option.some_inj.1 hb).symm
  intro e he e' he' hsubject b b' hb hb'
  by_cases hid : e.subject = .id candidate.proposalId
  · rw [hall e he hid b hb, hall e' he' (hsubject ▸ hid) b' hb']
  · have hmem : ∀ e ∈ t.ledger, e.subject ≠ .id candidate.proposalId → e ∈ s.ledger := by
      intro e he hne
      rw [ht] at he
      rcases List.mem_append.1 he with he | he
      · exact he
      · exact absurd (hnew e he).1 hne
    exact h.bound e (hmem e he hid) e' (hmem e' he' (hsubject ▸ hid)) hsubject b b' hb hb'

/-- Further events keep an accepted candidate on record. -/
theorem Promoted.accepted_append (h : Promoted w tr s) {es : List Event} (ht : t.ledger = s.ledger ++ es)
    {r : Except HttpError (StatusCode × PromotionCanaryLeaseV1)}
    (hnew : ∀ status lease, r = .ok (status, lease) → ∃ e ∈ t.ledger, e.subject = .id candidate.proposalId ∧
      bindingOf e = some (candidate.candidateDigest, candidate.projectId)) :
    ∀ c status lease, (Op.authorizePromotionCanary c, Reply.canary (.ok (status, lease))) ∈
        tr ++ [(.authorizePromotionCanary candidate, .canary r)] →
      ∃ e ∈ t.ledger, e.subject = .id c.proposalId ∧ bindingOf e = some (c.candidateDigest, c.projectId) := by
  intro c status lease hin
  rcases List.mem_append.1 hin with hin | hin
  · obtain ⟨e, he, hrest⟩ := h.accepted c status lease hin
    exact ⟨e, by rw [ht]; exact List.mem_append_left _ he, hrest⟩
  · cases List.mem_singleton.1 hin
    exact hnew status lease rfl

/-- A lease minted after a clear scan is not active together with an older one: the older one was inactive when the request
read it, so it had expired. -/
theorem Promoted.apart_minted (h : Promoted w tr s) (hclock : Monotone w.clock)
    (hsees : SeesPromotions w s (.authorizePromotionCanary candidate)) {n m : Nat} {lease : PromotionCanaryLeaseV1}
    (clear : Clear w candidate s.fencingEpoch s.reads n (windowOf s.ledger candidate.proposalId)) (hn : s.reads ≤ n) (hnm : n ≤ m)
    (issuedAt : lease.issuedAt = w.clock m) (epoch : lease.fencingEpoch = s.fencingEpoch) {old : PromotionCanaryLeaseV1}
    (hold : old ∈ canaryLeases s.ledger candidate.proposalId) {now : Int} {current : Nat} (hissued : lease.issuedAt ≤ now)
    (hactive : old.isActiveAt now current = true) : lease.isActiveAt now current = false := by
  rw [← Bool.not_eq_true]
  intro hactive'
  have hcurrent : s.fencingEpoch = current := epoch.symm.trans (epoch_of_isActiveAt hactive')
  obtain ⟨k, hk, hkn, hinactive⟩ := inactive_of_clear hsees clear hn hold
  obtain ⟨i, hi, hissuedAt⟩ := h.issued old (mem_canaryLeases.1 hold).1
  have hbefore : old.issuedAt ≤ w.clock k := by
    rw [hissuedAt]
    exact hclock (by omega)
  have hnow : w.clock k ≤ now := by
    rw [issuedAt] at hissued
    exact (hclock (by omega)).trans hissued
  rw [hcurrent, isActiveAt_earlier hactive hbefore hnow] at hinactive
  cases hinactive

/-- A request that sees the promotions keeps them sound. -/
theorem Promoted.authorized (h : Promoted w tr s) (hclock : Monotone w.clock)
    (hsees : SeesPromotions w s (.authorizePromotionCanary candidate)) (hreads : s.reads ≤ t.reads)
    {r : Except HttpError (StatusCode × PromotionCanaryLeaseV1)} (ha : Authorized w candidate s t r) :
    Promoted w (tr ++ [(.authorizePromotionCanary candidate, .canary r)]) t := by
  have hproposed : (Event.promotionCandidateProposed candidate).subject = .id candidate.proposalId ∧
      bindingOf (.promotionCandidateProposed candidate) = some (candidate.candidateDigest, candidate.projectId) := ⟨rfl, rfl⟩
  cases ha with
  | refused ledger =>
    refine h.of_unpromoting ⟨[], by rw [ledger, List.append_nil], by simp⟩ hreads ?_
    intro c status lease heq
    cases heq
  | @again lease ledger issued digest project =>
    obtain ⟨hmem, hsubject⟩ := mem_aboutProposal.1 (List.mem_of_mem_take issued)
    -- an idempotent answer: the ledger is as it was
    refine ⟨?_, ?_, ?_, ?_⟩
    · rw [ledger]
      exact h.bound
    · refine h.accepted_append (show t.ledger = s.ledger ++ [] by rw [ledger, List.append_nil]) fun _ _ _ => ⟨_, ?_, hsubject, ?_⟩
      · rw [ledger]
        exact hmem
      · rw [bindingOf, digest, project]
    · intro lease' hin
      rw [ledger] at hin
      obtain ⟨k, hk, hissued⟩ := h.issued lease' hin
      exact ⟨k, by omega, hissued⟩
    · rw [ledger]
      exact h.apart
  | lost clear ledger =>
    -- the candidate is on record, and the lease was not written
    refine ⟨?_, ?_, ?_, ?_⟩
    · refine h.bound_append ledger (fun e he hsubject b hb => bound_of_clear hsees clear he hsubject hb) ?_
      intro e he
      rw [List.mem_singleton.1 he]
      exact hproposed
    · refine h.accepted_append ledger ?_
      intro status lease heq
      cases heq
    · intro lease hin
      rw [ledger] at hin
      rcases List.mem_append.1 hin with hin | hin
      · obtain ⟨k, hk, hissued⟩ := h.issued lease hin
        exact ⟨k, by omega, hissued⟩
      · cases List.mem_singleton.1 hin
    · intro proposalId
      rw [ledger, canaryLeases_append, canaryLeases_proposed, List.append_nil]
      exact h.apart proposalId
  | @minted n m lease clear reads issuedAt epoch proposal digest project ledger =>
    obtain ⟨hn, hnm, hm⟩ := reads
    have hleased : (Event.promotionCanaryLeaseIssued lease).subject = .id candidate.proposalId ∧
        bindingOf (.promotionCanaryLeaseIssued lease) = some (candidate.candidateDigest, candidate.projectId) := by
      rw [Event.subject, bindingOf, proposal, digest, project]
      exact ⟨rfl, rfl⟩
    -- candidate and lease are both on record
    refine ⟨?_, ?_, ?_, ?_⟩
    · refine h.bound_append ledger (fun e he hsubject b hb => bound_of_clear hsees clear he hsubject hb) ?_
      intro e he
      rcases List.mem_cons.1 he with rfl | he
      · exact hproposed
      · rw [List.mem_singleton.1 he]
        exact hleased
    · refine h.accepted_append ledger fun _ _ _ => ⟨_, ?_, hproposed⟩
      rw [ledger]
      exact List.mem_append_right _ (List.mem_cons_self ..)
    · intro lease' hin
      rw [ledger] at hin
      rcases List.mem_append.1 hin with hin | hin
      · obtain ⟨k, hk, hissued⟩ := h.issued lease' hin
        exact ⟨k, by omega, hissued⟩
      · rcases List.mem_cons.1 hin with hin | hin
        · cases hin
        · cases List.mem_singleton.1 hin
          exact ⟨m, hm, issuedAt⟩
    · intro proposalId
      rw [ledger, canaryLeases_append, List.pairwise_append]
      have hlast : ∀ l ∈ canaryLeases [.promotionCandidateProposed candidate, .promotionCanaryLeaseIssued lease] proposalId,
          l = lease ∧ proposalId = candidate.proposalId := by
        intro l hl
        obtain ⟨hmem, hid⟩ := mem_canaryLeases.1 hl
        rcases List.mem_cons.1 hmem with hmem | hmem
        · cases hmem
        · cases List.mem_singleton.1 hmem
          exact ⟨rfl, hid.symm.trans proposal⟩
      -- apart among the old, among the new, and the new one from the old
      refine ⟨h.apart proposalId, ?_, ?_⟩
      · rw [← List.singleton_append, canaryLeases_append, canaryLeases_proposed, List.nil_append]
        have hlength := length_canaryLeases_singleton (.promotionCanaryLeaseIssued lease) proposalId
        match canaryLeases [.promotionCanaryLeaseIssued lease] proposalId, hlength with
        | [], _ => exact List.Pairwise.nil
        | [l], _ => exact List.pairwise_singleton _ l
      · intro l hl l' hl' now current hissued hactive
        obtain ⟨rfl, rfl⟩ := hlast l' hl'
        exact h.apart_minted hclock hsees clear hn hnm issuedAt epoch hl hissued hactive

end

/-- Every step keeps the promotions sound. -/
theorem Promoted.step (hclock : Monotone w.clock) (tr : List (Op × Reply)) (s : Host) (op : Op) (h : Promoted w tr s)
    (hsees : SeesPromotions w s op) :
    Promoted w (tr ++ [(op, (Controller.step cfg w op s).1)]) (Controller.step cfg w op s).2 := by
  have hreads : s.reads ≤ (Controller.step cfg w op s).2.reads := (@step_change cfg w op s).later.reads
  by_cases hop : ∃ candidate, op = .authorizePromotionCanary candidate
  · obtain ⟨candidate, rfl⟩ := hop
    exact h.authorized hclock hsees hreads (authorizePromotionCanary_authorized candidate s)
  · push Not at hop
    refine h.of_unpromoting (step_unpromoting hop s) hreads ?_
    intro candidate status lease heq
    exact hop candidate (Prod.mk.inj heq).1

/-- The promotions of a history: no two leases of a proposal are active now, and whoever was answered with a lease agrees
with every promotion of the proposal and so with everybody else who was. -/
structure CanariesSound (w : World) (tr : List (Op × Reply)) (s : Host) : Prop where
  oneActive : ∀ proposalId now, (∀ n < s.reads, w.clock n ≤ now) → (activeCanaries s proposalId now).length ≤ 1
  bound : ∀ candidate status lease, (Op.authorizePromotionCanary candidate, Reply.canary (.ok (status, lease))) ∈ tr →
    ∀ e ∈ s.ledger, e.subject = .id candidate.proposalId → ∀ b, bindingOf e = some b →
      b = (candidate.candidateDigest, candidate.projectId)
  once : ∀ candidate status lease candidate' status' lease',
    (Op.authorizePromotionCanary candidate, Reply.canary (.ok (status, lease))) ∈ tr →
    (Op.authorizePromotionCanary candidate', Reply.canary (.ok (status', lease'))) ∈ tr →
    candidate.proposalId = candidate'.proposalId →
      candidate.candidateDigest = candidate'.candidateDigest ∧ candidate.projectId = candidate'.projectId

/-- Leases of which no two are active together leave one active at most. -/
theorem Promoted.sound {tr : List (Op × Reply)} {s : Host} (h : Promoted w tr s) : CanariesSound w tr s := by
  refine ⟨?_, ?_, ?_⟩
  · intro proposalId now hnow
    have hissued : ∀ lease ∈ canaryLeases s.ledger proposalId, lease.issuedAt ≤ now := by
      intro lease hlease
      obtain ⟨n, hn, hissued⟩ := h.issued lease (mem_canaryLeases.1 hlease).1
      rw [hissued]
      exact hnow n hn
    have hapart : (activeCanaries s proposalId now).Pairwise fun _ _ => False := by
      refine (List.Pairwise.filter _ (h.apart proposalId)).imp_of_mem ?_
      intro lease later hlease hlater hpair
      obtain ⟨_, hactive⟩ := List.mem_filter.1 hlease
      obtain ⟨hmem, hactive'⟩ := List.mem_filter.1 hlater
      rw [hpair now s.fencingEpoch (hissued later hmem) hactive] at hactive'
      cases hactive'
    match activeCanaries s proposalId now, hapart with
    | [], _ => exact Nat.zero_le 1
    | [_], _ => exact Nat.le_refl 1
    | _ :: later :: _, hpair => exact absurd (List.mem_cons_self ..) fun hmem => (List.pairwise_cons.1 hpair).1 later hmem
  · intro candidate status lease hin e he hsubject b hb
    obtain ⟨e', he', hsubject', hb'⟩ := h.accepted candidate status lease hin
    exact h.bound e he e' he' (hsubject.trans hsubject'.symm) b _ hb hb'
  · intro candidate status lease candidate' status' lease' hin hin' hid
    obtain ⟨e, he, hsubject, hb⟩ := h.accepted candidate status lease hin
    obtain ⟨e', he', hsubject', hb'⟩ := h.accepted candidate' status' lease' hin'
    have heq := h.bound e he e' he' (by rw [hsubject, hsubject', hid]) _ _ hb hb'
    exact Prod.mk.inj heq

/-- A request adds two events at most. -/
theorem Authorized.length_le {candidate : PromotionCandidateV1} {s t : Host}
    {r : Except HttpError (StatusCode × PromotionCanaryLeaseV1)} (h : Authorized w candidate s t r) :
    t.ledger.length ≤ s.ledger.length + 2 := by
  cases h <;> simp_all

/-- A request that reads all events about its proposal sees all of its promotions. -/
theorem seesPromotions_of_length_le {candidate : PromotionCandidateV1} {s : Host} (h : s.ledger.length ≤ 128) :
    SeesPromotions w s (.authorizePromotionCanary candidate) := by
  intro _ e he
  have hlength : (aboutProposal s.ledger candidate.proposalId).length ≤ 128 := (List.length_filter_le _ _).trans h
  rw [List.drop_eq_nil_of_le hlength] at he
  cases he

/-- So do the requests of a short run. -/
theorem meets_of_length_le : ∀ (requests : List PromotionCandidateV1) (s : Host), s.ledger.length + 2 * requests.length ≤ 130 →
    (machine cfg w).Meets (SeesPromotions w) (requests.map .authorizePromotionCanary) s
  | [], _, _ => trivial
  | candidate :: rest, s, h => by
    rw [List.length_cons] at h
    have hlength : ((machine cfg w).step (.authorizePromotionCanary candidate) s).2.ledger.length ≤ s.ledger.length + 2 :=
      (authorizePromotionCanary_authorized candidate s).length_le
    exact ⟨seesPromotions_of_length_le (by omega), meets_of_length_le rest _ (by omega)⟩

/-- As long as the clock does not go back and every request sees the promotions that matter, a proposal has one active canary
and one candidate. -/
theorem one_active_canary (hclock : Monotone w.clock) (ops : List Op) (epoch : Nat)
    (artifactHead : String → Except String ArtifactRefV1)
    (hsees : (machine cfg w).Meets (SeesPromotions w) ops (initial epoch artifactHead)) :
    CanariesSound w ((machine cfg w).trace ops (initial epoch artifactHead))
      ((machine cfg w).exec ops (initial epoch artifactHead)) := by
  have hinitial : Promoted w [] (initial epoch artifactHead) := by
    refine ⟨?_, ?_, ?_, fun _ => List.Pairwise.nil⟩
    · intro e he
      cases he
    · intro candidate status lease hin
      cases hin
    · intro lease hin
      cases hin
  have hrun := (machine cfg w).invariant (I := fun tr s => Promoted w tr s) (fun tr s op => Promoted.step hclock tr s op)
    ops [] _ hinitial hsees
  exact hrun.sound

end

/-- Two requests for one change. -/
theorem one_active_canary_requested_twice :
    CanariesSound Scenario.world
      ((machine Scenario.config Scenario.world).trace
        [.authorizePromotionCanary Killed.candidate, .authorizePromotionCanary Killed.candidate] Scenario.start)
      ((machine Scenario.config Scenario.world).exec
        [.authorizePromotionCanary Killed.candidate, .authorizePromotionCanary Killed.candidate] Scenario.start) := by
  exact one_active_canary Scenario.world_clock_monotone _ 0 _
    (meets_of_length_le [Killed.candidate, Killed.candidate] Scenario.start (by decide))

/-! ## Renewals -/

/-- A candidate whose evidence is good until another instant. -/
theorem PromotionCandidateV1.isAuthorized_renewed {config : GovernorConfig} {candidate : PromotionCandidateV1}
    {now later expiresAt : Int} (h : PromotionCandidateV1.isAuthorized config candidate now = true)
    (hrequested : candidate.requestedAt ≤ later) (hexpires : later < expiresAt)
    (hlifetime : (expiresAt - candidate.requestedAt).tdiv (seconds 1) ≤ 1800) :
    PromotionCandidateV1.isAuthorized config { candidate with expiresAt := expiresAt } later = true := by
  unfold PromotionCandidateV1.isAuthorized PromotionCandidateV1.isValidAt at h ⊢
  simp only [Bool.and_eq_true, decide_eq_true_eq] at h ⊢
  tauto

/-- A minted lease is active from its issue to its expiry. -/
theorem authorizePromotionCanaryAtEpoch_active {config : GovernorConfig} {sign : PromotionCanaryLeaseV1 → String}
    {candidate : PromotionCandidateV1} {epoch : Nat} {issued now : Int} {canaryId : Uuid} {nonce : String}
    {lease : PromotionCanaryLeaseV1} (hsigned : ∀ lease, sign lease ≠ "")
    (hnonce : (nonce != "" && decide (nonce.utf8ByteSize ≤ 128) && isAscii nonce) = true)
    (h : authorizePromotionCanaryAtEpoch config sign candidate epoch issued canaryId nonce = .ok lease)
    (hissued : issued ≤ now) (hexpires : now < min candidate.expiresAt (issued + minutes 10)) :
    lease.isActiveAt now epoch = true := by
  have hstarted : leaseHasStarted issued now = true := by
    have hskew : (0 : Int) ≤ seconds maxLeaseClockSkewSeconds := by decide
    unfold leaseHasStarted
    exact decide_eq_true (by omega)
  unfold authorizePromotionCanaryAtEpoch at h
  split at h
  · cases h
  rename_i hvalid
  split at h
  · cases h
  split at h
  · cases h
  split at h
  · cases h
  rename_i traffic htraffic
  have hshare : 1 ≤ traffic ∧ traffic ≤ 1000 := by
    cases hrisk : candidate.risk <;> rw [hrisk] at htraffic <;> cases htraffic <;> decide
  have hdigest : isSha256Digest candidate.candidateDigest = true := by
    rw [Bool.not_eq_false] at hvalid
    unfold PromotionCandidateV1.isValidAt at hvalid
    simp only [Bool.and_eq_true] at hvalid
    tauto
  cases h
  unfold PromotionCanaryLeaseV1.isActiveAt
  simp only [Bool.and_eq_true, decide_eq_true_eq, bne_iff_ne, beq_iff_eq] at hnonce ⊢
  simp only [hstarted, hexpires, hdigest, hshare, hnonce, hsigned, ne_eq, not_false_eq_true, and_self, true_and]
  decide

section

variable {cfg : Config} {w : World} {candidate : PromotionCandidateV1}

/-- A promotion of the candidate that is over at a reading of the clock. -/
inductive Over (w : World) (candidate : PromotionCandidateV1) (n : Nat) : Event → Prop
  | proposed {existing : PromotionCandidateV1} (digest : existing.candidateDigest = candidate.candidateDigest)
    (project : existing.projectId = candidate.projectId) (paths : existing.changedPaths = candidate.changedPaths) :
    Over w candidate n (.promotionCandidateProposed existing)
  | issued {lease : PromotionCanaryLeaseV1} (digest : lease.candidateDigest = candidate.candidateDigest)
    (project : lease.projectId = candidate.projectId) (expired : lease.expiresAt ≤ w.clock n) :
    Over w candidate n (.promotionCanaryLeaseIssued lease)

theorem Over.renewed (hclock : Monotone w.clock) {n m : Nat} {e : Event} (h : Over w candidate n e) (hle : n ≤ m)
    (expiresAt : Int) : Over w { candidate with expiresAt := expiresAt } m e := by
  cases h with
  | proposed digest project paths => exact .proposed digest project paths
  | issued digest project expired => exact .issued digest project (expired.trans (hclock hle))

/-- Promotions that are over let a request through. -/
theorem scanPromotionEvents_of_over (hclock : Monotone w.clock) (epoch n : Nat) (events : List Event) (s : Host)
    (hover : ∀ e ∈ events, Over w candidate n e) (hn : n ≤ s.reads) :
    ∃ m, s.reads ≤ m ∧ m ≤ s.reads + events.length ∧
      scanPromotionEvents w candidate epoch events s = (.ok none, { s with reads := m }) := by
  induction events generalizing s with
  | nil => exact ⟨s.reads, Nat.le_refl _, Nat.le_refl _, rfl⟩
  | cons event rest ih =>
    have hrest : ∀ e ∈ rest, Over w candidate n e := fun e he => hover e (List.mem_cons_of_mem _ he)
    rw [List.length_cons]
    cases hover event (List.mem_cons_self ..) with
    | proposed digest project paths =>
      obtain ⟨m, hm, hlength, hscan⟩ := ih s hrest hn
      refine ⟨m, hm, by omega, ?_⟩
      rw [scanPromotionEvents, if_neg (by simp [digest, project, paths])]
      exact hscan
    | @issued lease digest project expired =>
      obtain ⟨m, hm, hlength, hscan⟩ := ih { s with reads := s.reads + 1 } hrest (by dsimp only; omega)
      dsimp only at hm hlength
      refine ⟨m, by omega, by omega, ?_⟩
      have hinactive : lease.isActiveAt (w.clock s.reads) epoch = false := by
        have hle := hclock hn
        have hexpired : decide (w.clock s.reads < lease.expiresAt) = false := decide_eq_false (by omega)
        unfold PromotionCanaryLeaseV1.isActiveAt
        rw [hexpired]
        simp
      rw [scanPromotionEvents, if_neg (by simp [digest, project]), utcNow_bind, if_neg (by rw [hinactive]; simp)]
      exact hscan

/-- A request all of whose window is over gets a new lease. -/
theorem authorizePromotionCanary_renews (hclock : Monotone w.clock) (happends : ∀ n, w.appendFailure n = none) {s : Host}
    (hlatch : s.killLatch = false)
    (hover : ∀ e ∈ windowOf s.ledger candidate.proposalId, Over w candidate s.reads e)
    (hauth : ∀ m, s.reads ≤ m → m ≤ s.reads + 128 →
      PromotionCandidateV1.isAuthorized cfg.governor candidate (w.clock m) = true) :
    ∃ m lease, s.reads ≤ m ∧ m ≤ s.reads + 128 ∧
      authorizePromotionCanaryAtEpoch cfg.governor cfg.signCanary candidate s.fencingEpoch (w.clock m) (w.uuid s.uuids)
        (w.text s.texts) = .ok lease ∧
      authorizePromotionCanary cfg w candidate s = (.ok (.created, lease), { s with
        ledger := s.ledger ++ [.promotionCandidateProposed candidate, .promotionCanaryLeaseIssued lease]
        reads := m + 1
        appends := s.appends + 2
        uuids := s.uuids + 1
        texts := s.texts + 1 }) := by
  obtain ⟨m, hm, hlength, hscan⟩ :=
    scanPromotionEvents_of_over hclock s.fencingEpoch s.reads (windowOf s.ledger candidate.proposalId) s hover (Nat.le_refl _)
  have hwindow : (windowOf s.ledger candidate.proposalId).length ≤ 128 := List.length_take_le ..
  have hbound : m ≤ s.reads + 128 := by omega
  have hok := (@authorizePromotionCanaryAtEpoch_isOk_iff cfg.governor s.fencingEpoch cfg.signCanary candidate (w.clock m)
    (w.uuid s.uuids) (w.text s.texts)).2 (hauth m hm hbound)
  cases hmint : authorizePromotionCanaryAtEpoch cfg.governor cfg.signCanary candidate s.fencingEpoch (w.clock m)
    (w.uuid s.uuids) (w.text s.texts) with
  | error d =>
    rw [hmint] at hok
    cases hok
  | ok lease =>
    refine ⟨m, lease, hm, hbound, hmint, ?_⟩
    have hgate : (refuseWhileKilled : Request Unit) s = (.ok (), s) := by
      unfold refuseWhileKilled
      rw [hlatch]
      rfl
    unfold authorizePromotionCanary
    rw [bind_of_ok hgate, authorizePromotionCanaryGated_of_clear hscan]
    dsimp only
    rw [hmint]
    show (append w (.promotionCandidateProposed candidate) >>= fun _ => _ : Request _) _ = _
    rw [append_bind _ (happends _), append_bind _ (happends _), List.append_assoc]
    rfl

end

namespace Canaries

open Scenario

/-- The change of one prompt, with evidence that expires. -/
def renewal (expiresAt : Int) : PromotionCandidateV1 := { Killed.candidate with expiresAt := expiresAt }

theorem candidate_isAuthorized : PromotionCandidateV1.isAuthorized config.governor Killed.candidate 0 = true := by
  have h : PromotionCandidateV1.isAuthorized Killed.config Killed.candidate 0 = true := Killed.candidate_isAuthorized
  unfold PromotionCandidateV1.isAuthorized at h ⊢
  exact h

theorem renewal_isAuthorized {now expiresAt : Int} (hnow : 0 ≤ now) (hexpires : now < expiresAt)
    (hlimit : expiresAt ≤ minutes 20) : PromotionCandidateV1.isAuthorized config.governor (renewal expiresAt) now = true := by
  refine PromotionCandidateV1.isAuthorized_renewed candidate_isAuthorized hnow hexpires ?_
  show (expiresAt - 0).tdiv (seconds 1) ≤ 1800
  rw [Int.sub_zero, Int.tdiv_eq_ediv_of_nonneg (by omega)]
  have hunits : minutes 20 = 1200 * seconds 1 := by decide
  have hpositive : (0 : Int) < seconds 1 := by decide
  refine (Int.ediv_le_ediv hpositive (hlimit.trans hunits.le)).trans ?_
  decide

/-- What a renewal leaves: one more candidate and one more lease. -/
structure Renewed (expiresAt : Int) (s t : Host) (lease : PromotionCanaryLeaseV1) : Prop where
  ledger : t.ledger = s.ledger ++ [.promotionCandidateProposed (renewal expiresAt), .promotionCanaryLeaseIssued lease]
  reads : s.reads < t.reads ∧ t.reads ≤ s.reads + 129
  latch : t.killLatch = s.killLatch
  epoch : t.fencingEpoch = s.fencingEpoch
  proposal : lease.proposalId = 3
  finished : ∀ n, expiresAt ≤ world.clock n → Over world Killed.candidate n (.promotionCanaryLeaseIssued lease)
  active : ∀ n, t.reads ≤ n → world.clock n < expiresAt → world.clock n < world.clock s.reads + minutes 10 →
    lease.isActiveAt (world.clock n) s.fencingEpoch = true

/-- A request is renewed if what it sees is over. -/
theorem renews {s : Host} {expiresAt : Int} (hlatch : s.killLatch = false)
    (hover : ∀ e ∈ windowOf s.ledger 3, Over world Killed.candidate s.reads e)
    (hlater : world.clock (s.reads + 128) < expiresAt) (hlimit : expiresAt ≤ minutes 20) :
    ∃ lease, Renewed expiresAt s ((machine config world).exec [.authorizePromotionCanary (renewal expiresAt)] s) lease := by
  have hauth : ∀ m, s.reads ≤ m → m ≤ s.reads + 128 →
      PromotionCandidateV1.isAuthorized config.governor (renewal expiresAt) (world.clock m) = true := by
    intro m _ hm
    exact renewal_isAuthorized (Int.natCast_nonneg m) (Int.lt_of_le_of_lt (world_clock_monotone hm) hlater) hlimit
  obtain ⟨m, lease, hm, hbound, hmint, hrun⟩ := @authorizePromotionCanary_renews config world
    (renewal expiresAt) world_clock_monotone (fun _ => rfl) s hlatch
    (fun e he => (hover e he).renewed world_clock_monotone (Nat.le_refl _) expiresAt) hauth
  obtain ⟨-, hproposal, hdigest, -⟩ := authorizePromotionCanaryAtEpoch_spec hmint
  obtain ⟨-, hproject, hexpires⟩ := authorizePromotionCanaryAtEpoch_fresh hmint
  have hstate : (machine config world).exec [.authorizePromotionCanary (renewal expiresAt)] s =
      (authorizePromotionCanary config world (renewal expiresAt) s).2 := rfl
  refine ⟨lease, ?_⟩
  rw [hstate, hrun]
  refine ⟨rfl, ⟨?_, ?_⟩, rfl, rfl, hproposal, ?_, ?_⟩
  · exact Nat.lt_succ_of_le hm
  · exact Nat.succ_le_succ hbound
  · intro n hn
    exact .issued hdigest hproject (hexpires.trans hn)
  · intro n hn hexpiry hten
    have hnonce : (world.text s.texts != "" && decide ((world.text s.texts).utf8ByteSize ≤ 128) &&
        isAscii (world.text s.texts)) = true := by
      show ("0123456789abcdef0123456789abcdef" != "" && decide ("0123456789abcdef0123456789abcdef".utf8ByteSize ≤ 128) &&
        isAscii "0123456789abcdef0123456789abcdef") = true
      decide
    have hsigned : ∀ lease, config.signCanary lease ≠ "" := fun _ => (by decide : "signature" ≠ "")
    refine authorizePromotionCanaryAtEpoch_active hsigned hnonce hmint ?_ (lt_min hexpiry ?_)
    · exact world_clock_monotone ((Nat.le_succ m).trans hn)
    · exact Int.lt_of_lt_of_le hten (Int.add_le_add_right (world_clock_monotone hm) _)

/-- A host after `k` renewals that are over. -/
structure Spent (k : Nat) (s : Host) : Prop where
  latch : s.killLatch = false
  length : (aboutProposal s.ledger 3).length = 2 * k
  finished : ∀ e ∈ aboutProposal s.ledger 3, Over world Killed.candidate s.reads e
  early : s.reads ≤ 260 * k

/-- The other handlers read the clock. -/
def ticking : Background := { offered with readings := 129 }

/-- The events about the proposal after a renewal. -/
theorem Renewed.about {expiresAt : Int} {s t : Host} {lease : PromotionCanaryLeaseV1} (h : Renewed expiresAt s t lease) :
    aboutProposal t.ledger 3 = aboutProposal s.ledger 3 ++
      [.promotionCandidateProposed (renewal expiresAt), .promotionCanaryLeaseIssued lease] := by
  unfold aboutProposal
  rw [h.ledger, List.filter_append]
  congr 1
  refine List.filter_eq_self.2 fun e he => beq_iff_eq.2 ?_
  rcases List.mem_cons.1 he with rfl | he
  · rfl
  · rw [List.mem_singleton.1 he]
    exact congrArg Subject.id h.proposal

/-- One more renewal, and the time it takes to expire. -/
theorem Spent.round {k : Nat} {s : Host} (h : Spent k s) (hk : k < 64) :
    ∃ ops, Spent (k + 1) ((machine config world).exec ops s) := by
  have hearly := h.early
  have hlimit : ((s.reads + 129 : Nat) : Int) ≤ minutes 20 := by
    have : ((260 * 64 + 129 : Nat) : Int) ≤ minutes 20 := by decide
    omega
  obtain ⟨lease, hrenewed⟩ := renews h.latch (fun e he => h.finished e (List.mem_of_mem_take he))
    (show world.clock (s.reads + 128) < ((s.reads + 129 : Nat) : Int) from Int.ofNat_lt.2 (Nat.lt_succ_self _)) hlimit
  refine ⟨[.authorizePromotionCanary (renewal ((s.reads + 129 : Nat) : Int)), .background ticking], ?_⟩
  show Spent (k + 1) (background ticking
    ((machine config world).exec [.authorizePromotionCanary (renewal ((s.reads + 129 : Nat) : Int))] s))
  generalize (machine config world).exec [.authorizePromotionCanary (renewal ((s.reads + 129 : Nat) : Int))] s = t at hrenewed
  obtain ⟨hafter, hbefore⟩ := hrenewed.reads
  have habout : aboutProposal (background ticking t).ledger 3 = aboutProposal s.ledger 3 ++
      [.promotionCandidateProposed (renewal ((s.reads + 129 : Nat) : Int)), .promotionCanaryLeaseIssued lease] := by
    rw [← hrenewed.about]
    exact congrArg (fun l => aboutProposal l 3) (List.append_nil t.ledger)
  have hreads : (background ticking t).reads = t.reads + 129 := rfl
  refine ⟨hrenewed.latch.trans h.latch, ?_, ?_, ?_⟩
  · rw [habout, List.length_append, h.length]
    simp only [List.length_cons, List.length_nil]
    omega
  · rw [habout, hreads]
    intro e he
    rcases List.mem_append.1 he with he | he
    · exact (h.finished e he).renewed world_clock_monotone (by omega) Killed.candidate.expiresAt
    · rcases List.mem_cons.1 he with rfl | he
      · exact .proposed rfl rfl rfl
      · rw [List.mem_singleton.1 he]
        exact hrenewed.finished _ (Int.ofNat_le.2 (by omega))
  · rw [hreads]
    omega

/-- 64 renewals. -/
theorem exists_spent : ∀ k ≤ 64, ∃ ops, Spent k ((machine config world).exec ops start)
  | 0, _ => by
    refine ⟨[], rfl, rfl, ?_, Nat.zero_le _⟩
    intro e he
    cases he
  | k + 1, hk => by
    obtain ⟨ops, h⟩ := exists_spent k (by omega)
    obtain ⟨round, hround⟩ := h.round (by omega)
    refine ⟨ops ++ round, ?_⟩
    rw [Machine.exec_append]
    exact hround

/-- Two more requests each get a lease, and both leases are active. -/
theorem Spent.twice {s : Host} (h : Spent 64 s) : ∃ ops, 2 ≤
    (activeCanaries ((machine config world).exec ops s) 3 (world.clock ((machine config world).exec ops s).reads)).length := by
  have hearly := h.early
  have hnear : ∀ n ≤ s.reads + 258, world.clock n < minutes 5 := by
    intro n hn
    have hlimit : ((260 * 64 + 258 : Nat) : Int) < minutes 5 := by decide
    exact Int.lt_of_le_of_lt (Int.ofNat_le.2 (by omega)) hlimit
  have hsoon : ∀ n m, n ≤ s.reads + 258 → world.clock n < world.clock m + minutes 10 := by
    intro n m hn
    have hunits : minutes 5 ≤ minutes 10 := by decide
    have hm : (0 : Int) ≤ world.clock m := Int.natCast_nonneg m
    have := hnear n hn
    omega
  obtain ⟨first, hfirst⟩ := renews h.latch (fun e he => h.finished e (List.mem_of_mem_take he))
    (hnear (s.reads + 128) (by omega)) (by decide)
  refine ⟨[.authorizePromotionCanary (renewal (minutes 5)), .authorizePromotionCanary (renewal (minutes 5))], ?_⟩
  rw [show ∀ op : Op, [op, op] = [op] ++ [op] from fun _ => rfl, Machine.exec_append]
  generalize (machine config world).exec [.authorizePromotionCanary (renewal (minutes 5))] s = t at hfirst
  -- the oldest 128 events are those of the renewals
  have hwindow : windowOf t.ledger 3 = aboutProposal s.ledger 3 := by
    unfold windowOf
    rw [hfirst.about]
    exact List.take_left' h.length
  obtain ⟨hafter, hbefore⟩ := hfirst.reads
  obtain ⟨second, hsecond⟩ := @renews t (minutes 5) (hfirst.latch.trans h.latch)
    (fun e he => (h.finished e (hwindow ▸ he)).renewed world_clock_monotone hafter.le Killed.candidate.expiresAt)
    (hnear (t.reads + 128) (by omega)) (by decide)
  generalize (machine config world).exec [.authorizePromotionCanary (renewal (minutes 5))] t = u at hsecond
  obtain ⟨hafter', hbefore'⟩ := hsecond.reads
  have hone := hfirst.active u.reads hafter'.le (hnear _ (by omega)) (hsoon _ _ (by omega))
  have htwo := hsecond.active u.reads (Nat.le_refl _) (hnear _ (by omega)) (hsoon _ _ (by omega))
  have hleases : canaryLeases u.ledger 3 = canaryLeases s.ledger 3 ++ [first, second] := by
    unfold canaryLeases
    rw [hsecond.about, hfirst.about, List.append_assoc, List.filterMap_append]
    rfl
  have hboth : ∀ lease ∈ [first, second], lease.isActiveAt (world.clock u.reads) u.fencingEpoch = true := by
    rw [hsecond.epoch]
    intro lease hlease
    rcases List.mem_cons.1 hlease with rfl | hlease
    · rw [hfirst.epoch]
      exact hone
    · rw [List.mem_singleton.1 hlease]
      exact htwo
  unfold activeCanaries
  rw [hleases, List.filter_append, List.filter_eq_self.2 hboth, List.length_append]
  exact Nat.le_add_left 2 _

end Canaries

/-- After 64 renewals of a proposal a request is given a second active lease. -/
theorem renewed_canary_twice_active :
    ¬ ∀ (cfg : Config) (w : World) (ops : List Op) (epoch : Nat) (artifactHead : String → Except String ArtifactRefV1),
      Monotone w.clock → CanariesSound w ((machine cfg w).trace ops (initial epoch artifactHead))
        ((machine cfg w).exec ops (initial epoch artifactHead)) := by
  intro hall
  obtain ⟨renewals, hspent⟩ := Canaries.exists_spent 64 (Nat.le_refl _)
  obtain ⟨ops, htwo⟩ := hspent.twice
  rw [← Machine.exec_append] at htwo
  have hone := (hall Scenario.config Scenario.world (renewals ++ ops) 0 (fun _ => .error "missing")
    Scenario.world_clock_monotone).oneActive 3 _ fun n hn => Scenario.world_clock_monotone hn.le
  exact absurd (htwo.trans hone) (by decide)

end Rampage.Controller
