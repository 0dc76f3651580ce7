/-
What the other handlers can do to the state: enrolment and the promotion canary only append their
events beside their own tables, a revocation forgets a node, a claim marks one assignment, a
receipt settles one, and STOP and resume change the latch, its marker and the epoch.
-/
import Rampage.Controller.Handlers

namespace Rampage.Controller

open Rampage.Protocol Rampage.Planner Rampage.Governor Rampage.Ledger Handler

variable {cfg : Config} {w : World}

/-! ## Enrolment and canaries -/

/-- The events of the enrolment handlers. -/
def Enrolling (k : EventKind) : Prop := k = .inviteCreated ∨ k = .inviteConsumed ∨ k = .nodeEnrolled

/-- A change of the nodes or the invites alone. -/
theorem Frame.of_tables {K : EventKind → Prop} {s t : Host}
    (h : ∃ nodes invites, t = { s with nodes := nodes, invites := invites }) : Frame K s t := by
  obtain ⟨nodes, invites, rfl⟩ := h
  exact ⟨⟨le_rfl, le_rfl, le_rfl⟩, ⟨[], (List.append_nil s.ledger).symm, by simp⟩, rfl, rfl, rfl, rfl, rfl, rfl, rfl,
    rfl⟩

theorem frame_createInvite : Keeps (Frame Enrolling) (createInvite cfg w) := by
  have quiet : ∀ {α : Type} {x : Request α}, Keeps (Quiet Enrolling) x → Keeps (Frame Enrolling) x :=
    fun h => h.mono fun _ _ q => q.toFrame
  refine Keeps.bind (Keeps.ensure _ _) fun _ => ?_
  refine Keeps.bind (quiet (quiet_newUuid w)) fun inviteId => ?_
  refine Keeps.bind (quiet (quiet_newText w)) fun secret => ?_
  refine Keeps.bind (quiet (quiet_utcNow w)) fun now => ?_
  refine Keeps.bind (Keeps.modify fun s => Frame.of_tables ⟨_, _, rfl⟩) fun _ => ?_
  refine Keeps.bind (quiet (quiet_append w (Or.inl rfl))) fun _ => ?_
  exact Keeps.bind (quiet (quiet_utcNow w)) fun _ => Keeps.pure _

theorem frame_takeInvite {K : EventKind → Prop} (inviteId : Uuid) : Keeps (Frame K) (takeInvite inviteId) := by
  intro s
  unfold takeInvite
  split
  · exact Frame.of_tables ⟨_, _, rfl⟩
  · exact Frame.refl s

theorem frame_enrollNode (request : EnrollmentRequestV1) : Keeps (Frame Enrolling) (enrollNode cfg w request) := by
  have quiet : ∀ {α : Type} {x : Request α}, Keeps (Quiet Enrolling) x → Keeps (Frame Enrolling) x :=
    fun h => h.mono fun _ _ q => q.toFrame
  refine Keeps.bind (Keeps.ensure _ _) fun _ => ?_
  refine Keeps.bind (quiet (quiet_orRefuse _ _ _)) fun _ => ?_
  refine Keeps.bind (frame_takeInvite request.inviteId) fun record => ?_
  refine Keeps.bind (quiet (quiet_utcNow w)) fun now => ?_
  refine Keeps.bind (Keeps.ensure _ _) fun _ => ?_
  refine Keeps.bind (quiet (quiet_append w (Or.inr (Or.inl rfl)))) fun _ => ?_
  refine Keeps.bind (Keeps.modify fun s => Frame.of_tables ⟨_, _, rfl⟩) fun _ => ?_
  exact Keeps.bind (quiet (quiet_append w (Or.inr (Or.inr rfl)))) fun _ => Keeps.pure _

/-- `create_invite` with a ledger that takes its event: the invite is in memory and on record. -/
theorem createInvite_cases (hok : ∀ n, w.appendFailure n = none) (s : Host) :
    (createInvite cfg w s).2 = s ∨ ∃ secretHash, (createInvite cfg w s).2 = { s with
      invites := s.invites.insert (w.uuid s.uuids) ⟨secretHash, w.clock s.reads + minutes 10⟩
      ledger := s.ledger ++ [.inviteCreated (w.uuid s.uuids) (w.clock s.reads + minutes 10) secretHash]
      reads := s.reads + 2
      appends := s.appends + 1
      uuids := s.uuids + 1
      texts := s.texts + 1 } := by
  unfold createInvite
  cases cfg.localEnrollmentEnabled with
  | false =>
    rw [ensure_false_bind]
    exact Or.inl rfl
  | true =>
    refine Or.inr ⟨cfg.hashSecret (w.text s.texts), ?_⟩
    rw [ensure_true_bind]
    show ((append w _ >>= _ : Request EnrollmentInvite) { s with
      invites := s.invites.insert (w.uuid s.uuids) ⟨cfg.hashSecret (w.text s.texts), w.clock s.reads + minutes 10⟩
      reads := s.reads + 1
      uuids := s.uuids + 1
      texts := s.texts + 1 }).2 = _
    rw [append_bind _ (hok _)]
    rfl

/-- `enroll_node` with a ledger that takes its events: nothing happens, or a stored invite is taken out.
Then either it had expired or the code was wrong, and nothing is recorded, or the node is enrolled. -/
theorem enrollNode_cases (hok : ∀ n, w.appendFailure n = none) (request : EnrollmentRequestV1) (s : Host) :
    (enrollNode cfg w request s).2 = s ∨ ∃ record, verifyEnrollment cfg request = .ok () ∧
      s.invites.lookup request.inviteId = some record ∧
      ((¬ (w.clock s.reads < record.expiresAt ∧ record.secretHash = cfg.hashSecret request.enrollmentCode) ∧
          (enrollNode cfg w request s).2 = { s with
            invites := s.invites.erase request.inviteId
            reads := s.reads + 1 }) ∨
        (enrollNode cfg w request s).2 = { s with
          invites := s.invites.erase request.inviteId
          nodes := s.nodes.insert request.identity.nodeId request.identity
          ledger := s.ledger ++ [.inviteConsumed request.inviteId request.identity.nodeId] ++ [.nodeEnrolled request.identity]
          reads := s.reads + 1
          appends := s.appends + 2 }) := by
  unfold enrollNode
  cases hschema : request.schema == "rampage.enrollment-request.v1" with
  | false =>
    rw [ensure_false_bind]
    exact Or.inl rfl
  | true =>
    rw [ensure_true_bind]
    cases hverify : verifyEnrollment cfg request with
    | error d => exact Or.inl rfl
    | ok u =>
      cases hinvite : s.invites.lookup request.inviteId with
      | none =>
        have htake : takeInvite request.inviteId s =
            (.error { status := .unauthorized, error := "unknown or already consumed invite" }, s) := by
          simp only [takeInvite, hinvite]
        refine Or.inl ?_
        show ((takeInvite request.inviteId >>= _ : Request (Uuid × Nat)) s).2 = s
        rw [bind_of_error htake]
      | some record =>
        -- the invite is gone from here on, whatever comes of the request
        have htake : takeInvite request.inviteId s = (.ok record, { s with invites := s.invites.erase request.inviteId }) := by
          simp only [takeInvite, hinvite]
        refine Or.inr ⟨record, rfl, rfl, ?_⟩
        show _ ∧ ((takeInvite request.inviteId >>= _ : Request (Uuid × Nat)) s).2 = _ ∨
          ((takeInvite request.inviteId >>= _ : Request (Uuid × Nat)) s).2 = _
        rw [bind_of_ok htake, utcNow_bind]
        cases hcode : decide (w.clock s.reads < record.expiresAt) &&
            record.secretHash == cfg.hashSecret request.enrollmentCode with
        | false =>
          refine Or.inl ⟨?_, ?_⟩
          · rintro ⟨hexp, hhash⟩
            simp [hexp, hhash] at hcode
          · rw [ensure_false_bind]
        | true =>
          refine Or.inr ?_
          rw [ensure_true_bind, append_bind _ (hok _)]
          show ((append w _ >>= _ : Request (Uuid × Nat)) { s with
            invites := s.invites.erase request.inviteId
            nodes := s.nodes.insert request.identity.nodeId request.identity
            ledger := s.ledger ++ [.inviteConsumed request.inviteId request.identity.nodeId]
            reads := s.reads + 1
            appends := s.appends + 1 }).2 = _
          rw [append_bind _ (hok _)]
          rfl

/-- The events of a promotion canary. -/
def Promoting (k : EventKind) : Prop := k = .promotionCandidateProposed ∨ k = .promotionCanaryLeaseIssued

theorem quiet_scanPromotionEvents {K : EventKind → Prop} (candidate : PromotionCandidateV1) (epoch : Nat) :
    ∀ es : List Event, Keeps (Quiet K) (scanPromotionEvents w candidate epoch es)
  | [] => Keeps.pure none
  | e :: es => by
    have rest := quiet_scanPromotionEvents (K := K) candidate epoch es
    cases e with
    | promotionCandidateProposed existing => exact Keeps.ite (Keeps.fail _) rest
    | promotionCanaryLeaseIssued existing =>
      exact Keeps.ite (Keeps.fail _) (Keeps.bind (quiet_utcNow w) fun _ => Keeps.ite (Keeps.pure _) rest)
    | _ => exact rest

theorem quiet_authorizePromotionCanaryGated (candidate : PromotionCandidateV1) :
    Keeps (Quiet Promoting) (authorizePromotionCanaryGated cfg w candidate) := by
  refine Keeps.bind Keeps.get fun s => ?_
  refine Keeps.bind (quiet_scanPromotionEvents candidate _ _) fun existing => ?_
  cases existing with
  | some lease => exact Keeps.pure _
  | none =>
    refine Keeps.bind (quiet_utcNow w) fun _ => ?_
    refine Keeps.bind (quiet_newUuid w) fun _ => ?_
    refine Keeps.bind (quiet_newText w) fun _ => ?_
    refine Keeps.bind (Keeps.ofExcept _) fun lease => ?_
    refine Keeps.bind (quiet_append w (Or.inl rfl)) fun _ => ?_
    exact Keeps.bind (quiet_append w (Or.inr rfl)) fun _ => Keeps.pure _

theorem quiet_authorizePromotionCanary (candidate : PromotionCandidateV1) :
    Keeps (Quiet Promoting) (authorizePromotionCanary cfg w candidate) :=
  Keeps.bind quiet_refuseWhileKilled fun _ => quiet_authorizePromotionCanaryGated candidate

/-! ## Revocation -/

/-- Events no restored table depends on. -/
def Other (k : EventKind) : Prop := k = .other

theorem quiet_applyConstraints (found : Diagnosis) : Keeps (Quiet Other) (applyConstraints w found) := by
  refine Keeps.ite (Keeps.bind (Keeps.mapError (quiet_append w rfl)) fun _ => Keeps.modify fun s => ?_) (Keeps.pure ())
  exact ⟨⟨⟨le_rfl, le_rfl, le_rfl⟩, ⟨[], (List.append_nil s.ledger).symm, by simp⟩, rfl, rfl, rfl, rfl, rfl, rfl, rfl,
    rfl⟩, rfl, rfl⟩

theorem quiet_refreshDiagnostics : Keeps (Quiet Other) (refreshDiagnostics w) := by
  refine Keeps.bind Keeps.get fun s => ?_
  refine Keeps.bind (quiet_utcNow w) fun _ => ?_
  refine Keeps.bind (quiet_applyConstraints _) fun _ => ?_
  exact Keeps.ite (Keeps.mapError (quiet_append w rfl)) (Keeps.pure ())

/-- `revoke_node` leaves everything alone, or it records the revocation and forgets the node. -/
theorem revokeNode_cases (nodeId : Uuid) (confirmed : Bool) (s : Host) :
    Quiet Other s (revokeNode w nodeId confirmed s).2 ∨
      ∃ name key, Quiet Other (forgetNode nodeId { s with
          ledger := s.ledger ++ [.nodeRevoked nodeId name key]
          reads := s.reads + 1
          appends := s.appends + 1 }) (revokeNode w nodeId confirmed s).2 := by
  cases confirmed with
  | false => exact Or.inl (Quiet.refl s)
  | true =>
  unfold revokeNode
  rw [ensure_true_bind, get_bind]
  cases hn : s.nodes.lookup nodeId with
  | none => exact Or.inl (Quiet.refl s)
  | some identity =>
    dsimp only
    rw [utcNow_bind]
    rcases h : append w (.nodeRevoked nodeId identity.displayName identity.publicKey) { s with reads := s.reads + 1 }
      with ⟨e | u, s₁⟩
    · obtain ⟨_, rfl⟩ := append_error h
      rw [bind_of_error h]
      exact Or.inl (Quiet.of_later ⟨Nat.le_succ _, Nat.le_succ _, le_rfl⟩ rfl)
    · obtain ⟨_, rfl⟩ := append_ok h
      rw [bind_of_ok h]
      exact Or.inr ⟨_, _, quiet_refreshDiagnostics _⟩

/-! ## Claims -/

theorem pickAssignment_spec {order : IterOrder} {s : AppState} {nodeId : Uuid} {now : Int}
    {e : Sigma fun _ : Uuid => Assignment} (h : pickAssignment order s nodeId now = some e) :
    s.assignments.lookup e.1 = some e.2 ∧ isClaimable nodeId now s.fencingEpoch e.2 = true := by
  have hm := List.mem_filter.1 (Select.minByKey_mem h)
  exact ⟨(Table.mem_lookup _ _ _).2 (order.mem_apply.1 hm.1), hm.2⟩

/-- What a claim found: the assignment of a job, unclaimed and active for the node. -/
structure Claimable (w : World) (s : Host) (nodeId jobId : Uuid) (a : Assignment) : Prop where
  running : s.killLatch = false
  enrolled : (s.nodes.lookup nodeId).isSome = true
  picked : pickAssignment (w.order s.reads) s.toAppState nodeId (w.clock s.reads) = some ⟨jobId, a⟩
  stored : s.assignments.lookup jobId = some a
  unclaimed : a.claimed = false
  node : a.lease.nodeId = nodeId
  epoch : a.lease.fencingEpoch = s.fencingEpoch

/-- `claim_work` hands out nothing and leaves the tables alone, or it marks a claimable assignment:
it answers with its claim when the append succeeds, and with an error when it fails. -/
theorem claimWork_cases (nodeId : Uuid) (s : Host) :
    (Quiet (fun _ => False) s (claimWork cfg w nodeId s).2 ∧
        ∀ claim, (claimWork cfg w nodeId s).1 ≠ .ok (some claim)) ∨
      ∃ jobId a, Claimable w s nodeId jobId a ∧
        ((w.appendFailure s.appends = none ∧ (claimWork cfg w nodeId s).1 = .ok (some (workClaim cfg a)) ∧
            (claimWork cfg w nodeId s).2 = markClaimed jobId a { s with
              ledger := s.ledger ++ [.jobClaimed (workClaim cfg a)]
              reads := s.reads + 1
              appends := s.appends + 1 }) ∨
          (w.appendFailure s.appends ≠ none ∧ (∀ claim, (claimWork cfg w nodeId s).1 ≠ .ok (some claim)) ∧
            (claimWork cfg w nodeId s).2 = markClaimed jobId a { s with
              reads := s.reads + 1
              appends := s.appends + 1 })) := by
  unfold claimWork
  rcases h0 : refuseWhileKilled s with ⟨e | u, s₀⟩
  · have q := quiet_refuseWhileKilled (K := fun _ => False) s
    rw [h0] at q
    rw [bind_of_error h0]
    exact Or.inl ⟨q, fun _ h => by cases h⟩
  obtain ⟨hrunning, rfl⟩ := refuseWhileKilled_ok h0
  rw [bind_of_ok h0, get_bind]
  -- a killed Governor hands out nothing, and neither does an unknown node's request
  rcases h1 : (ensure (s₀.nodes.lookup nodeId).isSome { status := .unauthorized, error := "node is not enrolled" } :
    Request Unit) s₀ with ⟨e | u, s₁⟩
  · have q := Keeps.ensure (R := Quiet fun _ => False) (s₀.nodes.lookup nodeId).isSome
      ({ status := .unauthorized, error := "node is not enrolled" } : HttpError) s₀
    rw [h1] at q
    rw [bind_of_error h1]
    exact Or.inl ⟨q, fun _ h => by cases h⟩
  obtain ⟨henrolled, rfl⟩ := ensure_ok h1
  rw [bind_of_ok h1, utcNow_bind]
  cases hp : pickAssignment (w.order s₀.reads) s₀.toAppState nodeId (w.clock s₀.reads) with
  | none => exact Or.inl ⟨Quiet.of_later ⟨Nat.le_succ _, le_rfl, le_rfl⟩ rfl, fun _ h => by cases h⟩
  | some e =>
    obtain ⟨hstored, hclaim⟩ := pickAssignment_spec hp
    have hc : Claimable w s₀ nodeId e.1 e.2 := by
      simp only [isClaimable, CapabilityLeaseV1.isActiveAt, Bool.and_eq_true, Bool.not_eq_true', beq_iff_eq] at hclaim
      exact ⟨hrunning, henrolled, hp, hstored, hclaim.1.1, hclaim.1.2, hclaim.2.1.2⟩
    refine Or.inr ⟨e.1, e.2, hc, ?_⟩
    dsimp only
    rw [modify_bind]
    -- the assignment is marked before the append, so a lost append leaves it marked
    rcases h2 : append w (.jobClaimed (workClaim cfg e.2)) (markClaimed e.1 e.2 { s₀ with reads := s₀.reads + 1 })
      with ⟨err | u, s₂⟩
    · obtain ⟨hf, rfl⟩ := append_error h2
      rw [bind_of_error h2]
      exact Or.inr ⟨hf, fun _ h => (by cases h), rfl⟩
    · obtain ⟨hf, rfl⟩ := append_ok h2
      rw [bind_of_ok h2]
      exact Or.inl ⟨hf, rfl, rfl⟩

/-! ## Receipts -/

/-- The events of recorded outputs. -/
def Recording (k : EventKind) : Prop := k = .artifactOutputRecorded

theorem quiet_recordOutput (receipt : ExecutionReceiptV1) (output : ArtifactRefV1) :
    Keeps (Quiet Recording) (recordOutput w receipt output) :=
  Keeps.bind (Keeps.modify fun s => ⟨⟨⟨le_rfl, le_rfl, le_rfl⟩, ⟨[], (List.append_nil s.ledger).symm, by simp⟩, rfl,
    rfl, rfl, rfl, rfl, rfl, rfl, rfl⟩, rfl, rfl⟩) fun _ => quiet_append w rfl

/-- The state in which a receipt is settled and recorded, before its outputs are. -/
def receipted (a : Assignment) (receipt : ExecutionReceiptV1) (s : Host) : Host :=
  { settleJob receipt.jobId a.job.idempotencyKey s with
    ledger := s.ledger ++ [.jobReceipted receipt]
    appends := s.appends + 1
    completedReceipts := s.completedReceipts.insert receipt.receiptId receipt.jobId }

/-- An answer that accepts a receipt. -/
def IsAccepted (r : Except HttpError ReceiptReply) : Prop := ∃ a, r = .ok a ∧ a.status = .accepted

theorem settleReceipt_cases (a : Assignment) (receipt : ExecutionReceiptV1) (s : Host) :
    (w.appendFailure s.appends ≠ none ∧ ¬ IsAccepted (settleReceipt w a receipt s).1 ∧
        (settleReceipt w a receipt s).2 = { settleJob receipt.jobId a.job.idempotencyKey s with
          appends := s.appends + 1 }) ∨
      (w.appendFailure s.appends = none ∧ Quiet Recording (receipted a receipt s) (settleReceipt w a receipt s).2) := by
  unfold settleReceipt
  rw [modify_bind]
  rcases h1 : append w (.jobReceipted receipt) (settleJob receipt.jobId a.job.idempotencyKey s) with ⟨e | u, s₁⟩
  · obtain ⟨hf, rfl⟩ := append_error h1
    rw [bind_of_error h1]
    exact Or.inl ⟨hf, fun ⟨_, h, _⟩ => (by cases h), rfl⟩
  · obtain ⟨hf, rfl⟩ := append_ok h1
    rw [bind_of_ok h1, modify_bind]
    exact Or.inr ⟨hf, (Keeps.bind (Keeps.forEach (quiet_recordOutput receipt) _) fun _ => Keeps.pure _) _⟩

/-- `submit_receipt` accepts nothing and leaves the tables alone, or it settles the matching
assignment of the job with a receipt it has not seen. -/
theorem submitReceipt_settles (receipt : ExecutionReceiptV1) (s : Host) :
    (Quiet (fun _ => False) s (submitReceipt cfg w receipt s).2 ∧ ¬ IsAccepted (submitReceipt cfg w receipt s).1) ∨
      ∃ a, s.assignments.lookup receipt.jobId = some a ∧ receiptMatches a receipt s.fencingEpoch = true ∧
        s.completedReceipts.lookup receipt.receiptId ≠ some receipt.jobId ∧
        submitReceipt cfg w receipt s = settleReceipt w a receipt s := by
  have hrefl : Quiet (fun _ => False) s s := Quiet.refl s
  have hno : ∀ e : HttpError, ¬ IsAccepted (.error e) := fun e ⟨_, h, _⟩ => by cases h
  unfold submitReceipt
  by_cases ht : isTerminalReceipt receipt = true
  swap
  · rw [Bool.not_eq_true] at ht
    rw [ht]
    exact Or.inl ⟨hrefl, hno _⟩
  rw [ht, ensure_true_bind, get_bind]
  cases hn : s.nodes.lookup receipt.nodeId with
  | none => exact Or.inl ⟨hrefl, hno _⟩
  | some identity =>
    dsimp only
    rcases h1 : orRefuse .unauthorized Denial.text (verifyReceipt cfg identity receipt) s with ⟨e | u, s₁⟩
    · have q := quiet_orRefuse (K := fun _ => False) .unauthorized Denial.text (verifyReceipt cfg identity receipt) s
      rw [h1] at q
      rw [bind_of_error h1]
      exact Or.inl ⟨q, hno e⟩
    obtain ⟨_, rfl⟩ := orRefuse_ok h1
    rw [bind_of_ok h1]
    -- a receipt that was accepted before is answered, and not accepted again
    by_cases hd : s₁.completedReceipts.lookup receipt.receiptId = some receipt.jobId
    · rw [if_pos hd]
      exact Or.inl ⟨hrefl, fun ⟨_, h, ha⟩ => by cases h; cases ha⟩
    rw [if_neg hd]
    unfold submitReceiptGated
    rcases h2 : refuseWhileKilled s₁ with ⟨e | u, s₂⟩
    · have q := quiet_refuseWhileKilled (K := fun _ => False) s₁
      rw [h2] at q
      rw [bind_of_error h2]
      exact Or.inl ⟨q, hno e⟩
    obtain ⟨_, rfl⟩ := refuseWhileKilled_ok h2
    rw [bind_of_ok h2, get_bind]
    cases ha : s₂.assignments.lookup receipt.jobId with
    | none => exact Or.inl ⟨hrefl, hno _⟩
    | some a =>
      dsimp only
      by_cases hm : receiptMatches a receipt s₂.fencingEpoch = true
      swap
      · rw [Bool.not_eq_true] at hm
        rw [hm]
        exact Or.inl ⟨hrefl, hno _⟩
      by_cases ho : receipt.outputs.all isOutputValid = true
      swap
      · rw [Bool.not_eq_true] at ho
        rw [hm, ho]
        exact Or.inl ⟨hrefl, hno _⟩
      rw [hm, ho, ensure_true_bind, ensure_true_bind]
      exact Or.inr ⟨a, rfl, hm, hd, rfl⟩

/-- `submit_receipt` accepts nothing and leaves the tables alone, or it settles the matching
assignment of the job; when the receipt's append fails the tables have changed all the same. -/
theorem submitReceipt_cases (receipt : ExecutionReceiptV1) (s : Host) :
    (Quiet (fun _ => False) s (submitReceipt cfg w receipt s).2 ∧ ¬ IsAccepted (submitReceipt cfg w receipt s).1) ∨
      ∃ a, s.assignments.lookup receipt.jobId = some a ∧ receiptMatches a receipt s.fencingEpoch = true ∧
        ((w.appendFailure s.appends ≠ none ∧ ¬ IsAccepted (submitReceipt cfg w receipt s).1 ∧
            (submitReceipt cfg w receipt s).2 = { settleJob receipt.jobId a.job.idempotencyKey s with
              appends := s.appends + 1 }) ∨
          (w.appendFailure s.appends = none ∧
            Quiet Recording (receipted a receipt s) (submitReceipt cfg w receipt s).2)) := by
  rcases @submitReceipt_settles cfg w receipt s with h | ⟨a, stored, matching, -, h⟩
  · exact Or.inl h
  · rw [h]
    exact Or.inr ⟨a, stored, matching, settleReceipt_cases a receipt s⟩

end Rampage.Controller
