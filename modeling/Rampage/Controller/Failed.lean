/-
What a failed claim or receipt leaves behind. `claim_work` marks the assignment it picked and
`submit_receipt` takes the settled job out of the tables before the ledger has taken their events, so
an append that fails then leaves the tables changed. `claimedBy` and `settledBy` say when a request
gets that far; in every other case a failed request changes nothing.
-/
import Rampage.Controller.Scenario

namespace Rampage.Controller

open Rampage.Protocol Rampage.Planner Rampage.Governor Rampage.Ledger Handler

variable {cfg : Config} {w : World}

/-- The tables a claim or a receipt changes are as before. -/
structure JobsKept (s t : Host) : Prop where
  assignments : t.assignments = s.assignments
  idempotency : t.idempotency = s.idempotency
  reservations : t.reservations = s.reservations
  completedReceipts : t.completedReceipts = s.completedReceipts

theorem JobsKept.of_quiet {K : EventKind → Prop} {s t : Host} (h : Quiet K s t) : JobsKept s t :=
  ⟨h.assignments, h.idempotency, h.reservations, h.completedReceipts⟩

/-- The answer is an error. -/
def Failed {α : Type} (r : Except HttpError α) : Prop := ∃ e, r = .error e

theorem not_failed_ok {α : Type} {a : α} : ¬ Failed (.ok a) := fun ⟨_, h⟩ => by cases h

/-! ## Claims -/

/-- The assignment `claim_work` hands out to the node, if it hands out one. -/
def claimedBy (w : World) (nodeId : Uuid) (s : Host) : Option (Sigma fun _ : Uuid => Assignment) :=
  if s.killLatch || (s.nodes.lookup nodeId).isNone then none
  else pickAssignment (w.order s.reads) s.toAppState nodeId (w.clock s.reads)

/-- A claim that finds an assignment marks it and only then asks the ledger. -/
theorem claimWork_of_claimed {nodeId : Uuid} {s : Host} {e : Sigma fun _ : Uuid => Assignment}
    (h : claimedBy w nodeId s = some e) :
    claimWork cfg w nodeId s =
      (append w (.jobClaimed (workClaim cfg e.2)) >>= fun _ => pure (some (workClaim cfg e.2)))
        (markClaimed e.1 e.2 { s with reads := s.reads + 1 }) := by
  unfold claimedBy at h
  split at h
  · cases h
  rename_i hc
  rw [Bool.not_eq_true, Bool.or_eq_false_iff] at hc
  obtain ⟨hk, hn⟩ := hc
  have hkill : refuseWhileKilled s = (.ok (), s) := by simp [refuseWhileKilled, hk]
  have hnode : (s.nodes.lookup nodeId).isSome = true := by
    rw [← Option.not_isNone, hn]
    rfl
  unfold claimWork
  rw [bind_of_ok hkill, get_bind, hnode, ensure_true_bind, utcNow_bind, h]
  rfl

/-- A claim that finds none leaves the tables alone. -/
theorem claimWork_of_unclaimed {nodeId : Uuid} {s : Host} (h : claimedBy w nodeId s = none) :
    JobsKept s (claimWork cfg w nodeId s).2 := by
  rcases @claimWork_cases cfg w nodeId s with ⟨hq, _⟩ | ⟨jobId, a, hc, _⟩
  · exact JobsKept.of_quiet hq
  · have hsome : claimedBy w nodeId s = some ⟨jobId, a⟩ := by
      have hn := hc.enrolled
      rw [← Option.not_isNone, Bool.not_eq_true'] at hn
      unfold claimedBy
      rw [hc.running, hn]
      exact hc.picked
    rw [h] at hsome
    cases hsome

/-- The marked assignment was not marked before. -/
theorem not_sameJobs_markClaimed {nodeId : Uuid} {s t : Host} {e : Sigma fun _ : Uuid => Assignment}
    (h : claimedBy w nodeId s = some e)
    (ht : t.assignments = s.assignments.insert e.1 { e.2 with claimed := true }) : ¬ JobsKept s t := by
  unfold claimedBy at h
  split at h
  · cases h
  obtain ⟨hstored, hclaim⟩ := pickAssignment_spec h
  intro hsame
  have hlook := congrArg (AList.lookup e.1) (ht.symm.trans hsame.assignments)
  rw [AList.lookup_insert, hstored, Option.some.injEq] at hlook
  rw [← hlook] at hclaim
  simp [isClaimable] at hclaim

theorem claimWork_keeps_iff (nodeId : Uuid) (s : Host) :
    (Failed (claimWork cfg w nodeId s).1 → JobsKept s (claimWork cfg w nodeId s).2) ↔
      ¬ ((claimedBy w nodeId s).isSome = true ∧ w.appendFailure s.appends ≠ none) := by
  cases hc : claimedBy w nodeId s with
  | none =>
    constructor
    · rintro _ ⟨h, _⟩
      cases h
    · exact fun _ _ => claimWork_of_unclaimed hc
  | some e =>
    rw [claimWork_of_claimed hc]
    rcases ha : append w (.jobClaimed (workClaim cfg e.2)) (markClaimed e.1 e.2 { s with reads := s.reads + 1 })
      with ⟨err | u, t⟩
    · obtain ⟨hf, rfl⟩ := append_error ha
      rw [bind_of_error ha]
      constructor
      · intro h
        exact absurd (h ⟨err, rfl⟩) (not_sameJobs_markClaimed hc rfl)
      · intro h
        exact absurd ⟨rfl, hf⟩ h
    · obtain ⟨hf, rfl⟩ := append_ok ha
      rw [bind_of_ok ha]
      constructor
      · rintro _ ⟨_, h⟩
        exact h hf
      · exact fun _ h => absurd h not_failed_ok

/-! ## Receipts -/

/-- The assignment `submit_receipt` settles with the receipt, if it gets that far. -/
def settledBy (cfg : Config) (receipt : ExecutionReceiptV1) (s : Host) : Option Assignment :=
  match s.nodes.lookup receipt.nodeId, s.assignments.lookup receipt.jobId with
  | some identity, some a =>
    if isTerminalReceipt receipt && (verifyReceipt cfg identity receipt).isOk &&
        s.completedReceipts.lookup receipt.receiptId != some receipt.jobId && !s.killLatch &&
        receiptMatches a receipt s.fencingEpoch && receipt.outputs.all isOutputValid then some a
    else none
  | _, _ => none

/-- What a receipt that settles an assignment has passed. -/
theorem settledBy_some {receipt : ExecutionReceiptV1} {s : Host} {a : Assignment}
    (h : settledBy cfg receipt s = some a) :
    isTerminalReceipt receipt = true ∧ (∃ identity, s.nodes.lookup receipt.nodeId = some identity ∧
      verifyReceipt cfg identity receipt = .ok ()) ∧
      s.completedReceipts.lookup receipt.receiptId ≠ some receipt.jobId ∧ s.killLatch = false ∧
      s.assignments.lookup receipt.jobId = some a ∧ receiptMatches a receipt s.fencingEpoch = true ∧
      receipt.outputs.all isOutputValid = true := by
  unfold settledBy at h
  split at h
  · rename_i identity a' hn ha
    split at h
    · rename_i hc
      simp only [Bool.and_eq_true, bne_iff_ne, Bool.not_eq_true'] at hc
      rw [Option.some.injEq] at h
      subst h
      have hverify : verifyReceipt cfg identity receipt = .ok () := by
        have hok := hc.1.1.1.1.2
        cases hv : verifyReceipt cfg identity receipt with
        | error d =>
          rw [hv] at hok
          cases hok
        | ok u => rfl
      exact ⟨hc.1.1.1.1.1, ⟨identity, hn, hverify⟩, hc.1.1.1.2, hc.1.1.2, ha, hc.1.2, hc.2⟩
    · cases h
  · cases h

theorem submitReceipt_of_settled {receipt : ExecutionReceiptV1} {s : Host} {a : Assignment}
    (h : settledBy cfg receipt s = some a) : submitReceipt cfg w receipt s = settleReceipt w a receipt s := by
  obtain ⟨ht, ⟨identity, hn, hv⟩, hd, hk, ha, hm, ho⟩ := settledBy_some h
  have hkill : refuseWhileKilled s = (.ok (), s) := by simp [refuseWhileKilled, hk]
  have hok : orRefuse .unauthorized Denial.text (verifyReceipt cfg identity receipt) s = (.ok (), s) := by
    rw [hv]
    rfl
  unfold submitReceipt
  rw [ht, ensure_true_bind, get_bind, hn]
  dsimp only
  rw [bind_of_ok hok, if_neg hd]
  unfold submitReceiptGated
  rw [bind_of_ok hkill, get_bind, ha]
  dsimp only
  rw [hm, ho, ensure_true_bind, ensure_true_bind]

/-- A receipt that settles nothing leaves the state alone, and is answered only if it is on record. -/
theorem submitReceipt_of_unsettled {receipt : ExecutionReceiptV1} {s : Host} (h : settledBy cfg receipt s = none) :
    (submitReceipt cfg w receipt s).2 = s ∧ ((submitReceipt cfg w receipt s).1.isOk = true →
      s.completedReceipts.lookup receipt.receiptId = some receipt.jobId) := by
  have refused : ∀ {e : HttpError} {P : Prop}, ((.error e : Except HttpError ReceiptReply).isOk = true → P) :=
    fun h => by cases h
  unfold submitReceipt
  cases ht : isTerminalReceipt receipt with
  | false => exact ⟨rfl, refused⟩
  | true =>
    rw [ensure_true_bind, get_bind]
    cases hn : s.nodes.lookup receipt.nodeId with
    | none => exact ⟨rfl, refused⟩
    | some identity =>
      dsimp only
      cases hv : verifyReceipt cfg identity receipt with
      | error d => exact ⟨rfl, refused⟩
      | ok u =>
        have hok : orRefuse .unauthorized Denial.text (Except.ok u : Except Denial Unit) s = (.ok u, s) := rfl
        rw [bind_of_ok hok]
        by_cases hd : s.completedReceipts.lookup receipt.receiptId = some receipt.jobId
        · rw [if_pos hd]
          exact ⟨rfl, fun _ => hd⟩
        rw [if_neg hd]
        unfold submitReceiptGated
        cases hk : s.killLatch with
        | true =>
          have hkill : refuseWhileKilled s = (.error killLatchError, s) := by simp [refuseWhileKilled, hk]
          rw [bind_of_error hkill]
          exact ⟨rfl, refused⟩
        | false =>
          have hkill : refuseWhileKilled s = (.ok (), s) := by simp [refuseWhileKilled, hk]
          rw [bind_of_ok hkill, get_bind]
          cases ha : s.assignments.lookup receipt.jobId with
          | none => exact ⟨rfl, refused⟩
          | some a =>
            dsimp only
            cases hm : receiptMatches a receipt s.fencingEpoch with
            | false => exact ⟨rfl, refused⟩
            | true =>
              rw [ensure_true_bind]
              cases ho : receipt.outputs.all isOutputValid with
              | false => exact ⟨rfl, refused⟩
              | true =>
                -- every check has passed, so the receipt settles this assignment
                have hsome : settledBy cfg receipt s = some a := by
                  simp [settledBy, hn, ha, ht, hv, hd, hk, hm, ho, Except.isOk, Except.toBool]
                rw [h] at hsome
                cases hsome

/-- The outputs are recorded exactly when the ledger takes an event for each. -/
theorem recordOutputs_failed_iff (receipt : ExecutionReceiptV1) : ∀ (outputs : List ArtifactRefV1) (s : Host),
    Failed (forEach (recordOutput w receipt) outputs s).1 ↔
      ∃ i < outputs.length, w.appendFailure (s.appends + i) ≠ none
  | [], s => by
    constructor
    · exact fun h => absurd h not_failed_ok
    · rintro ⟨i, hi, _⟩
      simp at hi
  | output :: outputs, s => by
    rw [forEach]
    rcases hr : recordOutput w receipt output s with ⟨err | u, t⟩
    · have hfail : w.appendFailure s.appends ≠ none := by
        unfold recordOutput at hr
        rw [modify_bind] at hr
        exact (append_error hr).1
      rw [bind_of_error hr]
      constructor
      · exact fun _ => ⟨0, by simp, hfail⟩
      · exact fun _ => ⟨err, rfl⟩
    · have hdone : w.appendFailure s.appends = none ∧ t.appends = s.appends + 1 := by
        unfold recordOutput at hr
        rw [modify_bind] at hr
        obtain ⟨hf, rfl⟩ := append_ok hr
        exact ⟨hf, rfl⟩
      rw [bind_of_ok hr, recordOutputs_failed_iff receipt outputs t, hdone.2]
      constructor
      · rintro ⟨i, hi, hf⟩
        refine ⟨i + 1, by simpa using hi, ?_⟩
        rwa [Nat.add_right_comm] at hf
      · rintro ⟨i, hi, hf⟩
        cases i with
        | zero => exact absurd hdone.1 hf
        | succ i =>
          refine ⟨i, by simpa using hi, ?_⟩
          rwa [Nat.add_right_comm]

/-- A settled receipt fails exactly when its own append or that of an output fails. -/
theorem settleReceipt_failed_iff (a : Assignment) (receipt : ExecutionReceiptV1) (s : Host) :
    Failed (settleReceipt w a receipt s).1 ↔
      ∃ i ≤ receipt.outputs.length, w.appendFailure (s.appends + i) ≠ none := by
  unfold settleReceipt
  rw [modify_bind]
  rcases hr : append w (.jobReceipted receipt) (settleJob receipt.jobId a.job.idempotencyKey s) with ⟨err | u, t⟩
  · obtain ⟨hf, _⟩ := append_error hr
    rw [bind_of_error hr]
    constructor
    · exact fun _ => ⟨0, Nat.zero_le _, hf⟩
    · exact fun _ => ⟨err, rfl⟩
  · obtain ⟨hf, rfl⟩ := append_ok hr
    rw [bind_of_ok hr, modify_bind]
    -- the receipt is written; each output is one more append
    have hout := recordOutputs_failed_iff (w := w) receipt receipt.outputs (receipted a receipt s)
    have hanswer : Failed ((forEach (recordOutput w receipt) receipt.outputs >>= fun _ =>
        pure (⟨.accepted, receipt.receiptId, receipt.state, false⟩ : ReceiptReply)) (receipted a receipt s)).1 ↔
        Failed (forEach (recordOutput w receipt) receipt.outputs (receipted a receipt s)).1 := by
      rcases ho : forEach (recordOutput w receipt) receipt.outputs (receipted a receipt s) with ⟨err | u, t⟩
      · rw [bind_of_error ho]
        exact ⟨fun _ => ⟨err, rfl⟩, fun _ => ⟨err, rfl⟩⟩
      · rw [bind_of_ok ho]
        exact ⟨fun h => absurd h not_failed_ok, fun h => absurd h not_failed_ok⟩
    refine (hanswer.trans hout).trans ?_
    constructor
    · rintro ⟨i, hi, h⟩
      refine ⟨i + 1, hi, ?_⟩
      rwa [← Nat.add_assoc, Nat.add_right_comm]
    · rintro ⟨i, hi, h⟩
      cases i with
      | zero => exact absurd hf h
      | succ i =>
        refine ⟨i, hi, ?_⟩
        show w.appendFailure (s.appends + 1 + i) ≠ none
        rwa [Nat.add_right_comm, Nat.add_assoc]

/-- A settled job is gone from the tables, whatever the ledger said. -/
theorem not_sameJobs_settled {receipt : ExecutionReceiptV1} {s : Host} {a : Assignment}
    (h : settledBy cfg receipt s = some a) : ¬ JobsKept s (settleReceipt w a receipt s).2 := by
  obtain ⟨_, _, _, _, ha, _, _⟩ := settledBy_some h
  have hgone : (settleReceipt w a receipt s).2.assignments = s.assignments.erase receipt.jobId := by
    rcases settleReceipt_cases (w := w) a receipt s with ⟨_, _, ht⟩ | ⟨_, hq⟩
    · rw [ht]
      rfl
    · rw [hq.assignments]
      rfl
  intro hsame
  have hlook := congrArg (AList.lookup receipt.jobId) (hgone.symm.trans hsame.assignments)
  rw [AList.lookup_erase, ha] at hlook
  cases hlook

theorem submitReceipt_keeps_iff (receipt : ExecutionReceiptV1) (s : Host) :
    (Failed (submitReceipt cfg w receipt s).1 → JobsKept s (submitReceipt cfg w receipt s).2) ↔
      ¬ ((settledBy cfg receipt s).isSome = true ∧
        ∃ i ≤ receipt.outputs.length, w.appendFailure (s.appends + i) ≠ none) := by
  cases hs : settledBy cfg receipt s with
  | none =>
    rw [(submitReceipt_of_unsettled hs).1]
    constructor
    · rintro _ ⟨h, _⟩
      cases h
    · exact fun _ _ => ⟨rfl, rfl, rfl, rfl⟩
  | some a =>
    rw [submitReceipt_of_settled hs]
    constructor
    · rintro h ⟨_, hf⟩
      exact not_sameJobs_settled hs (h ((settleReceipt_failed_iff a receipt s).2 hf))
    · intro h hfail
      exact absurd ⟨rfl, (settleReceipt_failed_iff a receipt s).1 hfail⟩ h

/-- A failed claim changes nothing exactly when it handed out no assignment that the ledger then
refused to record; a failed receipt changes nothing exactly when it settled no assignment while the
ledger refused the receipt or one of its outputs. -/
theorem failed_request_changes_nothing_iff (cfg : Config) (w : World) (s : Host) :
    (∀ nodeId, (Failed (claimWork cfg w nodeId s).1 → JobsKept s (claimWork cfg w nodeId s).2) ↔
        ¬ ((claimedBy w nodeId s).isSome = true ∧ w.appendFailure s.appends ≠ none)) ∧
      ∀ receipt, (Failed (submitReceipt cfg w receipt s).1 → JobsKept s (submitReceipt cfg w receipt s).2) ↔
        ¬ ((settledBy cfg receipt s).isSome = true ∧
          ∃ i ≤ receipt.outputs.length, w.appendFailure (s.appends + i) ≠ none) :=
  ⟨fun nodeId => claimWork_keeps_iff nodeId s, fun receipt => submitReceipt_keeps_iff receipt s⟩

/-- A ledger that refuses one append. -/
def Scenario.failingAt (n : Nat) : World :=
  { Scenario.world with appendFailure := fun i => if i = n then some "disk full" else none }

open Scenario in
/-- The sixth append is that of the claim: the claim fails with the assignment marked, and a second
claim finds no work. The seventh is that of the receipt: the receipt fails with the assignment gone,
and sending it again is refused. -/
theorem failed_claim_and_receipt_change_tables :
    (let s := (machine config (failingAt 5)).exec (setup ++ [.submitJob (job 9 "a")]) start
      let t := (claimWork config (failingAt 5) 77 s).2
      (claimWork config (failingAt 5) 77 s).1 = .error (internalError "disk full") ∧
        (s.assignments.lookup 9).map (·.claimed) = some false ∧
        (t.assignments.lookup 9).map (·.claimed) = some true ∧
        (claimWork config (failingAt 5) 77 t).1 = .ok none) ∧
      (let s := (machine config (failingAt 6)).exec (setup ++ [.submitJob (job 9 "a"), .background elapsed, .claimWork 77])
        start
      let t := (submitReceipt config (failingAt 6) (receipt 2) s).2
      (submitReceipt config (failingAt 6) (receipt 2) s).1 = .error (internalError "disk full") ∧
        (s.assignments.lookup 9).isSome = true ∧ t.assignments.lookup 9 = none ∧
        (submitReceipt config (failingAt 6) (receipt 2) t).1 =
          .error { status := .conflict, error := "receipt has no active assignment" }) := by
  decide +kernel

end Rampage.Controller
