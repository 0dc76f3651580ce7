/-
Receipts that are refused for good. `submit_receipt` accepts a receipt only for a claimed assignment of
the lease it names, at the current epoch. Epochs do not come back and leases are not issued again, so
a receipt under a lease that a STOP has fenced, and that is not on record, is refused in every later
state of the controller.
-/
import Rampage.Controller.Once
import Rampage.Controller.Outputs

namespace Rampage.Controller

open Rampage.Protocol Rampage.Planner Rampage.Governor Rampage.Ledger Handler

variable {cfg : Config} {w : World}

/-- A later run of the controller as the holder of a receipt sees it: no lease id is issued twice, and no
other receipt has the id of this one. -/
structure LaterRun (cfg : Config) (w : World) (receipt : ExecutionReceiptV1) (s : Host) (ops : List Op) : Prop where
  leaseIds : (issuedIds ((machine cfg w).exec ops s).ledger).Nodup
  receiptIds : ∀ r, .submitReceipt r ∈ ops → r.receiptId = receipt.receiptId → r = receipt

/-- The receipt is answered with success in no later state. -/
def Refused (cfg : Config) (w : World) (receipt : ExecutionReceiptV1) (s : Host) : Prop :=
  ∀ ops, LaterRun cfg w receipt s ops → (submitReceipt cfg w receipt ((machine cfg w).exec ops s)).1.isOk = false

/-! ## Completed receipts are on record -/

/-- Every completed receipt stands in the ledger. -/
def CompletedRecorded (s : Host) : Prop := ∀ id jobId, s.completedReceipts.lookup id = some jobId →
  ∃ r, .jobReceipted r ∈ s.ledger ∧ r.receiptId = id ∧ r.jobId = jobId

theorem CompletedRecorded.of_same {s t : Host} (h : CompletedRecorded s)
    (hc : t.completedReceipts = s.completedReceipts) (hl : ∃ es, t.ledger = s.ledger ++ es) : CompletedRecorded t := by
  obtain ⟨es, hes⟩ := hl
  intro id jobId hlook
  rw [hc] at hlook
  obtain ⟨r, hr, hid⟩ := h id jobId hlook
  exact ⟨r, by rw [hes]; exact List.mem_append_left _ hr, hid⟩

theorem Change.completedRecorded {s t : Host} {op : Op} {r : Reply} (hc : Change cfg w s t op r)
    (h : CompletedRecorded s) : CompletedRecorded t := by
  have hledger := hc.ledger
  cases hc with
  | idle frame => exact h.of_same frame.completedReceipts hledger
  | halted halting => exact h.of_same halting.completedReceipts hledger
  | admitted admission => exact h.of_same admission.completedReceipts hledger
  | revoked quiet => exact h.of_same quiet.completedReceipts hledger
  | claimed _ _ result => exact h.of_same (by rw [result]; rfl) hledger
  | claimLost _ _ result => exact h.of_same (by rw [result]; rfl) hledger
  | @receipted receipt a _ _ _ _ quiet =>
    intro id jobId hlook
    rw [quiet.completedReceipts] at hlook
    change (s.completedReceipts.insert receipt.receiptId receipt.jobId).lookup id = some jobId at hlook
    rw [Table.lookup_insert'] at hlook
    split at hlook
    · rename_i hid
      obtain ⟨es, hes, _⟩ := quiet.events
      refine ⟨receipt, ?_, hid.symm, Option.some.inj hlook⟩
      rw [hes]
      exact List.mem_append_left _ (List.mem_append_right _ (List.mem_singleton_self _))
    · obtain ⟨r', hr', hid'⟩ := h id jobId hlook
      obtain ⟨es, hes⟩ := hledger
      exact ⟨r', by rw [hes]; exact List.mem_append_left _ hr', hid'⟩
  | receiptLost _ _ _ result => exact h.of_same (by rw [result]; rfl) hledger
  | restarted result =>
    rw [result]
    exact fun id jobId hlook => replay_completedReceipts hlook

theorem completedRecorded_exec (ops : List Op) (epoch : Nat) (head : String → Except String ArtifactRefV1) :
    CompletedRecorded ((machine cfg w).exec ops (initial epoch head)) := by
  refine (machine cfg w).state_invariant (C := fun _ _ => True)
    (fun s op hs _ => (step_change op s).completedRecorded hs) ops ?_
    ((machine cfg w).meets_of_forall (fun _ _ => trivial) ops _)
  intro id jobId hlook
  cases hlook

/-! ## Outrun receipts -/

/-- The receipt is not on record, and its lease was issued under an epoch that has ended. -/
structure Outrun (receipt : ExecutionReceiptV1) (s : Host) : Prop where
  authority : Authority s
  completed : CompletedRecorded s
  unrecorded : ∀ r, .jobReceipted r ∈ s.ledger → r.receiptId = receipt.receiptId → r.jobId ≠ receipt.jobId
  ended : ∃ lease ∈ issued s.ledger, lease.leaseId = receipt.leaseId ∧ lease.fencingEpoch < s.fencingEpoch

/-- No stored assignment matches a fenced receipt: its lease would be of the current epoch. -/
theorem Outrun.unmatched {receipt : ExecutionReceiptV1} {s : Host} (h : Outrun receipt s) {a : Assignment}
    (ha : s.assignments.lookup receipt.jobId = some a) : receiptMatches a receipt s.fencingEpoch = false := by
  obtain ⟨lease, hissued, hid, hepoch⟩ := h.ended
  rw [← Bool.not_eq_true]
  intro hm
  simp only [receiptMatches, Bool.and_eq_true, beq_iff_eq] at hm
  have hsame : a.lease = lease :=
    h.authority.sound.eq_of_leaseId (h.authority.coherent.issued _ a ha) hissued (hm.1.1.1.1.1.trans hid.symm)
  have hcurrent := hm.1.1.2
  rw [hsame] at hcurrent
  omega

theorem Outrun.answer {receipt : ExecutionReceiptV1} {s : Host} (h : Outrun receipt s) :
    (submitReceipt cfg w receipt s).1.isOk = false := by
  have hunsettled : settledBy cfg receipt s = none := by
    cases hs : settledBy cfg receipt s with
    | none => rfl
    | some a =>
      obtain ⟨_, _, _, _, ha, hm, _⟩ := settledBy_some hs
      rw [h.unmatched ha] at hm
      cases hm
  rw [← Bool.not_eq_true]
  intro hok
  obtain ⟨r, hr, hid, hjob⟩ := h.completed _ _ ((submitReceipt_of_unsettled hunsettled).2 hok)
  exact h.unrecorded r hr hid hjob

theorem Outrun.step {receipt : ExecutionReceiptV1} {s t : Host} {op : Op} {r : Reply} (h : Outrun receipt s)
    (hc : Change cfg w s t op r) (hids : (issuedIds t.ledger).Nodup)
    (hreceipt : ∀ r, op = .submitReceipt r → r.receiptId = receipt.receiptId → r = receipt) : Outrun receipt t := by
  refine ⟨hc.authority h.authority hids, hc.completedRecorded h.completed, ?_, ?_⟩
  · intro r' hr'
    rcases hc.recordedReceipts with ⟨hsame, _⟩ | ⟨new, a, hop, ha, hm, hnew⟩
    · rw [← mem_recordedReceipts, hsame, mem_recordedReceipts] at hr'
      exact h.unrecorded r' hr'
    · rw [← mem_recordedReceipts, hnew, List.mem_append, List.mem_singleton, mem_recordedReceipts] at hr'
      rcases hr' with hr' | rfl
      · exact h.unrecorded r' hr'
      · -- the receipt itself matches no assignment, so another was recorded
        intro hid _
        rw [hreceipt r' hop hid] at ha hm
        rw [h.unmatched ha] at hm
        cases hm
  · obtain ⟨lease, hissued, hid, hepoch⟩ := h.ended
    obtain ⟨es, hes⟩ := hc.ledger
    refine ⟨lease, by rw [hes]; exact mem_issued_append hissued, hid, ?_⟩
    have := hc.fencingEpoch
    omega

/-- Lease ids that are distinct at the end of a run were so before. -/
theorem issuedIds_nodup_exec : ∀ (ops : List Op) (s : Host),
    (issuedIds ((machine cfg w).exec ops s).ledger).Nodup → (issuedIds s.ledger).Nodup
  | [], _, h => h
  | op :: ops, s, h => (step_change op s).issuedIds_nodup (issuedIds_nodup_exec ops _ h)

/-- A fenced receipt is refused for good. -/
theorem Outrun.refused {receipt : ExecutionReceiptV1} {s : Host} (h : Outrun receipt s) :
    Refused cfg w receipt s := by
  intro ops hlater
  suffices houtrun : Outrun receipt ((machine cfg w).exec ops s) from houtrun.answer
  induction ops generalizing s with
  | nil => exact h
  | cons op ops ih =>
    have hstep : Change cfg w s ((machine cfg w).exec [op] s) op (Controller.step cfg w op s).1 := step_change op s
    have hids : (issuedIds ((machine cfg w).exec [op] s).ledger).Nodup := issuedIds_nodup_exec ops _ hlater.leaseIds
    refine ih (h.step hstep hids fun r hop => hlater.receiptIds r (by simp [hop])) ⟨hlater.leaseIds, ?_⟩
    exact fun r hr => hlater.receiptIds r (List.mem_cons_of_mem _ hr)

end Rampage.Controller
