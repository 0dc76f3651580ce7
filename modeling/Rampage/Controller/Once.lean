/-
A lease is handed out at most once and receipted at most once, over every run, across restarts and
failed appends (`History.claimedOnce`, `History.receiptedOnce`). That an accepted receipt was
claimed before needs more: the record of a claim may fail after its assignment was marked, and a
replay marks by job id, so that a job admitted twice can have the older lease marked by the
younger one's claim. `lease_is_used_once` states all three facts with the condition the third needs.
-/
import Rampage.Controller.Authority
import Rampage.Controller.Scenario

namespace Rampage.Controller

open Rampage.Protocol Rampage.Planner Rampage.Governor Rampage.Ledger

/-! ## Claims and receipts on record -/

/-- The claims a ledger records, in order. -/
def recordedClaims : List Event → List WorkClaimV1
  | [] => []
  | .jobClaimed c :: l => c :: recordedClaims l
  | _ :: l => recordedClaims l

/-- The receipts a ledger records, in order. -/
def recordedReceipts : List Event → List ExecutionReceiptV1
  | [] => []
  | .jobReceipted r :: l => r :: recordedReceipts l
  | _ :: l => recordedReceipts l

theorem recordedClaims_append : ∀ l l' : List Event, recordedClaims (l ++ l') = recordedClaims l ++ recordedClaims l'
  | [], _ => rfl
  | e :: l, l' => by
    cases e <;> simp [recordedClaims, recordedClaims_append l l']

theorem recordedReceipts_append :
    ∀ l l' : List Event, recordedReceipts (l ++ l') = recordedReceipts l ++ recordedReceipts l'
  | [], _ => rfl
  | e :: l, l' => by
    cases e <;> simp [recordedReceipts, recordedReceipts_append l l']

theorem mem_recordedClaims {c : WorkClaimV1} : ∀ {l : List Event}, c ∈ recordedClaims l ↔ .jobClaimed c ∈ l
  | [] => by simp [recordedClaims]
  | e :: l => by
    have ih := mem_recordedClaims (c := c) (l := l)
    cases e <;> simp [recordedClaims, ih]

theorem mem_recordedReceipts {r : ExecutionReceiptV1} :
    ∀ {l : List Event}, r ∈ recordedReceipts l ↔ .jobReceipted r ∈ l
  | [] => by simp [recordedReceipts]
  | e :: l => by
    have ih := mem_recordedReceipts (r := r) (l := l)
    cases e <;> simp [recordedReceipts, ih]

/-- Events that neither issue, claim nor receipt. -/
def Neutral (k : EventKind) : Prop := k ∉ [EventKind.leaseIssued, .shardSetAdmitted, .jobClaimed, .jobReceipted]

theorem neutral_of_jobPassive {k : EventKind} (h : JobPassive k) : Neutral k := by
  simp only [JobPassive, Neutral, List.mem_cons, List.not_mem_nil, or_false, not_or] at *
  exact h.2

theorem neutral_of_halting {k : EventKind} (h : k = .epochAdvanced ∨ k = .ownerStop ∨ k = .ownerResume) :
    Neutral k := by
  rcases h with rfl | rfl | rfl <;> simp [Neutral]

theorem neutral_of_other {k : EventKind} (h : Other k) : Neutral k := by
  rw [h]
  simp [Neutral]

theorem neutral_of_recording {k : EventKind} (h : Recording k) : Neutral k := by
  rw [h]
  simp [Neutral]

theorem Neutral.unclaiming {k : EventKind} (h : Neutral k) : k ≠ .jobClaimed ∧ k ≠ .jobReceipted := by
  simp only [Neutral, List.mem_cons, List.not_mem_nil, or_false, not_or] at h
  exact h.2.2

theorem issued_of_neutral {es : List Event} (h : ∀ e ∈ es, Neutral e.kind) : issued es = [] := by
  apply issued_of_kinds
  intro e he
  have := h e he
  simp only [Neutral, List.mem_cons, List.not_mem_nil, or_false, not_or] at this
  exact ⟨this.1, this.2.1⟩

theorem recordedClaims_eq_nil {es : List Event} (h : ∀ e ∈ es, e.kind ≠ .jobClaimed) : recordedClaims es = [] := by
  rw [List.eq_nil_iff_forall_not_mem]
  intro c hc
  exact h _ (mem_recordedClaims.1 hc) rfl

theorem recordedReceipts_eq_nil {es : List Event} (h : ∀ e ∈ es, e.kind ≠ .jobReceipted) :
    recordedReceipts es = [] := by
  rw [List.eq_nil_iff_forall_not_mem]
  intro r hr
  exact h _ (mem_recordedReceipts.1 hr) rfl

/-- Neutral events keep a ledger sound. -/
theorem Sound.append_neutral {l es : List Event} (h : Sound l) (hn : ∀ e ∈ es, Neutral e.kind) : Sound (l ++ es) := by
  have hids : issuedIds es = [] := by rw [issuedIds, issued_of_neutral hn, List.map_nil]
  refine h.append ?_ ?_ fun e he => (hn e he).unclaiming
  · rw [hids]
    exact List.nodup_nil
  · rw [hids]
    exact fun i hi => absurd hi List.not_mem_nil

/-! ## What a step does to the authority on record -/

section

variable {cfg : Config} {w : World}

/-- The assignments, keyed by job and coherent with a sound ledger. -/
structure Authority (s : Host) : Prop where
  sound : Sound s.ledger
  keyed : Keyed s.assignments
  coherent : Coherent s.ledger s.assignments

theorem authority_initial (epoch : Nat) (head : String → Except String ArtifactRefV1) :
    Authority (initial epoch head) :=
  ⟨.nil, keyed_empty, coherent_empty []⟩

/-- Neutral events and fewer assignments, or assignments that were marked. -/
theorem Authority.extend {s t : Host} (es : List Event) (h : Authority s) (hk : Keyed t.assignments)
    (hl : t.ledger = s.ledger ++ es) (hn : ∀ e ∈ es, Neutral e.kind)
    (ha : ∀ j a, t.assignments.lookup j = some a → ∃ b, s.assignments.lookup j = some b ∧ b.lease = a.lease ∧
      (b.claimed = true → a.claimed = true)) : Authority t := by
  refine ⟨?_, hk, ?_⟩
  · rw [hl]
    exact h.sound.append_neutral hn
  · rw [hl]
    exact h.coherent.extend h.sound (fun e he => (hn e he).unclaiming) fun j a hj => Or.inl (ha j a hj)

theorem Admission.authority {s t : Host} {members : List (JobSpecV1 × CapabilityLeaseV1)}
    (h : Admission w s t members) (hk : Keyed t.assignments) (hs : Authority s)
    (hids : (issuedIds t.ledger).Nodup) : Authority t := by
  obtain ⟨es, hes, hkinds⟩ := h.events
  have hclaiming : ∀ e ∈ es, e.kind ≠ .jobClaimed ∧ e.kind ≠ .jobReceipted := by
    intro e he
    rcases hkinds e he with (hk | hk | hk | hk) | hk | hk <;> rw [hk] <;> simp
  have hissued : Controller.issued es = members.map (·.2) := by
    have := h.issued
    rw [hes, issued_append] at this
    exact List.append_cancel_left this
  rw [hes, issuedIds_append, List.nodup_append] at hids
  refine ⟨?_, hk, ?_⟩
  · rw [hes]
    exact hs.sound.append hids.2.1 (fun i hi hm => hids.2.2 i hm i hi rfl) hclaiming
  · rw [hes]
    refine hs.coherent.extend hs.sound hclaiming fun j a ha => ?_
    rcases h.lookup_cases ha with ⟨m, hm, _, rfl⟩ | ⟨_, ho⟩
    · have hin : m.2 ∈ Controller.issued es := by
        rw [hissued]
        exact List.mem_map_of_mem hm
      refine Or.inr ⟨?_, ?_⟩
      · rw [issued_append]
        exact List.mem_append_right _ hin
      · exact fun hold => hids.2.2 _ hold _ (List.mem_map_of_mem hin) rfl
    · exact Or.inl ⟨a, ho, rfl, id⟩

/-- The receipt of a matching assignment names an issued lease of its job. -/
theorem Authority.receipt_issued {s : Host} (h : Authority s) {receipt : ExecutionReceiptV1} {a : Assignment}
    (stored : s.assignments.lookup receipt.jobId = some a)
    (matching : receiptMatches a receipt s.fencingEpoch = true) :
    ∃ x ∈ issued s.ledger, x.leaseId = receipt.leaseId ∧ x.jobId = receipt.jobId := by
  simp only [receiptMatches, Bool.and_eq_true, beq_iff_eq] at matching
  exact ⟨a.lease, h.coherent.issued _ a stored, matching.1.1.1.1.1, (h.keyed _ a stored).2⟩

/-- Every step keeps the authority, as long as no lease id is issued twice. -/
theorem Change.authority {s t : Host} {op : Op} {r : Reply} (h : Change cfg w s t op r) (hs : Authority s)
    (hids : (issuedIds t.ledger).Nodup) : Authority t := by
  have hk : Keyed t.assignments := h.keyed hs.keyed
  cases h with
  | idle frame =>
    obtain ⟨es, hes, hK⟩ := frame.events
    refine hs.extend es hk hes (fun e he => neutral_of_jobPassive (hK e he)) fun j a ha => ?_
    rw [frame.assignments] at ha
    exact ⟨a, ha, rfl, id⟩
  | halted halting =>
    obtain ⟨es, hes, hK⟩ := halting.events
    refine hs.extend es hk hes (fun e he => neutral_of_halting (hK e he)) fun j a ha => ?_
    rw [halting.assignments] at ha
    exact ⟨a, ha, rfl, id⟩
  | admitted admission => exact admission.authority hk hs hids
  | @revoked nodeId _ _ name key quiet =>
    obtain ⟨es, hes, hK⟩ := quiet.events
    refine hs.extend (.nodeRevoked nodeId name key :: es) hk ?_ ?_ fun j a ha => ?_
    · rw [hes]
      simp [forgetNode]
    · intro e he
      rcases List.mem_cons.1 he with rfl | he
      · simp [Neutral, Event.kind]
      · exact neutral_of_other (hK e he)
    · rw [quiet.assignments] at ha
      exact ⟨a, (lookup_of_retain ha).1, rfl, id⟩
  | @claimed nodeId jobId a claimable _ result =>
    have hjob : a.job.jobId = jobId ∧ a.lease.jobId = jobId := hs.keyed _ _ claimable.stored
    -- what is handed out has been issued
    have hclaim : (workClaim cfg a).lease ∈ issued s.ledger ∧ (workClaim cfg a).job.jobId = (workClaim cfg a).lease.jobId :=
      ⟨hs.coherent.issued _ _ claimable.stored, hjob.1.trans hjob.2.symm⟩
    subst result
    refine ⟨?_, hk, ?_⟩
    · refine hs.sound.snoc ⟨List.nodup_nil, fun x hx => absurd hx List.not_mem_nil, ?_, ?_⟩
      · rintro c hc
        cases hc
        exact hclaim
      · rintro r hr
        cases hr
    · refine hs.coherent.claim hs.sound hs.keyed hclaim fun j b hb => ?_
      rcases lookup_markClaimed hb with ⟨rfl, rfl⟩ | ⟨hj, hb⟩
      · exact ⟨a, claimable.stored, rfl, Or.inl ⟨hjob.1.symm, rfl⟩⟩
      · refine ⟨b, hb, rfl, Or.inr ⟨?_, rfl⟩⟩
        show j ≠ a.job.jobId
        rw [hjob.1]
        exact hj
  | @claimLost nodeId jobId a _ claimable _ result =>
    subst result
    refine hs.extend [] hk (List.append_nil _).symm (by simp) fun j b hb => ?_
    rcases lookup_markClaimed hb with ⟨rfl, rfl⟩ | ⟨_, hb⟩
    · exact ⟨a, claimable.stored, rfl, fun _ => rfl⟩
    · exact ⟨b, hb, rfl, id⟩
  | @receipted receipt a _ stored matching _ quiet =>
    obtain ⟨es, hes, hK⟩ := quiet.events
    have hissued := hs.receipt_issued stored matching
    -- first the receipt, then the outputs that are recorded for it
    have hmid : Authority (Controller.receipted a receipt s) := by
      refine ⟨?_, hs.keyed.of_lookup fun j b hb => Or.inl ⟨b, (lookup_of_erase hb).1, rfl, rfl⟩, ?_⟩
      · refine hs.sound.snoc ⟨List.nodup_nil, fun x hx => absurd hx List.not_mem_nil, ?_, ?_⟩
        · rintro c hc
          cases hc
        · rintro r hr
          cases hr
          exact hissued
      · exact hs.coherent.receipt hs.sound hs.keyed hissued fun j b hb => lookup_of_erase hb
    refine hmid.extend es hk hes (fun e he => neutral_of_recording (hK e he)) fun j b hb => ?_
    rw [quiet.assignments] at hb
    exact ⟨b, hb, rfl, id⟩
  | receiptLost _ _ _ result =>
    subst result
    refine hs.extend [] hk (List.append_nil _).symm (by simp) fun j b hb => ?_
    exact ⟨b, (lookup_of_erase hb).1, rfl, id⟩
  | restarted result =>
    subst result
    exact ⟨hs.sound, hk, coherent_replay hs.sound⟩

/-- A step records the claim it hands out and no other. -/
theorem Change.recordedClaims {s t : Host} {op : Op} {r : Reply} (h : Change cfg w s t op r) :
    recordedClaims t.ledger = recordedClaims s.ledger ++ r.claimed.toList := by
  -- most steps record no claim
  have hnone : ∀ es, t.ledger = s.ledger ++ es → (∀ e ∈ es, e.kind ≠ .jobClaimed) →
      Controller.recordedClaims t.ledger = Controller.recordedClaims s.ledger := by
    intro es hes hk
    rw [hes, recordedClaims_append, recordedClaims_eq_nil hk, List.append_nil]
  cases h with
  | idle frame claimed =>
    obtain ⟨es, hes, hK⟩ := frame.events
    rw [claimed, hnone es hes fun e he => (neutral_of_jobPassive (hK e he)).unclaiming.1]
    simp
  | halted halting claimed =>
    obtain ⟨es, hes, hK⟩ := halting.events
    rw [claimed, hnone es hes fun e he => (neutral_of_halting (hK e he)).unclaiming.1]
    simp
  | admitted admission _ claimed =>
    obtain ⟨es, hes, hK⟩ := admission.events
    rw [claimed, hnone es hes]
    · simp
    · intro e he
      rcases hK e he with (hk | hk | hk | hk) | hk | hk <;> rw [hk] <;> simp
  | @revoked nodeId _ _ name key quiet claimed =>
    obtain ⟨es, hes, hK⟩ := quiet.events
    rw [claimed, hnone (.nodeRevoked nodeId name key :: es)]
    · simp
    · rw [hes]
      simp [forgetNode]
    · intro e he
      rcases List.mem_cons.1 he with rfl | he
      · simp [Event.kind]
      · exact (neutral_of_other (hK e he)).unclaiming.1
  | claimed _ _ result =>
    subst result
    exact recordedClaims_append s.ledger _
  | claimLost _ _ result claimed =>
    rw [claimed, result]
    exact (List.append_nil _).symm
  | @receipted receipt _ _ _ _ _ quiet claimed =>
    obtain ⟨es, hes, hK⟩ := quiet.events
    rw [claimed, hnone (.jobReceipted receipt :: es)]
    · simp
    · rw [hes]
      simp [Controller.receipted]
    · intro e he
      rcases List.mem_cons.1 he with rfl | he
      · simp [Event.kind]
      · exact (neutral_of_recording (hK e he)).unclaiming.1
  | receiptLost _ _ _ result claimed =>
    rw [claimed, result]
    exact (List.append_nil _).symm
  | restarted result =>
    rw [result]
    exact (List.append_nil _).symm

/-- A step records the receipt it accepts, of a stored assignment that matches it, and no other. -/
theorem Change.recordedReceipts {s t : Host} {op : Op} {r : Reply} (h : Change cfg w s t op r) :
    (recordedReceipts t.ledger = recordedReceipts s.ledger ∧ r.isAccepted = false) ∨
      ∃ receipt a, op = .submitReceipt receipt ∧ s.assignments.lookup receipt.jobId = some a ∧
        receiptMatches a receipt s.fencingEpoch = true ∧
        recordedReceipts t.ledger = recordedReceipts s.ledger ++ [receipt] := by
  -- other events add nothing to the recorded receipts
  have hnone : ∀ es, t.ledger = s.ledger ++ es → (∀ e ∈ es, e.kind ≠ .jobReceipted) →
      Controller.recordedReceipts t.ledger = Controller.recordedReceipts s.ledger := by
    intro es hes hk
    rw [hes, recordedReceipts_append, recordedReceipts_eq_nil hk, List.append_nil]
  cases h with
  | idle frame _ accepted =>
    obtain ⟨es, hes, hK⟩ := frame.events
    exact Or.inl ⟨hnone es hes fun e he => (neutral_of_jobPassive (hK e he)).unclaiming.2, accepted⟩
  | halted halting _ accepted =>
    obtain ⟨es, hes, hK⟩ := halting.events
    exact Or.inl ⟨hnone es hes fun e he => (neutral_of_halting (hK e he)).unclaiming.2, accepted⟩
  | admitted admission _ _ accepted =>
    obtain ⟨es, hes, hK⟩ := admission.events
    refine Or.inl ⟨hnone es hes ?_, accepted⟩
    intro e he
    rcases hK e he with (hk | hk | hk | hk) | hk | hk <;> rw [hk] <;> simp
  | @revoked nodeId _ _ name key quiet _ accepted =>
    obtain ⟨es, hes, hK⟩ := quiet.events
    refine Or.inl ⟨hnone (.nodeRevoked nodeId name key :: es) ?_ ?_, accepted⟩
    · rw [hes]
      simp [forgetNode]
    · intro e he
      rcases List.mem_cons.1 he with rfl | he
      · simp [Event.kind]
      · exact (neutral_of_other (hK e he)).unclaiming.2
  | claimed _ _ result =>
    refine Or.inl ⟨hnone _ (by rw [result]; rfl) ?_, rfl⟩
    simp [Event.kind]
  | claimLost _ _ result _ accepted => exact Or.inl ⟨by rw [result]; rfl, accepted⟩
  | @receipted receipt a _ stored matching _ quiet =>
    obtain ⟨es, hes, hK⟩ := quiet.events
    refine Or.inr ⟨receipt, a, rfl, stored, matching, ?_⟩
    have hrest : Controller.recordedReceipts es = [] :=
      recordedReceipts_eq_nil fun e he => (neutral_of_recording (hK e he)).unclaiming.2
    rw [hes, recordedReceipts_append, hrest, List.append_nil]
    exact recordedReceipts_append s.ledger _
  | receiptLost _ _ _ result _ accepted => exact Or.inl ⟨by rw [result]; rfl, accepted⟩
  | restarted result => exact Or.inl ⟨by rw [result]; rfl, rfl⟩

/-! ## Once over every run -/

/-- The claims a run handed out, in order. -/
def handedOut (tr : List (Op × Reply)) : List WorkClaimV1 := tr.filterMap (·.2.claimed)

/-- The receipt an entry of a trace accepts. -/
def acceptedReceipt : Op × Reply → Option ExecutionReceiptV1
  | (.submitReceipt receipt, r) => if r.isAccepted then some receipt else none
  | _ => none

/-- The receipts a run accepted, in order. -/
def accepted (tr : List (Op × Reply)) : List ExecutionReceiptV1 := tr.filterMap acceptedReceipt

/-- What the history of a run and its state know of each other. -/
structure History (tr : List (Op × Reply)) (s : Host) : Prop where
  authority : Authority s
  claims : recordedClaims s.ledger = handedOut tr
  asked : ∀ e ∈ tr, ∀ c, e.2.claimed = some c → e = (.claimWork c.lease.nodeId, .claim (.ok (some c)))
  claimedOnce : ((recordedClaims s.ledger).map (·.lease.leaseId)).Nodup
  receipts : List.Sublist (accepted tr) (recordedReceipts s.ledger)
  receiptedOnce : ((recordedReceipts s.ledger).map (·.leaseId)).Nodup

theorem history_initial (epoch : Nat) (head : String → Except String ArtifactRefV1) :
    History [] (initial epoch head) :=
  ⟨authority_initial epoch head, rfl, by simp, List.nodup_nil, List.nil_sublist _, List.nodup_nil⟩

theorem Reply.eq_of_claimed {r : Reply} {c : WorkClaimV1} (h : r.claimed = some c) : r = .claim (.ok (some c)) := by
  unfold Reply.claimed at h
  split at h
  · rw [h]
  · cases h

/-- A claim that is handed out is of a lease without a claim on record. -/
theorem History.claimedOnce_step {tr : List (Op × Reply)} {s t : Host} {op : Op} {r : Reply} (h : History tr s)
    (hc : Change cfg w s t op r) : ((Controller.recordedClaims t.ledger).map (·.lease.leaseId)).Nodup := by
  rw [hc.recordedClaims]
  rcases hr : r.claimed with _ | c
  · simpa using h.claimedOnce
  · obtain ⟨_, _, _, stored, _, _⟩ := hc.claim_spec h.authority.keyed hr
    rw [List.map_append, List.nodup_append]
    refine ⟨h.claimedOnce, by simp, ?_⟩
    rintro i hi _ hk rfl
    obtain ⟨c', hc', hid⟩ := List.mem_map.1 hi
    have hsame : c'.lease.leaseId = c.lease.leaseId := by
      rw [hid]
      simpa using hk
    have := h.authority.coherent.claimed _ _ stored c' (mem_recordedClaims.1 hc') hsame
    cases this

/-- A receipt that is recorded is of a lease without a receipt on record. -/
theorem History.receiptedOnce_step {tr : List (Op × Reply)} {s t : Host} {op : Op} {r : Reply} (h : History tr s)
    (hc : Change cfg w s t op r) : ((Controller.recordedReceipts t.ledger).map (·.leaseId)).Nodup := by
  rcases hc.recordedReceipts with ⟨hsame, _⟩ | ⟨receipt, a, _, stored, matching, hnew⟩
  · rw [hsame]
    exact h.receiptedOnce
  · rw [hnew, List.map_append, List.nodup_append]
    refine ⟨h.receiptedOnce, by simp, ?_⟩
    rintro i hi _ hk rfl
    obtain ⟨r', hr', hid⟩ := List.mem_map.1 hi
    refine h.authority.coherent.unreceipted _ a stored r' (mem_recordedReceipts.1 hr') ?_
    simp only [receiptMatches, Bool.and_eq_true, beq_iff_eq] at matching
    rw [matching.1.1.1.1.1, hid]
    simpa using hk

theorem History.receipts_step {tr : List (Op × Reply)} {s t : Host} {op : Op} {r : Reply} (h : History tr s)
    (hc : Change cfg w s t op r) :
    List.Sublist (accepted (tr ++ [(op, r)])) (Controller.recordedReceipts t.ledger) := by
  rw [accepted, List.filterMap_append]
  rcases hc.recordedReceipts with ⟨hsame, hno⟩ | ⟨receipt, a, rfl, _, _, hnew⟩
  · have hnone : acceptedReceipt (op, r) = none := by
      unfold acceptedReceipt
      split
      · rename_i hop
        rw [Prod.mk.injEq] at hop
        rw [← hop.2, hno]
        rfl
      · rfl
    rw [hsame, List.filterMap_cons, hnone]
    simpa [accepted] using h.receipts
  · rw [hnew]
    refine h.receipts.append ?_
    by_cases ha : r.isAccepted = true
    · simp [acceptedReceipt, ha]
    · simp [acceptedReceipt, ha]

/-- Every step keeps the history. -/
theorem History.step {tr : List (Op × Reply)} {s t : Host} {op : Op} {r : Reply} (h : History tr s)
    (hc : Change cfg w s t op r) (hids : (issuedIds t.ledger).Nodup) : History (tr ++ [(op, r)]) t := by
  refine ⟨hc.authority h.authority hids, ?_, ?_, h.claimedOnce_step hc, h.receipts_step hc, h.receiptedOnce_step hc⟩
  · rw [hc.recordedClaims, h.claims, handedOut, handedOut, List.filterMap_append]
    rcases hr : r.claimed with _ | c <;> simp [hr]
  · intro e he c hr
    rcases List.mem_append.1 he with he | he
    · exact h.asked e he c hr
    · rw [List.mem_singleton] at he
      subst he
      replace hr : r.claimed = some c := hr
      obtain ⟨hop, _⟩ := hc.claim_spec h.authority.keyed hr
      rw [hop, Reply.eq_of_claimed hr]

/-- A step issues no fewer leases, so that ids that are distinct after it were so before. -/
theorem Change.issuedIds_nodup {s t : Host} {op : Op} {r : Reply} (h : Change cfg w s t op r)
    (hids : (issuedIds t.ledger).Nodup) : (issuedIds s.ledger).Nodup := by
  obtain ⟨es, hes⟩ := h.ledger
  rw [hes, issuedIds_append] at hids
  exact (List.nodup_append.1 hids).1

/-- The history of a run whose leases have distinct ids. -/
theorem history_exec (ops : List Op) (epoch : Nat) (head : String → Except String ArtifactRefV1) :
    (issuedIds ((machine cfg w).exec ops (initial epoch head)).ledger).Nodup →
      History ((machine cfg w).trace ops (initial epoch head)) ((machine cfg w).exec ops (initial epoch head)) :=
  (machine cfg w).invariant (C := fun _ _ => True) (I := fun tr s => (issuedIds s.ledger).Nodup → History tr s)
    (fun _ s op ih _ hids => (ih ((step_change op s).issuedIds_nodup hids)).step (step_change op s) hids) ops []
    (initial epoch head) (fun _ => history_initial epoch head)
    ((machine cfg w).meets_of_forall (fun _ _ => trivial) ops _)

end

end Rampage.Controller
