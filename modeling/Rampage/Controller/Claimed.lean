/-
A claimed job is not handed out again. Deduplication is by idempotency key in `submit_job`, by set
key in `submit_shard_set` and by job id in the assignment table, and neither admission path looks at
the assignment it is about to replace. `claimed_job_is_kept` is the guarantee that is left: as long as
no request that passes its deduplication names a job whose claimed assignment is still authority,
and the record of no settled receipt fails, an outstanding claim keeps its assignment and is not
handed out again. `resubmitted_job_is_replaced` is the run that breaks it otherwise.
-/
import Rampage.Controller.Authority
import Rampage.Controller.Scenario

namespace Rampage.Controller

open Rampage.Protocol Rampage.Planner Rampage.Governor Rampage.Ledger

/-- The assignment is claimed and still authority. -/
def isHeld (w : World) (s : Host) (a : Assignment) : Bool :=
  a.claimed && decide (w.clock s.reads < a.lease.expiresAt) && a.lease.fencingEpoch == s.fencingEpoch

/-- The step does not overwrite a claimed assignment that is still authority, and does not lose the
record of a receipt it settles. -/
def sparesClaims (w : World) (s : Host) (op : Op) : Bool :=
  ((op.undeduplicated s).all fun job => !(s.assignments.lookup job.jobId).any (isHeld w s)) &&
    match op with
    | .submitReceipt receipt =>
      !(s.assignments.lookup receipt.jobId).any (fun a => receiptMatches a receipt s.fencingEpoch) ||
        (w.appendFailure s.appends).isNone
    | _ => true

theorem sparesClaims_submits {w : World} {s : Host} {op : Op} (h : sparesClaims w s op = true) {job : JobSpecV1}
    (hj : job ∈ op.undeduplicated s) {a : Assignment} (ha : s.assignments.lookup job.jobId = some a) :
    isHeld w s a = false := by
  unfold sparesClaims at h
  rw [Bool.and_eq_true, List.all_eq_true] at h
  have := h.1 job hj
  rw [ha] at this
  simpa using this

theorem sparesClaims_receipts {w : World} {s : Host} {receipt : ExecutionReceiptV1}
    (h : sparesClaims w s (.submitReceipt receipt) = true) {a : Assignment}
    (ha : s.assignments.lookup receipt.jobId = some a) (hm : receiptMatches a receipt s.fencingEpoch = true) :
    w.appendFailure s.appends = none := by
  unfold sparesClaims at h
  rw [Bool.and_eq_true] at h
  have := h.2
  simp only [ha, Option.any_some, hm, Bool.not_true, Bool.false_or, Option.isNone_iff_eq_none] at this
  exact this

/-- The claim `c`, handed out when the ledger and clock stood as in `s₁`, is still outstanding in `s`: no
receipt for it and no revocation of its node was recorded since, and its lease is unexpired and of
the current epoch. -/
structure Outstanding (w : World) (c : WorkClaimV1) (s₁ s : Host) : Prop where
  unreceipted : ∀ es, s.ledger = s₁.ledger ++ es → ∀ r, .jobReceipted r ∈ es → r.leaseId ≠ c.lease.leaseId
  unrevoked : ∀ es, s.ledger = s₁.ledger ++ es → ∀ name key, .nodeRevoked c.lease.nodeId name key ∉ es
  unexpired : w.clock s.reads < c.lease.expiresAt
  current : c.lease.fencingEpoch = s.fencingEpoch

section

variable {cfg : Config} {w : World}

/-- The claim is still outstanding before a step that leaves it so. -/
theorem Outstanding.before {c : WorkClaimV1} {s₁ s t : Host} {op : Op} {r : Reply} (hclock : Monotone w.clock)
    (he : c.lease.fencingEpoch ≤ s.fencingEpoch)
    (hc : Change cfg w s t op r) (h : Outstanding w c s₁ t) : Outstanding w c s₁ s := by
  obtain ⟨new, hnew⟩ := hc.ledger
  have hin : ∀ es, s.ledger = s₁.ledger ++ es → t.ledger = s₁.ledger ++ (es ++ new) := by
    intro es hes
    rw [hnew, hes, List.append_assoc]
  refine ⟨?_, ?_, ?_, ?_⟩
  · intro es hes r hr
    exact h.unreceipted _ (hin es hes) r (List.mem_append_left _ hr)
  · intro es hes name key hm
    exact h.unrevoked _ (hin es hes) name key (List.mem_append_left _ hm)
  · exact lt_of_le_of_lt (hclock hc.later.reads) h.unexpired
  · have := hc.fencingEpoch
    have := h.current
    omega

/-- An admission that meets the condition leaves a claimed assignment alone that is still authority. -/
theorem Admission.keeps_claimed {c : WorkClaimV1} {s t : Host} {op : Op}
    {members : List (JobSpecV1 × CapabilityLeaseV1)} (h : Admission w s t members)
    (hn : ∀ m ∈ members, m.1 ∈ op.undeduplicated s) (hsp : sparesClaims w s op = true)
    (hexp : w.clock s.reads < c.lease.expiresAt) (hs : c.lease.fencingEpoch = s.fencingEpoch)
    (hst : s.assignments.lookup c.job.jobId = some ⟨c.job, c.lease, true⟩) :
    t.assignments.lookup c.job.jobId = some ⟨c.job, c.lease, true⟩ := by
  have hno : c.job.jobId ∉ members.map (·.1.jobId) := by
    intro hm
    obtain ⟨m, hm, hj⟩ := List.mem_map.1 hm
    have := sparesClaims_submits hsp (hn m hm) (by rw [hj]; exact hst)
    simp [isHeld, hexp, hs] at this
  rw [h.assignments, Table.lookup_insertAll_of_notMem, hst]
  rw [List.map_map]
  exact hno

/-- A step that meets the condition keeps the assignment of an outstanding claim. -/
theorem Change.keeps_claimed {c : WorkClaimV1} {s₁ s t : Host} {op : Op} {r : Reply} (hclock : Monotone w.clock)
    (hl : ∃ es, s.ledger = s₁.ledger ++ es) (hc : Change cfg w s t op r) (hop : op ≠ .restart)
    (hsp : sparesClaims w s op = true) (h : Outstanding w c s₁ t) (hs : c.lease.fencingEpoch = s.fencingEpoch)
    (hst : s.assignments.lookup c.job.jobId = some ⟨c.job, c.lease, true⟩) :
    t.assignments.lookup c.job.jobId = some ⟨c.job, c.lease, true⟩ := by
  obtain ⟨old, hold⟩ := hl
  -- the lease has not run out before this step either
  have hexp : w.clock s.reads < c.lease.expiresAt := lt_of_le_of_lt (hclock hc.later.reads) h.unexpired
  cases hc with
  | idle frame => rw [frame.assignments]; exact hst
  | halted halting => rw [halting.assignments]; exact hst
  | admitted admission named => exact admission.keeps_claimed named hsp hexp hs hst
  | @revoked nodeId _ _ name key quiet =>
    have hne : c.lease.nodeId ≠ nodeId := by
      rintro rfl
      obtain ⟨es, hes, _⟩ := quiet.events
      refine h.unrevoked (old ++ .nodeRevoked c.lease.nodeId name key :: es) ?_ name key (by simp)
      rw [hes]
      simp [forgetNode, hold]
    rw [quiet.assignments]
    show (s.assignments.retain fun _ a => a.lease.nodeId != nodeId).lookup c.job.jobId = _
    rw [Table.lookup_retain, hst]
    simp [hne]
  | @claimed _ jobId a claimable _ result =>
    -- what is handed out was not claimed yet
    have hne : c.job.jobId ≠ jobId := by
      rintro rfl
      have := claimable.stored
      rw [hst, Option.some.injEq] at this
      have hu := claimable.unclaimed
      rw [← this] at hu
      cases hu
    rw [result]
    show (s.assignments.insert jobId _).lookup _ = _
    rw [Table.lookup_insert', if_neg hne, hst]
  | @claimLost _ jobId a _ claimable _ result =>
    have hne : c.job.jobId ≠ jobId := by
      rintro rfl
      have := claimable.stored
      rw [hst, Option.some.injEq] at this
      have hu := claimable.unclaimed
      rw [← this] at hu
      cases hu
    rw [result]
    show (s.assignments.insert jobId _).lookup _ = _
    rw [Table.lookup_insert', if_neg hne, hst]
  | @receipted receipt a _ stored matching _ quiet =>
    -- a receipt for the claim would have ended it
    have hne : c.job.jobId ≠ receipt.jobId := by
      intro hj
      rw [← hj, hst, Option.some.injEq] at stored
      obtain ⟨es, hes, _⟩ := quiet.events
      refine h.unreceipted (old ++ .jobReceipted receipt :: es) ?_ receipt (by simp) ?_
      · rw [hes]
        simp [Controller.receipted, hold]
      · rw [← stored] at matching
        simp only [receiptMatches, Bool.and_eq_true, beq_iff_eq] at matching
        exact matching.1.1.1.1.1.symm
    rw [quiet.assignments]
    show AList.lookup c.job.jobId (s.assignments.erase receipt.jobId) = _
    rw [Table.lookup_erase', if_neg hne, hst]
  | receiptLost stored matching append _ => exact absurd (sparesClaims_receipts hsp stored matching) append
  | restarted => exact absurd rfl hop

/-- The run after a claim keeps its assignment while the claim is outstanding. -/
theorem exec_keeps_claimed {c : WorkClaimV1} {s₁ : Host} (hclock : Monotone w.clock)
    (hs : c.lease.fencingEpoch = s₁.fencingEpoch)
    (hst : s₁.assignments.lookup c.job.jobId = some ⟨c.job, c.lease, true⟩) :
    ∀ {ops : List Op}, (machine cfg w).Meets (fun s op => sparesClaims w s op = true) ops s₁ → (∀ op ∈ ops, op ≠ .restart) →
      (∃ es, ((machine cfg w).exec ops s₁).ledger = s₁.ledger ++ es) ∧
      c.lease.fencingEpoch ≤ ((machine cfg w).exec ops s₁).fencingEpoch ∧
      (Outstanding w c s₁ ((machine cfg w).exec ops s₁) →
        ((machine cfg w).exec ops s₁).assignments.lookup c.job.jobId = some ⟨c.job, c.lease, true⟩) := by
  intro ops
  induction ops using List.reverseRecOn with
  | nil => exact fun _ _ => ⟨⟨[], (List.append_nil _).symm⟩, hs.le, fun _ => hst⟩
  | append_singleton ops op ih =>
    intro hm hr
    rw [Machine.meets_append] at hm
    obtain ⟨hl, he, hkeep⟩ := ih hm.1 fun o ho => hr o (List.mem_append_left _ ho)
    have hop : op ≠ .restart := hr op (List.mem_append_right _ (List.mem_singleton_self op))
    rw [Machine.exec_append]
    generalize (machine cfg w).exec ops s₁ = s at *
    have hc : Change cfg w s ((machine cfg w).exec [op] s) op (step cfg w op s).1 := step_change op s
    refine ⟨?_, he.trans hc.fencingEpoch, fun hout => ?_⟩
    · obtain ⟨es, hes⟩ := hl
      obtain ⟨es', hes'⟩ := hc.ledger
      exact ⟨es ++ es', by rw [hes', hes, List.append_assoc]⟩
    · have hbefore := hout.before hclock he hc
      exact hc.keeps_claimed hclock hl hop hm.2.1 hout hbefore.current (hkeep hbefore)

end

/-- In every run whose steps meet the condition: if `claim_work` has answered with the claim `c` and `c` is
still outstanding, then `c` has its assignment, marked claimed; a `submit_job` or `submit_shard_set`
that comes next leaves it as it is, and no `claim_work` that comes next answers with another
claim for the job. -/
theorem claimed_job_is_kept (cfg : Config) (w : World) (epoch : Nat) (head : String → Except String ArtifactRefV1)
    (hclock : Monotone w.clock) (before later : List Op) (nodeId : Uuid) (next : Op) (c : WorkClaimV1)
    (hm : (machine cfg w).Meets (fun s op => sparesClaims w s op = true)
      (before ++ .claimWork nodeId :: (later ++ [next])) (initial epoch head))
    (hr : ∀ op ∈ later ++ [next], op ≠ .restart) :
    let s₀ := (machine cfg w).exec before (initial epoch head)
    let s₁ := (step cfg w (.claimWork nodeId) s₀).2
    let s := (machine cfg w).exec later s₁
    (step cfg w (.claimWork nodeId) s₀).1.claimed = some c → Outstanding w c s₁ s →
      s.assignments.lookup c.job.jobId = some ⟨c.job, c.lease, true⟩ ∧
      ((∃ job, next = .submitJob job) ∨ (∃ set, next = .submitShardSet set) →
        (step cfg w next s).2.assignments.lookup c.job.jobId = some ⟨c.job, c.lease, true⟩) ∧
      ∀ c', (step cfg w next s).1.claimed = some c' → c'.job.jobId ≠ c.job.jobId := by
  intro s₀ s₁ s hc hout
  rw [Machine.meets_append] at hm
  obtain ⟨hspares, hmeets⟩ := hm.2
  change (machine cfg w).Meets (fun s op => sparesClaims w s op = true) (later ++ [next]) s₁ at hmeets
  rw [Machine.meets_append] at hmeets
  have hkeyed : Keyed s₀.assignments := keyed_exec before keyed_empty
  have hclaim : Change cfg w s₀ s₁ (.claimWork nodeId) (step cfg w (.claimWork nodeId) s₀).1 := step_change _ s₀
  obtain ⟨_, hepoch, hepoch₁, _, hst₁, _⟩ := hclaim.claim_spec hkeyed hc
  obtain ⟨_, _, hkeep⟩ := exec_keeps_claimed hclock (hepoch.trans hepoch₁.symm) hst₁ hmeets.1
    fun op hop => hr op (List.mem_append_left _ hop)
  have hst := hkeep hout
  have hnext : Change cfg w s (step cfg w next s).2 next (step cfg w next s).1 := step_change next s
  refine ⟨hst, ?_, ?_⟩
  · intro hsubmit
    have hsp : sparesClaims w s next = true := hmeets.2.1
    -- only three kinds of change are left for a submit request
    rcases hsubmit with ⟨job, rfl⟩ | ⟨set, rfl⟩
    · cases hnext with
      | idle frame => rw [frame.assignments]; exact hst
      | halted halting => rw [halting.assignments]; exact hst
      | admitted admission named => exact admission.keeps_claimed named hsp hout.unexpired hout.current hst
    · cases hnext with
      | idle frame => rw [frame.assignments]; exact hst
      | halted halting => rw [halting.assignments]; exact hst
      | admitted admission named => exact admission.keeps_claimed named hsp hout.unexpired hout.current hst
  · intro c' hc' hj
    have hk : Keyed s.assignments := keyed_exec later (hclaim.keyed hkeyed)
    obtain ⟨_, _, _, hun, _, _⟩ := hnext.claim_spec hk hc'
    rw [hj, hst, Option.some.injEq] at hun
    exact absurd (congrArg Assignment.claimed hun) (by simp)

/-! ## Two runs of the small fabric -/

section

open Scenario

/-- Events that are neither receipts nor revocations leave a claim outstanding. -/
theorem Outstanding.of_kinds {w : World} {c : WorkClaimV1} {s₁ s : Host}
    (hk : ∀ e ∈ s.ledger.drop s₁.ledger.length, e.kind ≠ .jobReceipted ∧ e.kind ≠ .nodeRevoked)
    (hx : w.clock s.reads < c.lease.expiresAt) (he : c.lease.fencingEpoch = s.fencingEpoch) :
    Outstanding w c s₁ s := by
  have hdrop : ∀ es, s.ledger = s₁.ledger ++ es → s.ledger.drop s₁.ledger.length = es := by
    intro es hes
    rw [hes, List.drop_left]
  refine ⟨?_, ?_, hx, he⟩
  · intro es hes r hr
    rw [← hdrop es hes] at hr
    exact absurd rfl (hk _ hr).1
  · intro es hes name key hm
    rw [← hdrop es hes] at hm
    exact absurd rfl (hk _ hm).2

theorem exec_pair (cfg : Config) (w : World) (a b : Op) (s : Host) :
    (machine cfg w).exec [a, b] s = (step cfg w b (step cfg w a s).2).2 := rfl

/-- The job is submitted and claimed. -/
def claimedOnce : Host :=
  (step config world (.claimWork 77) ((machine config world).exec (setup ++ [Op.submitJob (job 9 "k1")]) start)).2

/-- The same request again is deduplicated and the claim stands. -/
theorem claimed_job_is_kept_echo :
    ∃ c, (step config world (.claimWork 77)
        ((machine config world).exec (setup ++ [.submitJob (job 9 "k1")]) start)).1.claimed = some c ∧
      ((machine config world).exec (setup ++ [.submitJob (job 9 "k1"), .claimWork 77, .submitJob (job 9 "k1")])
        start).assignments.lookup c.job.jobId = some ⟨c.job, c.lease, true⟩ := by
  have hrun : ((step config world (.claimWork 77)
        ((machine config world).exec (setup ++ [Op.submitJob (job 9 "k1")]) start)).1.claimed.map
          fun c => (c.lease.expiresAt, c.lease.fencingEpoch)) = some (seconds 100, 0) ∧
      (machine config world).Meets (fun s op => sparesClaims world s op = true)
        (setup ++ [Op.submitJob (job 9 "k1")] ++ .claimWork 77 :: ([] ++ [Op.submitJob (job 9 "k1")])) start ∧
      (∀ e ∈ claimedOnce.ledger.drop claimedOnce.ledger.length, e.kind ≠ .jobReceipted ∧ e.kind ≠ .nodeRevoked) ∧
      world.clock claimedOnce.reads < seconds 100 ∧ 0 = claimedOnce.fencingEpoch := by
    decide +kernel
  obtain ⟨h, hmeets, hkinds, hclock, hepoch⟩ := hrun
  obtain ⟨c, hc, hview⟩ := Option.map_eq_some_iff.1 h
  simp only [Prod.mk.injEq] at hview
  have hout : Outstanding world c claimedOnce claimedOnce :=
    Outstanding.of_kinds hkinds (by rw [hview.1]; exact hclock) (by rw [hview.2]; exact hepoch)
  have hkept := claimed_job_is_kept config world 0 (fun _ => .error "missing") world_clock_monotone
    (setup ++ [Op.submitJob (job 9 "k1")]) [] 77 (Op.submitJob (job 9 "k1")) c hmeets (by simp) hc hout
  refine ⟨c, hc, ?_⟩
  have hsplit : setup ++ [Op.submitJob (job 9 "k1"), .claimWork 77, .submitJob (job 9 "k1")] =
      setup ++ [Op.submitJob (job 9 "k1")] ++ [.claimWork 77, .submitJob (job 9 "k1")] := by
    rw [List.append_assoc]
    rfl
  have hstays : (step config world (Op.submitJob (job 9 "k1")) claimedOnce).2.assignments.lookup c.job.jobId =
      some ⟨c.job, c.lease, true⟩ := hkept.2.1 (Or.inl ⟨_, rfl⟩)
  rw [hsplit, Machine.exec_append, exec_pair]
  exact hstays

/-- A second submission of the claimed job under another key passes the deduplication: while the
claim is outstanding its assignment is replaced by an unclaimed one, and the job is handed out
again under another lease. -/
theorem resubmitted_job_is_replaced :
    let s₀ := (machine config world).exec (setup ++ [.submitJob (job 9 "k1")]) start
    let s₁ := (step config world (.claimWork 77) s₀).2
    let s₂ := (step config world (.submitJob (job 9 "k2")) s₁).2
    ∃ c c', (step config world (.claimWork 77) s₀).1.claimed = some c ∧ c.job.jobId = 9 ∧
      Outstanding world c s₁ s₁ ∧ Outstanding world c s₁ s₂ ∧
      (s₂.assignments.lookup 9).map (·.claimed) = some false ∧
      (step config world (.claimWork 77) s₂).1.claimed = some c' ∧ c'.job.jobId = 9 ∧
      c'.lease.leaseId ≠ c.lease.leaseId := by
  intro s₀ s₁ s₂
  -- one evaluation of the run gives all that is asked of it
  have hrun : ((step config world (.claimWork 77) s₀).1.claimed.map
        fun c => (c.job.jobId, c.lease.leaseId, c.lease.expiresAt, c.lease.fencingEpoch)) = some (9, 2, seconds 100, 0) ∧
      ((step config world (.claimWork 77) s₂).1.claimed.map fun c => (c.job.jobId, c.lease.leaseId)) = some (9, 3) ∧
      ((∀ e ∈ s₁.ledger.drop s₁.ledger.length, e.kind ≠ .jobReceipted ∧ e.kind ≠ .nodeRevoked) ∧
        world.clock s₁.reads < seconds 100 ∧ 0 = s₁.fencingEpoch) ∧
      ((∀ e ∈ s₂.ledger.drop s₁.ledger.length, e.kind ≠ .jobReceipted ∧ e.kind ≠ .nodeRevoked) ∧
        world.clock s₂.reads < seconds 100 ∧ 0 = s₂.fencingEpoch) ∧
      (s₂.assignments.lookup 9).map (·.claimed) = some false := by
    decide +kernel
  obtain ⟨h, h', ⟨hkinds, hclock, hepoch⟩, ⟨hkinds', hclock', hepoch'⟩, hunclaimed⟩ := hrun
  obtain ⟨c, hc, hview⟩ := Option.map_eq_some_iff.1 h
  obtain ⟨c', hc', hview'⟩ := Option.map_eq_some_iff.1 h'
  simp only [Prod.mk.injEq] at hview hview'
  obtain ⟨hj, hid, hx, he⟩ := hview
  refine ⟨c, c', hc, hj, ?_, ?_, hunclaimed, hc', hview'.1, ?_⟩
  · exact Outstanding.of_kinds hkinds (by rw [hx]; exact hclock) (by rw [he]; exact hepoch)
  · exact Outstanding.of_kinds hkinds' (by rw [hx]; exact hclock') (by rw [he]; exact hepoch')
  · rw [hview'.2, hid]
    decide

end

end Rampage.Controller
