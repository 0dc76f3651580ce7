/-
An accepted receipt was claimed before. In memory an assignment is marked claimed by the claim itself,
after a restart by the replayed claims, which name a job and not a lease. `Marked` is the invariant
that makes both the same: a mark, stored or replayed at any later time, comes from a recorded
claim of the same lease, and what a replay restores without a mark is the assignment in memory.
-/
import Rampage.Controller.Once
import Rampage.Controller.Replayed

namespace Rampage.Controller

open Rampage.Protocol Rampage.Planner Rampage.Governor Rampage.Ledger

/-- The step records the claim it hands out, and admits no job whose stored assignment is still
authority. -/
def recordsClaims (w : World) (s : Host) (op : Op) : Bool :=
  ((op.undeduplicated s).all fun job =>
    !(s.assignments.lookup job.jobId).any fun a => isCurrent (w.clock s.reads) s.fencingEpoch a.lease) &&
    match op with
    | .claimWork nodeId =>
      s.killLatch || (s.nodes.lookup nodeId).isNone ||
        (pickAssignment (w.order s.reads) s.toAppState nodeId (w.clock s.reads)).isNone ||
        (w.appendFailure s.appends).isNone
    | _ => true

theorem recordsClaims_submits {w : World} {s : Host} {op : Op} (h : recordsClaims w s op = true) {job : JobSpecV1}
    (hj : job ∈ op.undeduplicated s) {a : Assignment} (ha : s.assignments.lookup job.jobId = some a) :
    isCurrent (w.clock s.reads) s.fencingEpoch a.lease = false := by
  unfold recordsClaims at h
  rw [Bool.and_eq_true, List.all_eq_true] at h
  have := h.1 job hj
  rw [ha] at this
  simpa using this

theorem recordsClaims_claims {w : World} {s : Host} {nodeId jobId : Uuid} {a : Assignment}
    (h : recordsClaims w s (.claimWork nodeId) = true) (hc : Claimable w s nodeId jobId a) :
    w.appendFailure s.appends = none := by
  have henrolled := hc.enrolled
  unfold recordsClaims at h
  rw [Bool.and_eq_true] at h
  have := h.2
  simp only [hc.running, hc.picked, Bool.false_or, Bool.or_eq_true, Option.isNone_iff_eq_none, reduceCtorEq,
    or_false] at this
  rcases this with this | this
  · rw [this] at henrolled
    cases henrolled
  · exact this

/-- The lease has a claim on record. -/
def HasClaim (l : List Event) (lease : CapabilityLeaseV1) : Prop := ∃ c, .jobClaimed c ∈ l ∧ c.lease = lease

theorem HasClaim.append {l : List Event} {lease : CapabilityLeaseV1} (h : HasClaim l lease) (es : List Event) :
    HasClaim (l ++ es) lease := by
  obtain ⟨c, hc, hl⟩ := h
  exact ⟨c, List.mem_append_left es hc, hl⟩

/-- Marks come from recorded claims, and memory and replay agree on the rest. -/
structure Marked (w : World) (s : Host) : Prop where
  epochs : ∀ x ∈ issued s.ledger, x.fencingEpoch ≤ s.fencingEpoch
  claimed : ∀ j a, s.assignments.lookup j = some a → a.claimed = true → HasClaim s.ledger a.lease
  replayed : ∀ u, w.clock s.reads ≤ u → ∀ j b,
    (replay u s.fencingEpoch s.ledger).assignments.lookup j = some b → b.claimed = true → HasClaim s.ledger b.lease
  unclaimed : ∀ u, w.clock s.reads ≤ u → ∀ j b,
    (replay u s.fencingEpoch s.ledger).assignments.lookup j = some b → b.claimed = false →
      ∃ a, s.assignments.lookup j = some a ∧ a.lease = b.lease
  stored : ∀ u, w.clock s.reads ≤ u → ∀ j a, s.assignments.lookup j = some a →
    isCurrent u s.fencingEpoch a.lease = true →
      ∃ b, (replay u s.fencingEpoch s.ledger).assignments.lookup j = some b ∧ b.lease = a.lease

section

variable {cfg : Config} {w : World}

theorem marked_initial (epoch : Nat) (head : String → Except String ArtifactRefV1) :
    Marked w (initial epoch head) := by
  have hempty : ∀ u j b, (replay u epoch []).assignments.lookup j ≠ some b := by
    intro u j b h
    rw [replay_nil] at h
    simp [Replay.empty] at h
  refine ⟨?_, ?_, ?_, ?_, ?_⟩
  · intro x hx
    cases hx
  · intro j a ha
    simp [initial] at ha
  · intro u _ j b hb
    exact absurd hb (hempty u j b)
  · intro u _ j b hb
    exact absurd hb (hempty u j b)
  · intro u _ j a ha
    simp [initial] at ha

/-- A step that takes the same assignments out of memory and out of every replay, chosen by job and
lease, and leaves the others. -/
theorem Marked.restrict {s t : Host} (es : List Event) (p : Uuid → CapabilityLeaseV1 → Bool) (hclock : Monotone w.clock)
    (h : Marked w s) (hl : t.ledger = s.ledger ++ es) (hi : issued es = []) (hr : s.reads ≤ t.reads)
    (he : t.fencingEpoch = s.fencingEpoch)
    (ha : ∀ j, t.assignments.lookup j = (s.assignments.lookup j).filter fun a => p j a.lease)
    (hreplay : ∀ u j, (replay u s.fencingEpoch t.ledger).assignments.lookup j =
      ((replay u s.fencingEpoch s.ledger).assignments.lookup j).filter fun b => p j b.lease) : Marked w t := by
  have hle : ∀ {u}, w.clock t.reads ≤ u → w.clock s.reads ≤ u := fun hu => (hclock hr).trans hu
  refine ⟨?_, ?_, ?_, ?_, ?_⟩
  · rw [hl, issued_append, hi, List.append_nil, he]
    exact h.epochs
  · intro j a hj hc
    rw [ha, Option.filter_eq_some_iff] at hj
    rw [hl]
    exact (h.claimed j a hj.1 hc).append es
  · intro u hu j b hb hc
    rw [he, hreplay, Option.filter_eq_some_iff] at hb
    rw [hl]
    exact (h.replayed u (hle hu) j b hb.1 hc).append es
  · intro u hu j b hb hc
    rw [he, hreplay, Option.filter_eq_some_iff] at hb
    obtain ⟨a, hj, hab⟩ := h.unclaimed u (hle hu) j b hb.1 hc
    refine ⟨a, ?_, hab⟩
    rw [ha, Option.filter_eq_some_iff, hab]
    exact ⟨hj, hb.2⟩
  · intro u hu j a hj hc
    rw [ha, Option.filter_eq_some_iff] at hj
    rw [he] at hc ⊢
    obtain ⟨b, hb, hba⟩ := h.stored u (hle hu) j a hj.1 hc
    refine ⟨b, ?_, hba⟩
    rw [hreplay, Option.filter_eq_some_iff, hba]
    exact ⟨hb, hj.2⟩

/-- A step that keeps the assignments and appends events that touch none. -/
theorem Marked.extend {s t : Host} {es : List Event} (hclock : Monotone w.clock) (h : Marked w s)
    (hl : t.ledger = s.ledger ++ es) (hes : ∀ e ∈ es, JobPassive e.kind) (hr : s.reads ≤ t.reads)
    (he : t.fencingEpoch = s.fencingEpoch) (ha : t.assignments = s.assignments) : Marked w t := by
  refine h.restrict es (fun _ _ => true) hclock hl ?_ hr he ?_ ?_
  · exact issued_of_neutral fun e he => neutral_of_jobPassive (hes e he)
  · intro j
    rw [ha]
    cases s.assignments.lookup j <;> rfl
  · intro u j
    rw [hl, (replay_append_jobPassive hes).assignments]
    cases (replay u s.fencingEpoch s.ledger).assignments.lookup j <;> rfl

/-- After the epoch moved on no issued lease is current any more. -/
theorem Marked.advance {s t : Host} (h : Marked w s) (hs : Authority s) (ht : Authority t)
    (hi : issued t.ledger = issued s.ledger) (hl : ∃ es, t.ledger = s.ledger ++ es)
    (ha : t.assignments = s.assignments) (he : s.fencingEpoch < t.fencingEpoch) : Marked w t := by
  obtain ⟨es, hes⟩ := hl
  have hold : ∀ x ∈ issued t.ledger, ∀ u, isCurrent u t.fencingEpoch x ≠ true := by
    intro x hx u hc
    rw [hi] at hx
    have := h.epochs x hx
    simp only [isCurrent, Bool.and_eq_true, beq_iff_eq] at hc
    omega
  have hempty : ∀ u j b, (replay u t.fencingEpoch t.ledger).assignments.lookup j ≠ some b := by
    intro u j b hb
    exact hold b.lease ((coherent_replay ht.sound).issued j b hb) u (replay_isCurrent t.ledger hb)
  refine ⟨?_, ?_, ?_, ?_, ?_⟩
  · intro x hx
    rw [hi] at hx
    have := h.epochs x hx
    omega
  · intro j a hj hc
    rw [ha] at hj
    rw [hes]
    exact (h.claimed j a hj hc).append es
  · intro u _ j b hb
    exact absurd hb (hempty u j b)
  · intro u _ j b hb
    exact absurd hb (hempty u j b)
  · intro u _ j a hj hc
    rw [ha] at hj
    refine absurd hc (hold a.lease ?_ u)
    rw [hi]
    exact hs.coherent.issued j a hj

/-- An admission that meets the condition. -/
theorem Marked.admit {s t : Host} {op : Op} {members : List (JobSpecV1 × CapabilityLeaseV1)}
    (hclock : Monotone w.clock) (h : Marked w s) (hadm : Admission w s t members)
    (hnamed : ∀ m ∈ members, m.1 ∈ op.undeduplicated s) (hcond : recordsClaims w s op = true) : Marked w t := by
  obtain ⟨es, hes, _⟩ := hadm.events
  have hle : ∀ {u}, w.clock t.reads ≤ u → w.clock s.reads ≤ u := fun hu => (hclock hadm.later.reads).trans hu
  have he : t.fencingEpoch = s.fencingEpoch := hadm.fencingEpoch
  refine ⟨?_, ?_, ?_, ?_, ?_⟩
  · intro x hx
    rw [hadm.issued] at hx
    rw [he]
    rcases List.mem_append.1 hx with hx | hx
    · exact h.epochs x hx
    · exact (hadm.minted.epoch x hx).le
  · intro j a ha hc
    rcases hadm.lookup_cases ha with ⟨m, _, _, rfl⟩ | ⟨_, ho⟩
    · cases hc
    · rw [hes]
      exact (h.claimed j a ho hc).append es
  · intro u hu j b hb hc
    rw [he] at hb
    rcases hadm.replayed_cases hb with ⟨m, _, _, _, rfl⟩ | ho
    · cases hc
    · rw [hes]
      exact (h.replayed u (hle hu) j b ho hc).append es
  · intro u hu j b hb hc
    rw [he] at hb
    rcases hadm.replayed_cases hb with ⟨m, hm, _, rfl, rfl⟩ | ho
    · exact ⟨_, hadm.lookup_of_mem hm, rfl⟩
    · obtain ⟨a, ha, hab⟩ := h.unclaimed u (hle hu) j b ho hc
      refine ⟨a, ?_, hab⟩
      rw [hadm.lookup_of_notMem, ha]
      -- a member with this job id would have been refused: its stored assignment is current
      intro hj
      obtain ⟨m, hm, rfl⟩ := List.mem_map.1 hj
      have hcur : isCurrent u s.fencingEpoch a.lease = true := by
        rw [hab]
        exact replay_isCurrent s.ledger ho
      have := recordsClaims_submits hcond (hnamed m hm) ha
      rw [isCurrent_of_le (hle hu) hcur] at this
      cases this
  · intro u hu j a ha hc
    rw [he] at hc ⊢
    rcases hadm.lookup_cases ha with ⟨m, hm, rfl, rfl⟩ | ⟨hj, ho⟩
    · exact ⟨_, hadm.replayed_of_mem hm hc, rfl⟩
    · obtain ⟨b, hb, hba⟩ := h.stored u (hle hu) j a ho hc
      refine ⟨b, ?_, hba⟩
      rw [hadm.replayed_of_notMem, hb]
      rintro m hm _ rfl
      exact hj (List.mem_map_of_mem hm)

/-- A replayed claim keeps every lease. -/
theorem lookup_replayClaim {k j : Uuid} {t : Table Uuid Assignment} {b : Assignment} (h : t.lookup j = some b) :
    ∃ b', (replayClaim k t).lookup j = some b' ∧ b'.lease = b.lease := by
  unfold replayClaim
  split
  · rename_i c hc
    rw [Table.lookup_insert']
    by_cases hj : j = k
    · subst hj
      rw [h, Option.some.injEq] at hc
      subst hc
      exact ⟨_, if_pos rfl, rfl⟩
    · rw [if_neg hj]
      exact ⟨b, h, rfl⟩
  · exact ⟨b, h, rfl⟩

/-- A claim that is handed out and recorded. -/
theorem Marked.claim {s t : Host} {nodeId jobId : Uuid} {a : Assignment} (hclock : Monotone w.clock) (h : Marked w s)
    (hs : Authority s) (claimable : Claimable w s nodeId jobId a)
    (result : t = markClaimed jobId a { s with
      ledger := s.ledger ++ [.jobClaimed (workClaim cfg a)]
      reads := s.reads + 1
      appends := s.appends + 1 }) : Marked w t := by
  have hjob : a.job.jobId = jobId := (hs.keyed _ _ claimable.stored).1
  have hl : t.ledger = s.ledger ++ [.jobClaimed (workClaim cfg a)] := by rw [result]; rfl
  have he : t.fencingEpoch = s.fencingEpoch := by rw [result]; rfl
  have hnew : HasClaim t.ledger a.lease := ⟨workClaim cfg a, by rw [hl]; simp, rfl⟩
  have hle : ∀ {u}, w.clock t.reads ≤ u → w.clock s.reads ≤ u := by
    intro u hu
    rw [result] at hu
    exact (hclock (Nat.le_succ s.reads)).trans hu
  -- a replay marks the assignment by its job id
  have hreplay : ∀ u, (replay u s.fencingEpoch t.ledger).assignments =
      replayClaim jobId (replay u s.fencingEpoch s.ledger).assignments := by
    intro u
    rw [hl, replay_snoc, ← hjob]
    rfl
  refine ⟨?_, ?_, ?_, ?_, ?_⟩
  · rw [hl, issued_append, he]
    intro x hx
    rcases List.mem_append.1 hx with hx | hx
    · exact h.epochs x hx
    · cases hx
  · intro j b hb hc
    rw [result] at hb
    rcases lookup_markClaimed hb with ⟨_, rfl⟩ | ⟨_, hb⟩
    · exact hnew
    · rw [hl]
      exact (h.claimed j b hb hc).append _
  · intro u hu j b hb hc
    rw [he, hreplay] at hb
    rcases lookup_of_replayClaim hb with ⟨_, hb⟩ | ⟨rfl, b', hb', rfl⟩
    · rw [hl]
      exact (h.replayed u (hle hu) j b hb hc).append _
    · -- the replay marks by job id: an unmarked assignment is the one in memory
      rcases hcl : b'.claimed with _ | _
      · obtain ⟨a', ha', hab⟩ := h.unclaimed u (hle hu) j b' hb' hcl
        rw [claimable.stored, Option.some.injEq] at ha'
        show HasClaim t.ledger b'.lease
        rw [← hab, ← ha']
        exact hnew
      · rw [hl]
        exact (h.replayed u (hle hu) j b' hb' hcl).append _
  · intro u hu j b hb hc
    rw [he, hreplay] at hb
    rcases lookup_of_replayClaim hb with ⟨hj, hb⟩ | ⟨_, b', _, rfl⟩
    · obtain ⟨a', ha', hab⟩ := h.unclaimed u (hle hu) j b hb hc
      refine ⟨a', ?_, hab⟩
      rw [result]
      show (s.assignments.insert jobId _).lookup j = some a'
      rw [Table.lookup_insert', if_neg hj, ha']
    · cases hc
  · intro u hu j b hb hc
    rw [he] at hc ⊢
    rw [hreplay]
    have hstored : ∃ a', s.assignments.lookup j = some a' ∧ a'.lease = b.lease := by
      rw [result] at hb
      rcases lookup_markClaimed hb with ⟨rfl, rfl⟩ | ⟨_, hb⟩
      · exact ⟨a, claimable.stored, rfl⟩
      · exact ⟨b, hb, rfl⟩
    obtain ⟨a', ha', hab⟩ := hstored
    obtain ⟨b', hb', hba⟩ := h.stored u (hle hu) j a' ha' (by rw [hab]; exact hc)
    obtain ⟨b'', hb'', hbb⟩ := lookup_replayClaim (k := jobId) hb'
    exact ⟨b'', hb'', hbb.trans (hba.trans hab)⟩

/-- A receipt whose record failed: its assignment is gone from memory and stays marked in a replay. -/
theorem Marked.lose {s t : Host} {receipt : ExecutionReceiptV1} {a : Assignment} (h : Marked w s) (hs : Authority s)
    (stored : s.assignments.lookup receipt.jobId = some a)
    (matching : receiptMatches a receipt s.fencingEpoch = true)
    (result : t = { settleJob receipt.jobId a.job.idempotencyKey s with appends := s.appends + 1 }) : Marked w t := by
  subst result
  have hclaimed : a.claimed = true := by
    simp only [receiptMatches, Bool.and_eq_true] at matching
    exact matching.1.1.1.2
  refine ⟨h.epochs, ?_, h.replayed, ?_, ?_⟩
  · intro j b hb hc
    exact h.claimed j b (lookup_of_erase hb).1 hc
  · intro u hu j b hb hc
    obtain ⟨a', ha', hab⟩ := h.unclaimed u hu j b hb hc
    refine ⟨a', ?_, hab⟩
    show AList.lookup j (s.assignments.erase receipt.jobId) = some a'
    rw [Table.lookup_erase', if_neg, ha']
    rintro rfl
    rw [stored, Option.some.injEq] at ha'
    subst ha'
    obtain ⟨c, hcl, hlease⟩ := h.claimed _ a stored hclaimed
    have := (coherent_replay hs.sound).claimed _ b hb c hcl (by rw [hlease, hab])
    rw [hc] at this
    cases this
  · intro u hu j b hb hc
    exact h.stored u hu j b (lookup_of_erase hb).1 hc

/-- A restart: memory becomes the replay at the current time. -/
theorem Marked.restart {s t : Host} (hclock : Monotone w.clock) (h : Marked w s) (result : t = (restart w s).2) :
    Marked w t := by
  subst result
  have hle : ∀ {u}, w.clock (s.reads + 1) ≤ u → w.clock s.reads ≤ u := fun hu => (hclock (Nat.le_succ _)).trans hu
  refine ⟨h.epochs, ?_, fun u hu => h.replayed u (hle hu), ?_, ?_⟩
  · intro j a ha hc
    exact h.replayed (w.clock s.reads) le_rfl j a ha hc
  · intro u hu j b hb hc
    obtain ⟨a, ha, hab⟩ := h.unclaimed u (hle hu) j b hb hc
    have hcur : isCurrent (w.clock s.reads) s.fencingEpoch a.lease = true := by
      rw [hab]
      exact isCurrent_of_le (hle hu) (replay_isCurrent s.ledger hb)
    obtain ⟨b', hb', hba⟩ := h.stored (w.clock s.reads) le_rfl j a ha hcur
    exact ⟨b', hb', hba.trans hab⟩
  · intro u hu j a ha hc
    exact ⟨a, replay_later (hle hu) s.ledger j a ha hc, rfl⟩

/-- A revoked node's assignments are gone from memory and from every replay. -/
theorem Marked.revoke {s t : Host} {nodeId : Uuid} {name key : String} (hclock : Monotone w.clock) (h : Marked w s)
    (quiet : Quiet Other (forgetNode nodeId { s with
      ledger := s.ledger ++ [.nodeRevoked nodeId name key]
      reads := s.reads + 1
      appends := s.appends + 1 }) t) : Marked w t := by
  obtain ⟨es, hes, hK⟩ := quiet.events
  have hl : t.ledger = s.ledger ++ [.nodeRevoked nodeId name key] ++ es := hes
  refine h.restrict (.nodeRevoked nodeId name key :: es) (fun _ l => l.nodeId != nodeId) hclock ?_ ?_ ?_ ?_ ?_ ?_
  · rw [hl, List.append_assoc]
    rfl
  · apply issued_of_neutral
    intro e he
    rcases List.mem_cons.1 he with rfl | he
    · simp [Neutral, Event.kind]
    · exact neutral_of_other (hK e he)
  · exact (Nat.le_succ _).trans quiet.later.reads
  · exact quiet.fencingEpoch
  · intro j
    rw [quiet.assignments]
    exact Table.lookup_retain _ _ _
  · intro u j
    rw [hl, (replay_append_jobPassive fun e he => jobPassive_of_other (hK e he)).assignments, replay_snoc]
    exact Table.lookup_retain _ _ _

/-- A receipted job's assignment is gone from memory and from every replay. -/
theorem Marked.receipt {s t : Host} {receipt : ExecutionReceiptV1} {a : Assignment} (hclock : Monotone w.clock)
    (h : Marked w s) (quiet : Quiet Recording (receipted a receipt s) t) : Marked w t := by
  obtain ⟨es, hes, hK⟩ := quiet.events
  have hl : t.ledger = s.ledger ++ [.jobReceipted receipt] ++ es := hes
  have herase : ∀ (x : Table Uuid Assignment) (j : Uuid), AList.lookup j (x.erase receipt.jobId) =
      (AList.lookup j x).filter fun _ => j != receipt.jobId := by
    intro x j
    rw [Table.lookup_erase']
    by_cases hj : j = receipt.jobId
    · rw [if_pos hj]
      cases AList.lookup j x <;> simp [Option.filter, hj]
    · rw [if_neg hj]
      cases AList.lookup j x <;> simp [Option.filter, hj]
  refine h.restrict (.jobReceipted receipt :: es) (fun j _ => j != receipt.jobId) hclock ?_ ?_ ?_ ?_ ?_ ?_
  · rw [hl, List.append_assoc]
    rfl
  · show issued ([.jobReceipted receipt] ++ es) = []
    rw [issued_append, issued_of_neutral fun e he => neutral_of_recording (hK e he)]
    rfl
  · exact quiet.later.reads
  · exact quiet.fencingEpoch
  · intro j
    rw [quiet.assignments]
    exact herase _ j
  · intro u j
    rw [hl, (replay_append_jobPassive fun e he => jobPassive_of_recording (hK e he)).assignments, replay_snoc]
    exact herase _ j

/-- Every step that meets the condition keeps the marks. -/
theorem Change.marked {s t : Host} {op : Op} {r : Reply} (hclock : Monotone w.clock) (hc : Change cfg w s t op r)
    (h : Marked w s) (hs : Authority s) (ht : Authority t) (hcond : recordsClaims w s op = true) : Marked w t := by
  cases hc with
  | idle frame =>
    obtain ⟨es, hes, hK⟩ := frame.events
    exact h.extend hclock hes hK frame.later.reads frame.fencingEpoch frame.assignments
  | halted halting =>
    obtain ⟨es, hes, hK⟩ := halting.events
    have hpassive : ∀ e ∈ es, JobPassive e.kind := fun e he => jobPassive_of_halting (hK e he)
    rcases halting.fencingEpoch.eq_or_lt with he | he
    · exact h.extend hclock hes hpassive halting.later.reads he.symm halting.assignments
    · refine h.advance hs ht ?_ ⟨es, hes⟩ halting.assignments he
      rw [hes, issued_append, issued_of_neutral fun e he => neutral_of_jobPassive (hpassive e he), List.append_nil]
  | admitted admission named => exact h.admit hclock admission named hcond
  | revoked quiet => exact h.revoke hclock quiet
  | claimed claimable _ result => exact h.claim hclock hs claimable result
  | claimLost claimable append _ => exact absurd (recordsClaims_claims hcond claimable) append
  | receipted _ _ _ quiet => exact h.receipt hclock quiet
  | receiptLost stored matching _ result => exact h.lose hs stored matching result
  | restarted result => exact h.restart hclock result

/-- Every receipt a run has accepted so far comes after the claim of its lease. -/
def ClaimedBefore (tr : List (Op × Reply)) : Prop :=
  ∀ pre receipt r post, tr = pre ++ (.submitReceipt receipt, r) :: post → r.isAccepted = true →
    ∃ c, (Op.claimWork c.lease.nodeId, Reply.claim (.ok (some c))) ∈ pre ∧ c.lease.leaseId = receipt.leaseId ∧
      c.lease.nodeId = receipt.nodeId

/-- A step that accepts a receipt comes after the claim of its lease. -/
theorem ClaimedBefore.step {tr : List (Op × Reply)} {s t : Host} {op : Op} {r : Reply} (h : ClaimedBefore tr)
    (hh : History tr s) (hm : Marked w s) (hc : Change cfg w s t op r) : ClaimedBefore (tr ++ [(op, r)]) := by
  intro pre receipt r' post heq hacc
  rcases List.eq_nil_or_concat post with rfl | ⟨post, last, rfl⟩
  · obtain ⟨rfl, hlast⟩ := List.append_inj' heq rfl
    simp only [List.cons.injEq, Prod.mk.injEq, and_true] at hlast
    obtain ⟨rfl, rfl⟩ := hlast
    rcases hc.recordedReceipts with ⟨_, hno⟩ | ⟨receipt', a, hop, stored, matching, _⟩
    · rw [hno] at hacc
      cases hacc
    · cases hop
      simp only [receiptMatches, Bool.and_eq_true, beq_iff_eq] at matching
      obtain ⟨c, hc, hlease⟩ := hm.claimed _ a stored matching.1.1.1.2
      have hin : c ∈ handedOut tr := by
        rw [← hh.claims]
        exact mem_recordedClaims.2 hc
      obtain ⟨e, he, hec⟩ := List.mem_filterMap.1 hin
      rw [hh.asked e he c hec] at he
      exact ⟨c, he, by rw [hlease, matching.1.1.1.1.1], by rw [hlease, matching.1.1.1.1.2]⟩
  · have hsnoc : tr ++ [(op, r)] = (pre ++ (Op.submitReceipt receipt, r') :: post) ++ [last] := by simpa using heq
    obtain ⟨htr, _⟩ := List.append_inj' hsnoc rfl
    exact h pre receipt r' post htr hacc

end

/-- In every run of the controller, restarts and failed appends included, whose leases have distinct ids:
no lease is handed out twice, and no two accepted receipts name one lease. If the clock does not
go back, every step records the claim it hands out and no job is admitted whose stored assignment is
still authority, then a receipt is accepted only after `claim_work` handed its lease out to the node it
names. -/
theorem lease_is_used_once (cfg : Config) (w : World) (epoch : Nat) (head : String → Except String ArtifactRefV1)
    (ops : List Op) (hids : (issuedIds ((machine cfg w).exec ops (initial epoch head)).ledger).Nodup) :
    ((handedOut ((machine cfg w).trace ops (initial epoch head))).map (·.lease.leaseId)).Nodup ∧
      ((accepted ((machine cfg w).trace ops (initial epoch head))).map (·.leaseId)).Nodup ∧
      (Monotone w.clock → (machine cfg w).Meets (fun s op => recordsClaims w s op = true) ops (initial epoch head) →
        ClaimedBefore ((machine cfg w).trace ops (initial epoch head))) := by
  have hh := @history_exec cfg w ops epoch head hids
  refine ⟨?_, ?_, ?_⟩
  · rw [← hh.claims]
    exact hh.claimedOnce
  · exact hh.receiptedOnce.sublist (hh.receipts.map _)
  · intro hclock hmeets
    have hinv := (machine cfg w).invariant (C := fun s op => recordsClaims w s op = true)
      (I := fun tr s => (issuedIds s.ledger).Nodup → History tr s ∧ Marked w s ∧ ClaimedBefore tr) ?_ ops []
      (initial epoch head) ?_ hmeets
    · exact (hinv hids).2.2
    · intro tr s op ih hcond hids
      have hc := @step_change cfg w op s
      obtain ⟨hh, hm, hb⟩ := ih (hc.issuedIds_nodup hids)
      have hh' := hh.step hc hids
      exact ⟨hh', hc.marked hclock hm hh.authority hh'.authority hcond, hb.step hh hm hc⟩
    · refine fun _ => ⟨history_initial epoch head, marked_initial epoch head, ?_⟩
      intro pre receipt r post h
      simp at h

/-! ## Two runs of the small fabric -/

section

open Scenario

/-- The job is submitted, claimed and receipted. -/
theorem lease_is_used_once_echo :
    let run := setup ++ [.submitJob (job 9 "k1"), .claimWork 77, .submitReceipt (receipt 2)]
    accepted ((machine config world).trace run start) = [receipt 2] ∧
      ClaimedBefore ((machine config world).trace run start) := by
  intro run
  refine ⟨by decide +kernel, ?_⟩
  exact (lease_is_used_once config world 0 _ run (by decide +kernel)).2.2 world_clock_monotone (by decide +kernel)

/-- The job is admitted twice, the second time with an earlier deadline; the second lease is claimed, and
has expired a minute later. -/
def readmitted : List Op :=
  setup ++ [.submitJob (job 9 "k1"), .submitJob { job 9 "k2" with deadline := seconds 50 }, .claimWork 77,
    .background elapsed]

/-- After a restart the claim of the second lease marks the first one, whose receipt is then accepted though
it was never handed out. -/
theorem unclaimed_lease_is_receipted :
    let run := readmitted ++ [.restart, .submitReceipt (receipt 2)]
    (issuedIds ((machine config world).exec run start).ledger).Nodup ∧
      (handedOut ((machine config world).trace run start)).map (·.lease.leaseId) = [3] ∧
      ¬ ClaimedBefore ((machine config world).trace run start) := by
  intro run
  have hrun : run = (readmitted ++ [.restart]) ++ [.submitReceipt (receipt 2)] := by simp [run]
  have hstate := (Machine.exec_append (machine config world) readmitted [.restart] start).trans
    (restart_eq_foldl world ((machine config world).exec readmitted start))
  have hclaims : (handedOut ((machine config world).trace (readmitted ++ [.restart]) start)).map (·.lease.leaseId) = [3] := by
    rw [Machine.trace_append, handedOut, List.filterMap_append, List.map_append]
    decide +kernel
  refine ⟨?_, ?_, ?_⟩
  · rw [hrun, Machine.exec_append, hstate]
    decide +kernel
  · rw [hrun, Machine.trace_append, handedOut, List.filterMap_append, List.map_append]
    exact congrArg (· ++ []) hclaims
  · intro h
    rw [hrun, Machine.trace_append] at h
    obtain ⟨c, hc, hid, _⟩ := h _ (receipt 2) _ [] rfl (by rw [hstate]; decide +kernel)
    have hin : c ∈ handedOut ((machine config world).trace (readmitted ++ [.restart]) start) :=
      List.mem_filterMap.2 ⟨_, hc, rfl⟩
    have := List.mem_map_of_mem (f := fun c : WorkClaimV1 => c.lease.leaseId) hin
    rw [hclaims, hid] at this
    revert this
    decide

end

end Rampage.Controller
