/-
Leases, claims and receipts across restarts. A ledger is `Sound` when no lease id is issued twice and
every claim and receipt names a lease issued before it. A table of assignments is `Coherent` with a
ledger when its leases were issued there, those with a recorded claim are marked claimed, and none
has a recorded receipt. Both the running controller and a replay of its ledger keep the
assignments coherent, with no assumption on which appends fail.
-/
import Rampage.Controller.Change

namespace Rampage.Controller

open Rampage.Protocol Rampage.Planner Rampage.Governor Rampage.Ledger

/-! ## Assignments are stored under their job -/

/-- Every assignment stands under its own job id, and so does its lease. -/
def Keyed (t : Table Uuid Assignment) : Prop := ∀ j a, t.lookup j = some a → a.job.jobId = j ∧ a.lease.jobId = j

theorem keyed_empty : Keyed ∅ := by
  intro j a h
  simp at h

/-- A table whose entries are old ones, old ones marked, or new ones that are keyed. -/
theorem Keyed.of_lookup {t t' : Table Uuid Assignment} (h : Keyed t)
    (hl : ∀ j a, t'.lookup j = some a → (∃ b, t.lookup j = some b ∧ a.job = b.job ∧ a.lease = b.lease) ∨
      (a.job.jobId = j ∧ a.lease.jobId = j)) : Keyed t' := by
  intro j a ha
  rcases hl j a ha with ⟨b, hb, hj, hls⟩ | hk
  · rw [hj, hls]
    exact h j b hb
  · exact hk

/-- Every entry of a retained table was there. -/
theorem lookup_of_retain {t : Table Uuid Assignment} {p : Uuid → Assignment → Bool} {j : Uuid} {a : Assignment}
    (h : (t.retain p).lookup j = some a) : t.lookup j = some a ∧ p j a = true := by
  rw [Table.lookup_retain, Option.filter_eq_some_iff] at h
  exact h

theorem lookup_of_erase {t : Table Uuid Assignment} {k j : Uuid} {a : Assignment}
    (h : AList.lookup j (t.erase k) = some a) : t.lookup j = some a ∧ j ≠ k := by
  rw [Table.lookup_erase'] at h
  by_cases hj : j = k
  · rw [if_pos hj] at h
    cases h
  · rw [if_neg hj] at h
    exact ⟨h, hj⟩

section Replay

variable {now : Int} {epoch : Nat}

/-- An entry after a lease was replayed is an old one, or the lease's own. -/
theorem lookup_of_replayLease {job : Option JobSpecV1} {lease : CapabilityLeaseV1} {t : Table Uuid Assignment}
    {j : Uuid} {a : Assignment} (h : (replayLease now epoch job lease t).lookup j = some a) :
    t.lookup j = some a ∨
      (j = lease.jobId ∧ isCurrent now epoch lease = true ∧ ∃ spec, job = some spec ∧ a = ⟨spec, lease, false⟩) := by
  unfold replayLease at h
  split at h
  · split at h
    · rename_i spec hc
      rw [Table.lookup_insert'] at h
      by_cases hj : j = lease.jobId
      · rw [if_pos hj, Option.some.injEq] at h
        exact Or.inr ⟨hj, hc, spec, rfl, h.symm⟩
      · rw [if_neg hj] at h
        exact Or.inl h
    · exact Or.inl h
  · exact Or.inl h

theorem shardOf_jobId {set : ShardSetV1} {jobId : Uuid} {job : JobSpecV1} (h : shardOf set jobId = some job) :
    job.jobId = jobId := by
  have hm := List.mem_filter.1 (List.mem_of_getLast? h)
  simpa using hm.2

/-- An entry after the leases of a set were replayed is an old one, or belongs to one of them. -/
theorem lookup_of_replayLeases {set : ShardSetV1} : ∀ {leases : List CapabilityLeaseV1} {t : Table Uuid Assignment}
    {j : Uuid} {a : Assignment}, (replayLeases now epoch set leases t).lookup j = some a →
    t.lookup j = some a ∨ (∃ lease ∈ leases, isCurrent now epoch lease = true ∧ j = lease.jobId ∧ a.lease = lease ∧
      a.claimed = false ∧ a.job.jobId = j)
  | [], _, _, _, h => Or.inl h
  | lease :: leases, t, j, a, h => by
    rw [replayLeases] at h
    rcases lookup_of_replayLeases h with h | ⟨l, hl, hrest⟩
    · rcases lookup_of_replayLease h with h | ⟨hj, hc, spec, hs, rfl⟩
      · exact Or.inl h
      · exact Or.inr ⟨lease, List.mem_cons_self .., hc, hj, rfl, rfl, by rw [hj]; exact shardOf_jobId hs⟩
    · exact Or.inr ⟨l, List.mem_cons_of_mem _ hl, hrest⟩

theorem lookup_of_replayClaim {k j : Uuid} {t : Table Uuid Assignment} {a : Assignment}
    (h : (replayClaim k t).lookup j = some a) :
    (j ≠ k ∧ t.lookup j = some a) ∨ (j = k ∧ ∃ b, t.lookup j = some b ∧ a = { b with claimed := true }) := by
  unfold replayClaim at h
  split at h
  · rename_i b hb
    rw [Table.lookup_insert'] at h
    by_cases hj : j = k
    · rw [if_pos hj, Option.some.injEq] at h
      exact Or.inr ⟨hj, b, by rw [hj]; exact hb, h.symm⟩
    · rw [if_neg hj] at h
      exact Or.inl ⟨hj, h⟩
  · rename_i hb
    refine Or.inl ⟨?_, h⟩
    rintro rfl
    rw [hb] at h
    cases h

/-- What the replay knows about jobs is stored under their ids. -/
structure ReplayKeyed (r : Replay) : Prop where
  proposed : ∀ j job, r.proposedJobs.lookup j = some job → job.jobId = j
  assignments : Keyed r.assignments

theorem ReplayKeyed.step {r : Replay} (h : ReplayKeyed r) (e : Event) : ReplayKeyed (replayEvent now epoch r e) := by
  cases e with
  | nodeRevoked nodeId name key =>
    refine ⟨h.proposed, h.assignments.of_lookup fun j a ha => ?_⟩
    exact Or.inl ⟨a, (lookup_of_retain ha).1, rfl, rfl⟩
  | inviteCreated inviteId expiresAt secretHash =>
    unfold replayEvent
    dsimp only
    split
    · exact ⟨h.proposed, h.assignments⟩
    · exact h
  | jobProposed job =>
    refine ⟨?_, h.assignments⟩
    intro j spec hj
    rw [show (replayEvent now epoch r (.jobProposed job)).proposedJobs = r.proposedJobs.insert job.jobId job from rfl,
      Table.lookup_insert'] at hj
    by_cases hk : j = job.jobId
    · rw [if_pos hk, Option.some.injEq] at hj
      rw [← hj, hk]
    · rw [if_neg hk] at hj
      exact h.proposed j spec hj
  | leaseIssued lease placement =>
    refine ⟨h.proposed, h.assignments.of_lookup fun j a ha => ?_⟩
    rcases lookup_of_replayLease ha with ha | ⟨hj, _, spec, hs, rfl⟩
    · exact Or.inl ⟨a, ha, rfl, rfl⟩
    · exact Or.inr ⟨by rw [hj]; exact h.proposed _ _ hs, hj.symm⟩
  | shardSetAdmitted set leases placements =>
    refine ⟨h.proposed, h.assignments.of_lookup fun j a ha => ?_⟩
    rcases lookup_of_replayLeases ha with ha | ⟨lease, _, _, hj, hl, _, hjob⟩
    · exact Or.inl ⟨a, ha, rfl, rfl⟩
    · exact Or.inr ⟨hjob, by rw [hl, hj]⟩
  | jobClaimed claim =>
    refine ⟨h.proposed, h.assignments.of_lookup fun j a ha => ?_⟩
    rcases lookup_of_replayClaim ha with ⟨_, ha⟩ | ⟨_, b, hb, rfl⟩
    · exact Or.inl ⟨a, ha, rfl, rfl⟩
    · exact Or.inl ⟨b, hb, rfl, rfl⟩
  | jobReceipted receipt =>
    refine ⟨h.proposed, h.assignments.of_lookup fun j a ha => ?_⟩
    exact Or.inl ⟨a, (lookup_of_erase ha).1, rfl, rfl⟩
  | _ => exact ⟨h.proposed, h.assignments⟩

theorem replay_keyed (l : List Event) : ReplayKeyed (replay now epoch l) := by
  rw [replay_eq_foldl]
  have hfold : ∀ (l : List Event) (r : Replay), ReplayKeyed r → ReplayKeyed (l.foldl (replayEvent now epoch) r) := by
    intro l
    induction l with
    | nil => exact fun r h => h
    | cons e l ih => exact fun r h => ih _ (h.step e)
  refine hfold l _ ⟨?_, keyed_empty⟩
  intro j job h
  simp [Replay.empty] at h

/-- Every replayed assignment has a current lease. -/
theorem replay_isCurrent : ∀ (l : List Event) {j : Uuid} {a : Assignment},
    (replay now epoch l).assignments.lookup j = some a → isCurrent now epoch a.lease = true := by
  intro l
  induction l using List.reverseRecOn with
  | nil =>
    intro j a h
    rw [replay_nil] at h
    simp [Replay.empty] at h
  | append_singleton l e ih =>
    intro j a h
    rw [replay_snoc] at h
    cases e with
    | nodeRevoked => exact ih (lookup_of_retain h).1
    | inviteCreated =>
      unfold replayEvent at h
      dsimp only at h
      split at h
      · exact ih h
      · exact ih h
    | leaseIssued =>
      rcases lookup_of_replayLease h with h | ⟨_, hc, _, _, rfl⟩
      · exact ih h
      · exact hc
    | shardSetAdmitted =>
      rcases lookup_of_replayLeases h with h | ⟨lease, _, hc, _, hl, _, _⟩
      · exact ih h
      · rw [hl]
        exact hc
    | jobClaimed =>
      rcases lookup_of_replayClaim h with ⟨_, h⟩ | ⟨_, b, hb, rfl⟩
      · exact ih h
      · have hc := ih hb
        exact hc
    | jobReceipted => exact ih (lookup_of_erase h).1
    | _ => exact ih h

end Replay

/-! ## Sound ledgers -/

/-- The ids of the leases a ledger issues. -/
def issuedIds (l : List Event) : List Uuid := (issued l).map (·.leaseId)

theorem issuedIds_append (l l' : List Event) : issuedIds (l ++ l') = issuedIds l ++ issuedIds l' := by
  simp [issuedIds]

/-- An event may follow a ledger: its leases are new, a claim names an issued lease of its job, and a
receipt the id of one. -/
structure EventSound (l : List Event) (e : Event) : Prop where
  distinct : ((issuedBy e).map (·.leaseId)).Nodup
  fresh : ∀ x ∈ issuedBy e, x.leaseId ∉ issuedIds l
  claim : ∀ c, e = .jobClaimed c → c.lease ∈ issued l ∧ c.job.jobId = c.lease.jobId
  receipt : ∀ r, e = .jobReceipted r → ∃ x ∈ issued l, x.leaseId = r.leaseId ∧ x.jobId = r.jobId

/-- Every event is sound after those before it. -/
inductive Sound : List Event → Prop
  | nil : Sound []
  | snoc {l : List Event} {e : Event} (h : Sound l) (he : EventSound l e) : Sound (l ++ [e])

theorem Sound.nodup {l : List Event} (h : Sound l) : (issuedIds l).Nodup := by
  induction h with
  | nil => exact List.nodup_nil
  | @snoc l e _ he ih =>
    rw [issuedIds_append, List.nodup_append]
    have hone : issuedIds [e] = (issuedBy e).map (·.leaseId) := by simp [issuedIds, issued]
    refine ⟨ih, by rw [hone]; exact he.distinct, ?_⟩
    intro i hi k hk hik
    rw [hone] at hk
    obtain ⟨x, hx, rfl⟩ := List.mem_map.1 hk
    exact he.fresh x hx (hik ▸ hi)

theorem mem_issued_append {l l' : List Event} {x : CapabilityLeaseV1} (h : x ∈ issued l) : x ∈ issued (l ++ l') := by
  rw [issued_append]
  exact List.mem_append_left _ h

theorem Sound.claim {l : List Event} (h : Sound l) {c : WorkClaimV1} (hc : .jobClaimed c ∈ l) :
    c.lease ∈ issued l ∧ c.job.jobId = c.lease.jobId := by
  induction h with
  | nil => cases hc
  | @snoc l e _ he ih =>
    rcases List.mem_append.1 hc with hc | hc
    · exact ⟨mem_issued_append (ih hc).1, (ih hc).2⟩
    · rw [List.mem_singleton] at hc
      obtain ⟨h1, h2⟩ := he.claim c hc.symm
      exact ⟨mem_issued_append h1, h2⟩

theorem Sound.receipt {l : List Event} (h : Sound l) {r : ExecutionReceiptV1} (hr : .jobReceipted r ∈ l) :
    ∃ x ∈ issued l, x.leaseId = r.leaseId ∧ x.jobId = r.jobId := by
  induction h with
  | nil => cases hr
  | @snoc l e _ he ih =>
    rcases List.mem_append.1 hr with hr | hr
    · obtain ⟨x, hx, hx'⟩ := ih hr
      exact ⟨x, mem_issued_append hx, hx'⟩
    · rw [List.mem_singleton] at hr
      obtain ⟨x, hx, hx'⟩ := he.receipt r hr.symm
      exact ⟨x, mem_issued_append hx, hx'⟩

/-- In a sound ledger a lease is known by its id. -/
theorem Sound.eq_of_leaseId {l : List Event} (h : Sound l) {x y : CapabilityLeaseV1} (hx : x ∈ issued l)
    (hy : y ∈ issued l) (he : x.leaseId = y.leaseId) : x = y :=
  List.inj_on_of_nodup_map h.nodup hx hy he

/-- Events that claim and receipt nothing keep a ledger sound as long as their leases are new. -/
theorem Sound.append {l : List Event} (h : Sound l) : ∀ {es : List Event}, (issuedIds es).Nodup →
    (∀ i ∈ issuedIds es, i ∉ issuedIds l) → (∀ e ∈ es, e.kind ≠ .jobClaimed ∧ e.kind ≠ .jobReceipted) →
    Sound (l ++ es) := by
  intro es
  induction es using List.reverseRecOn with
  | nil => exact fun _ _ _ => by rw [List.append_nil]; exact h
  | append_singleton es e ih =>
    intro hn hd hk
    have hone : issuedIds [e] = (issuedBy e).map (·.leaseId) := by simp [issuedIds, issued]
    rw [issuedIds_append, List.nodup_append] at hn
    obtain ⟨hn1, hn2, hn3⟩ := hn
    have hpre : Sound (l ++ es) := by
      refine ih hn1 ?_ fun e' he' => hk e' (List.mem_append_left _ he')
      intro i hi
      refine hd i ?_
      rw [issuedIds_append]
      exact List.mem_append_left _ hi
    obtain ⟨hc, hr⟩ := hk e (List.mem_append_right _ (List.mem_singleton_self e))
    rw [← List.append_assoc]
    refine hpre.snoc ⟨by rw [← hone]; exact hn2, ?_, ?_, ?_⟩
    · intro x hx hm
      have hxi : x.leaseId ∈ issuedIds [e] := by
        rw [hone]
        exact List.mem_map_of_mem hx
      rw [issuedIds_append] at hm
      rcases List.mem_append.1 hm with hm | hm
      · refine hd x.leaseId ?_ hm
        rw [issuedIds_append]
        exact List.mem_append_right _ hxi
      · exact hn3 _ hm _ hxi rfl
    · rintro c rfl
      exact absurd rfl hc
    · rintro r rfl
      exact absurd rfl hr

/-! ## Coherent assignments -/

/-- The assignments agree with the ledger on which leases exist, were claimed and were receipted. -/
structure Coherent (l : List Event) (t : Table Uuid Assignment) : Prop where
  issued : ∀ j a, t.lookup j = some a → a.lease ∈ issued l
  claimed : ∀ j a, t.lookup j = some a → ∀ c, .jobClaimed c ∈ l → c.lease.leaseId = a.lease.leaseId → a.claimed = true
  unreceipted : ∀ j a, t.lookup j = some a → ∀ r, .jobReceipted r ∈ l → r.leaseId ≠ a.lease.leaseId

theorem coherent_empty (l : List Event) : Coherent l ∅ :=
  ⟨fun j a h => by simp at h, fun j a h => by simp at h, fun j a h => by simp at h⟩

/-- New events and entries keep coherence: the events claim and receipt nothing, and every entry is an
old one or holds a lease issued by the new events. -/
theorem Coherent.extend {l es : List Event} {t t' : Table Uuid Assignment} (hs : Sound l) (h : Coherent l t)
    (hk : ∀ e ∈ es, e.kind ≠ .jobClaimed ∧ e.kind ≠ .jobReceipted)
    (hl : ∀ j a, t'.lookup j = some a → (∃ b, t.lookup j = some b ∧ b.lease = a.lease ∧ (b.claimed = true →
      a.claimed = true)) ∨ (a.lease ∈ Controller.issued (l ++ es) ∧ a.lease.leaseId ∉ issuedIds l)) :
    Coherent (l ++ es) t' := by
  -- the claims and the receipts are the old ones
  have hclaim : ∀ c, Event.jobClaimed c ∈ l ++ es → .jobClaimed c ∈ l := by
    intro c hc
    rcases List.mem_append.1 hc with hc | hc
    · exact hc
    · exact absurd rfl (hk _ hc).1
  have hreceipt : ∀ r, Event.jobReceipted r ∈ l ++ es → .jobReceipted r ∈ l := by
    intro r hr
    rcases List.mem_append.1 hr with hr | hr
    · exact hr
    · exact absurd rfl (hk _ hr).2
  refine ⟨?_, ?_, ?_⟩
  · intro j a ha
    rcases hl j a ha with ⟨b, hb, hba, _⟩ | ⟨hi, _⟩
    · rw [← hba]
      exact mem_issued_append (h.issued j b hb)
    · exact hi
  · intro j a ha c hc hid
    -- no old claim names a lease issued just now
    rcases hl j a ha with ⟨b, hb, hba, hcl⟩ | ⟨_, hnew⟩
    · exact hcl (h.claimed j b hb c (hclaim c hc) (by rw [hba]; exact hid))
    · refine absurd ?_ hnew
      rw [← hid]
      exact List.mem_map_of_mem (hs.claim (hclaim c hc)).1
  · intro j a ha r hr
    rcases hl j a ha with ⟨b, hb, hba, _⟩ | ⟨_, hnew⟩
    · rw [← hba]
      exact h.unreceipted j b hb r (hreceipt r hr)
    · intro hid
      obtain ⟨x, hx, hxid, _⟩ := hs.receipt (hreceipt r hr)
      refine hnew ?_
      rw [← hid, ← hxid]
      exact List.mem_map_of_mem hx

/-- A recorded claim that marks its own job's assignment. -/
theorem Coherent.claim {l : List Event} {t t' : Table Uuid Assignment} {c : WorkClaimV1} (hs : Sound l)
    (hk : Keyed t) (h : Coherent l t) (hc : c.lease ∈ Controller.issued l ∧ c.job.jobId = c.lease.jobId)
    (hl : ∀ j a, t'.lookup j = some a → ∃ b, t.lookup j = some b ∧ b.lease = a.lease ∧
      ((j = c.job.jobId ∧ a.claimed = true) ∨ (j ≠ c.job.jobId ∧ a.claimed = b.claimed))) :
    Coherent (l ++ [.jobClaimed c]) t' := by
  refine ⟨?_, ?_, ?_⟩
  · intro j a ha
    obtain ⟨b, hb, hba, _⟩ := hl j a ha
    rw [← hba]
    exact mem_issued_append (h.issued j b hb)
  · intro j a ha c' hc' hid
    obtain ⟨b, hb, hba, ⟨_, hcl⟩ | ⟨hj, hcl⟩⟩ := hl j a ha
    · exact hcl
    · rw [hcl]
      rcases List.mem_append.1 hc' with hc' | hc'
      · exact h.claimed j b hb c' hc' (by rw [hba]; exact hid)
      · -- the new claim is of another job, so of another lease
        rw [List.mem_singleton, Event.jobClaimed.injEq] at hc'
        subst hc'
        have heq : c'.lease = b.lease := hs.eq_of_leaseId hc.1 (h.issued j b hb) (by rw [hba]; exact hid)
        refine absurd ?_ hj
        rw [hc.2, heq]
        exact (hk j b hb).2.symm
  · intro j a ha r hr
    obtain ⟨b, hb, hba, _⟩ := hl j a ha
    rcases List.mem_append.1 hr with hr | hr
    · rw [← hba]
      exact h.unreceipted j b hb r hr
    · rw [List.mem_singleton] at hr
      cases hr

/-- A recorded receipt whose job's assignment is taken out. -/
theorem Coherent.receipt {l : List Event} {t t' : Table Uuid Assignment} {r : ExecutionReceiptV1} (hs : Sound l)
    (hk : Keyed t) (h : Coherent l t)
    (hr : ∃ x ∈ Controller.issued l, x.leaseId = r.leaseId ∧ x.jobId = r.jobId)
    (hl : ∀ j a, t'.lookup j = some a → t.lookup j = some a ∧ j ≠ r.jobId) :
    Coherent (l ++ [.jobReceipted r]) t' := by
  refine ⟨?_, ?_, ?_⟩
  · intro j a ha
    exact mem_issued_append (h.issued j a (hl j a ha).1)
  · intro j a ha c hc hid
    rcases List.mem_append.1 hc with hc | hc
    · exact h.claimed j a (hl j a ha).1 c hc hid
    · rw [List.mem_singleton] at hc
      cases hc
  · intro j a ha r' hr' hid
    obtain ⟨hst, hj⟩ := hl j a ha
    rcases List.mem_append.1 hr' with hr' | hr'
    · exact h.unreceipted j a hst r' hr' hid
    · rw [List.mem_singleton, Event.jobReceipted.injEq] at hr'
      subst hr'
      obtain ⟨x, hx, hxid, hxjob⟩ := hr
      have heq : x = a.lease := hs.eq_of_leaseId hx (h.issued j a hst) (by rw [hxid, hid])
      refine hj ?_
      rw [← hxjob, heq]
      exact (hk j a hst).2.symm

/-- A replay of a sound ledger is coherent with it, whatever the clock and the epoch. -/
theorem coherent_replay {now : Int} {epoch : Nat} {l : List Event} (h : Sound l) :
    Coherent l (replay now epoch l).assignments := by
  induction h with
  | nil =>
    rw [replay_nil]
    exact coherent_empty []
  | @snoc l e hl he ih =>
    rw [replay_snoc]
    have hkeyed : Keyed (replay now epoch l).assignments := (replay_keyed l).assignments
    -- only two kinds of event bring a lease in, and both bring one that was not issued before
    cases e with
    | nodeRevoked nodeId name key =>
      refine ih.extend hl (by simp [Event.kind]) fun j a ha => Or.inl ⟨a, (lookup_of_retain ha).1, rfl, id⟩
    | inviteCreated inviteId expiresAt secretHash =>
      unfold replayEvent
      dsimp only
      split
      · exact ih.extend hl (by simp [Event.kind]) fun j a ha => Or.inl ⟨a, ha, rfl, id⟩
      · exact ih.extend hl (by simp [Event.kind]) fun j a ha => Or.inl ⟨a, ha, rfl, id⟩
    | leaseIssued lease placement =>
      refine ih.extend hl (by simp [Event.kind]) fun j a ha => ?_
      rcases lookup_of_replayLease ha with ha | ⟨_, _, spec, _, rfl⟩
      · exact Or.inl ⟨a, ha, rfl, id⟩
      · refine Or.inr ⟨?_, he.fresh lease (List.mem_singleton_self _)⟩
        rw [issued_append]
        exact List.mem_append_right _ (List.mem_singleton_self _)
    | shardSetAdmitted set leases placements =>
      refine ih.extend hl (by simp [Event.kind]) fun j a ha => ?_
      rcases lookup_of_replayLeases ha with ha | ⟨lease, hm, _, _, hlease, _, _⟩
      · exact Or.inl ⟨a, ha, rfl, id⟩
      · rw [hlease]
        refine Or.inr ⟨?_, he.fresh lease hm⟩
        rw [issued_append]
        refine List.mem_append_right _ ?_
        simpa [Controller.issued, issuedBy] using hm
    | jobClaimed claim =>
      refine ih.claim hl hkeyed (he.claim claim rfl) fun j a ha => ?_
      rcases lookup_of_replayClaim ha with ⟨hj, ha⟩ | ⟨hj, b, hb, rfl⟩
      · exact ⟨a, ha, rfl, Or.inr ⟨hj, rfl⟩⟩
      · exact ⟨b, hb, rfl, Or.inl ⟨hj, rfl⟩⟩
    | jobReceipted receipt =>
      exact ih.receipt hl hkeyed (he.receipt receipt rfl) fun j a ha => lookup_of_erase ha
    | artifactHeld held artifact nodeId =>
      refine ih.extend hl ?_ fun j a ha => Or.inl ⟨a, ha, rfl, id⟩
      cases held <;> simp [Event.kind, HeldKind.kind]
    | _ => exact ih.extend hl (by simp [Event.kind]) fun j a ha => Or.inl ⟨a, ha, rfl, id⟩

/-! ## The running controller -/

section Run

variable {cfg : Config} {w : World}

/-- The lease of an admitted member is for its job. -/
theorem Admission.member_jobId {s t : Host} {members : List (JobSpecV1 × CapabilityLeaseV1)}
    (h : Admission w s t members) : ∀ m ∈ members, m.2.jobId = m.1.jobId := by
  have hj := h.minted.jobs
  rw [List.map_map, List.map_map] at hj
  exact List.map_inj_left.1 hj

/-- An assignment after an admission is a member's, or an old one of a job that is no member. -/
theorem Admission.lookup_cases {s t : Host} {members : List (JobSpecV1 × CapabilityLeaseV1)}
    (h : Admission w s t members) {j : Uuid} {a : Assignment} (ha : t.assignments.lookup j = some a) :
    (∃ m ∈ members, j = m.1.jobId ∧ a = ⟨m.1, m.2, false⟩) ∨
      (j ∉ members.map (·.1.jobId) ∧ s.assignments.lookup j = some a) := by
  rw [h.assignments] at ha
  have hkeys : (members.map memberEntry).map (·.1) = members.map (·.1.jobId) := by
    rw [List.map_map]
    rfl
  rcases Table.lookup_insertAll_cases ha with hm | ⟨hn, ho⟩
  · obtain ⟨m, hm, he⟩ := List.mem_map.1 hm
    simp only [memberEntry, Prod.mk.injEq] at he
    exact Or.inl ⟨m, hm, he.1.symm, he.2.symm⟩
  · rw [hkeys] at hn
    exact Or.inr ⟨hn, ho⟩

theorem lookup_markClaimed {jobId j : Uuid} {a b : Assignment} {s : Host}
    (h : (markClaimed jobId a s).assignments.lookup j = some b) :
    (j = jobId ∧ b = { a with claimed := true }) ∨ (j ≠ jobId ∧ s.assignments.lookup j = some b) := by
  unfold markClaimed at h
  rw [Table.lookup_insert'] at h
  by_cases hj : j = jobId
  · rw [if_pos hj, Option.some.injEq] at h
    exact Or.inl ⟨hj, h.symm⟩
  · rw [if_neg hj] at h
    exact Or.inr ⟨hj, h⟩

theorem Change.keyed {s t : Host} {op : Op} {r : Reply} (h : Change cfg w s t op r) (hk : Keyed s.assignments) :
    Keyed t.assignments := by
  cases h with
  | idle frame => rw [frame.assignments]; exact hk
  | halted halting => rw [halting.assignments]; exact hk
  | admitted admission =>
    intro j a ha
    rcases admission.lookup_cases ha with ⟨m, hm, rfl, rfl⟩ | ⟨_, ho⟩
    · exact ⟨rfl, admission.member_jobId m hm⟩
    · exact hk j a ho
  | revoked quiet =>
    rw [quiet.assignments]
    exact hk.of_lookup fun j a ha => Or.inl ⟨a, (lookup_of_retain ha).1, rfl, rfl⟩
  | claimed claimable _ result =>
    rw [result]
    refine hk.of_lookup fun j b hb => Or.inl ?_
    rcases lookup_markClaimed hb with ⟨rfl, rfl⟩ | ⟨_, hb⟩
    · exact ⟨_, claimable.stored, rfl, rfl⟩
    · exact ⟨b, hb, rfl, rfl⟩
  | claimLost claimable _ result =>
    rw [result]
    refine hk.of_lookup fun j b hb => Or.inl ?_
    rcases lookup_markClaimed hb with ⟨rfl, rfl⟩ | ⟨_, hb⟩
    · exact ⟨_, claimable.stored, rfl, rfl⟩
    · exact ⟨b, hb, rfl, rfl⟩
  | receipted _ _ _ quiet =>
    rw [quiet.assignments]
    exact hk.of_lookup fun j a ha => Or.inl ⟨a, (lookup_of_erase ha).1, rfl, rfl⟩
  | receiptLost _ _ _ result =>
    rw [result]
    exact hk.of_lookup fun j a ha => Or.inl ⟨a, (lookup_of_erase ha).1, rfl, rfl⟩
  | restarted h =>
    rw [h]
    exact (replay_keyed s.ledger).assignments

/-- A claim that is handed out is of a stored assignment, unclaimed before and claimed after, for the node that
asked; its lease is current and the claim is on record. -/
theorem Change.claim_spec {s t : Host} {op : Op} {r : Reply} {c : WorkClaimV1} (h : Change cfg w s t op r)
    (hk : Keyed s.assignments) (hc : r.claimed = some c) :
    op = .claimWork c.lease.nodeId ∧ c.lease.fencingEpoch = s.fencingEpoch ∧ t.fencingEpoch = s.fencingEpoch ∧
      s.assignments.lookup c.job.jobId = some ⟨c.job, c.lease, false⟩ ∧
      t.assignments.lookup c.job.jobId = some ⟨c.job, c.lease, true⟩ ∧
      t.ledger = s.ledger ++ [.jobClaimed c] := by
  cases h with
  | @claimed nodeId jobId a claimable _ result =>
    have hca : workClaim cfg a = c := by simpa [Reply.claimed] using hc
    subst hca
    have hj : a.job.jobId = jobId := (hk jobId a claimable.stored).1
    have ha : a = ⟨a.job, a.lease, false⟩ := by
      have := claimable.unclaimed
      cases a
      simp_all
    refine ⟨?_, claimable.epoch, by rw [result]; rfl, ?_, ?_, by rw [result]; rfl⟩
    · show Op.claimWork nodeId = .claimWork a.lease.nodeId
      rw [claimable.node]
    · show s.assignments.lookup a.job.jobId = some ⟨a.job, a.lease, false⟩
      rw [hj, claimable.stored, ← ha]
    · rw [result]
      show (s.assignments.insert jobId { a with claimed := true }).lookup a.job.jobId = some ⟨a.job, a.lease, true⟩
      rw [hj, AList.lookup_insert]
  | idle _ claimed => rw [claimed] at hc; cases hc
  | halted _ claimed => rw [claimed] at hc; cases hc
  | admitted _ _ claimed => rw [claimed] at hc; cases hc
  | revoked _ claimed => rw [claimed] at hc; cases hc
  | claimLost _ _ _ claimed => rw [claimed] at hc; cases hc
  | receipted _ _ _ _ claimed => rw [claimed] at hc; cases hc
  | receiptLost _ _ _ _ claimed => rw [claimed] at hc; cases hc
  | restarted => cases hc

theorem keyed_exec (ops : List Op) {s : Host} (h : Keyed s.assignments) :
    Keyed ((machine cfg w).exec ops s).assignments :=
  (machine cfg w).state_invariant (C := fun _ _ => True) (I := fun s => Keyed s.assignments)
    (fun s op hs _ => (step_change op s).keyed hs) ops h ((machine cfg w).meets_of_forall (fun _ _ => trivial) ops s)

end Run

end Rampage.Controller
