/-
The state in memory against the state `restore_state` rebuilds. `JobsMirrored` relates assignments,
keys, reservations, receipts and shard sets to the replays at every later time; together with
`DevicesMirrored` it is kept by every request that meets the condition, and it gives that a
restored state is the one in memory without what has expired (`live_state_is_restored`).
-/
import Rampage.Controller.Devices
import Rampage.Controller.Scenario

namespace Rampage.Controller

open Rampage.Protocol Rampage.Planner Rampage.Governor Rampage.Ledger

/-- A request admits no job whose stored assignment has not expired, and none that is bound to another
idempotency key. -/
def admitsFresh (w : World) (s : Host) (op : Op) : Bool :=
  (op.undeduplicated s).all fun job =>
    ((s.assignments.lookup job.jobId).all fun a => decide (a.lease.expiresAt ≤ w.clock s.reads)) &&
      s.idempotency.entries.all fun e => e.2 != job.jobId || e.1 == job.idempotencyKey

theorem admitsFresh_expired {w : World} {s : Host} {op : Op} (h : admitsFresh w s op = true) {job : JobSpecV1}
    (hj : job ∈ op.undeduplicated s) {a : Assignment} (ha : s.assignments.lookup job.jobId = some a) :
    a.lease.expiresAt ≤ w.clock s.reads := by
  unfold admitsFresh at h
  rw [List.all_eq_true] at h
  have := h job hj
  rw [ha, Bool.and_eq_true] at this
  simpa using this.1

theorem admitsFresh_key {w : World} {s : Host} {op : Op} (h : admitsFresh w s op = true) {job : JobSpecV1}
    (hj : job ∈ op.undeduplicated s) {k : String} (hk : s.idempotency.lookup k = some job.jobId) :
    k = job.idempotencyKey := by
  unfold admitsFresh at h
  rw [List.all_eq_true] at h
  have := h job hj
  rw [Bool.and_eq_true, List.all_eq_true] at this
  simpa using this.2 _ ((Table.mem_lookup _ _ _).1 hk)

/-- The reservations of an assignment. -/
def Assignment.reservations (a : Assignment) : List ResourceReservation :=
  reservationsOf a.job a.lease.nodeId a.lease.expiresAt

theorem Assignment.mem_reservations {a : Assignment} {r : ResourceReservation} (h : r ∈ a.reservations) :
    r.jobId = a.job.jobId ∧ r.nodeId = a.lease.nodeId ∧ r.expiresAt = a.lease.expiresAt := by
  obtain ⟨request, _, rfl⟩ := List.mem_map.1 h
  exact ⟨rfl, rfl, rfl⟩

/-- The tables about jobs against the replays at every later time. -/
structure JobsMirrored (w : World) (s : Host) : Prop where
  keyed : Keyed s.assignments
  bound : ∀ j a, s.assignments.lookup j = some a → s.idempotency.lookup a.job.idempotencyKey = some j
  sole : ∀ k j a, s.idempotency.lookup k = some j → s.assignments.lookup j = some a → a.job.idempotencyKey = k
  assignments : ∀ u, w.clock s.reads ≤ u → ∀ j, (replay u s.fencingEpoch s.ledger).assignments.lookup j =
    (s.assignments.lookup j).filter fun a => isCurrent u s.fencingEpoch a.lease
  reservations : ∀ u, w.clock s.reads ≤ u → (s.reservations.filter fun r => decide (u < r.expiresAt)).Perm
    ((replay u s.fencingEpoch s.ledger).assignments.values.flatMap Assignment.reservations)
  completedReceipts : ∀ u, (replay u s.fencingEpoch s.ledger).completedReceipts = s.completedReceipts
  shardSets : ∀ u, (replay u s.fencingEpoch s.ledger).shardSets = s.shardSets

section

variable {cfg : Config} {w : World}

theorem jobsMirrored_initial (epoch : Nat) (head : String → Except String ArtifactRefV1) :
    JobsMirrored w (initial epoch head) := by
  have hnone : ∀ j a, (initial epoch head).assignments.lookup j ≠ some a := by
    intro j a h
    simp [initial] at h
  refine ⟨keyed_empty, ?_, ?_, ?_, ?_, ?_, ?_⟩
  · intro j a h
    exact absurd h (hnone j a)
  · intro k j a _ h
    exact absurd h (hnone j a)
  · intro u _ j
    show (replay u epoch []).assignments.lookup j = ((∅ : Table Uuid Assignment).lookup j).filter _
    rw [replay_nil]
    simp [Replay.empty]
  · intro u _
    show List.Perm [] ((replay u epoch []).assignments.values.flatMap Assignment.reservations)
    rw [replay_nil]
    exact List.Perm.refl _
  · intro u
    show (replay u epoch []).completedReceipts = ∅
    rw [replay_nil]
    rfl
  · intro u
    show (replay u epoch []).shardSets = ∅
    rw [replay_nil]
    rfl

/-- A step that leaves the tables about jobs alone. -/
theorem JobsMirrored.extend {s t : Host} (hclock : Monotone w.clock) (h : JobsMirrored w s)
    (frame : Frame JobPassive s t) : JobsMirrored w t := by
  obtain ⟨es, hes, hK⟩ := frame.events
  have hle : ∀ {u}, w.clock t.reads ≤ u → w.clock s.reads ≤ u := fun hu => (hclock frame.later.reads).trans hu
  have hsame : ∀ u, SameJobs (replay u s.fencingEpoch s.ledger) (replay u t.fencingEpoch t.ledger) := by
    intro u
    rw [frame.fencingEpoch, hes]
    exact replay_append_jobPassive hK
  refine ⟨?_, ?_, ?_, ?_, ?_, ?_, ?_⟩
  · rw [frame.assignments]
    exact h.keyed
  · rw [frame.assignments, frame.idempotency]
    exact h.bound
  · rw [frame.assignments, frame.idempotency]
    exact h.sole
  · intro u hu j
    rw [(hsame u).assignments, frame.assignments, frame.fencingEpoch]
    exact h.assignments u (hle hu) j
  · intro u hu
    rw [(hsame u).assignments, frame.reservations]
    exact h.reservations u (hle hu)
  · intro u
    rw [(hsame u).completedReceipts, frame.completedReceipts]
    exact h.completedReceipts u
  · intro u
    rw [(hsame u).shardSets, frame.shardSets]
    exact h.shardSets u

/-! ## Admissions -/

/-- Before an admission that meets the condition no replay has an assignment for its members. -/
theorem JobsMirrored.unreplayed {s : Host} {op : Op} {members : List (JobSpecV1 × CapabilityLeaseV1)}
    (h : JobsMirrored w s) (hnamed : ∀ m ∈ members, m.1 ∈ op.undeduplicated s) (hcond : admitsFresh w s op = true)
    {m : JobSpecV1 × CapabilityLeaseV1} (hm : m ∈ members) {u : Int} (hu : w.clock s.reads ≤ u) :
    (replay u s.fencingEpoch s.ledger).assignments.lookup m.1.jobId = none := by
  rw [h.assignments u hu]
  cases ha : s.assignments.lookup m.1.jobId with
  | none => rfl
  | some a =>
    have := admitsFresh_expired hcond (hnamed m hm) ha
    have hx : ¬ u < a.lease.expiresAt := by omega
    simp [Option.filter, isCurrent, hx]

theorem Admission.bound {s t : Host} {members : List (JobSpecV1 × CapabilityLeaseV1)} (hadm : Admission w s t members)
    (h : JobsMirrored w s) {j : Uuid} {a : Assignment} (ha : t.assignments.lookup j = some a) :
    t.idempotency.lookup a.job.idempotencyKey = some j := by
  have hkeys : (members.map fun m => (m.1.idempotencyKey, m.1.jobId)).map (·.1) = members.map (·.1.idempotencyKey) := by
    rw [List.map_map]
    rfl
  rw [hadm.idempotency]
  rcases hadm.lookup_cases ha with ⟨m, hm, rfl, rfl⟩ | ⟨hj, ho⟩
  · refine Table.lookup_insertAll_of_mem ?_ (List.mem_map.2 ⟨m, hm, rfl⟩)
    rw [hkeys]
    exact hadm.distinctKeys
  · have hold := h.bound j a ho
    rw [Table.lookup_insertAll_of_notMem, hold]
    rw [hkeys]
    intro hk
    obtain ⟨m, hm, hmk⟩ := List.mem_map.1 hk
    have hne : j ≠ m.1.jobId := fun heq => hj (List.mem_map.2 ⟨m, hm, heq.symm⟩)
    rw [hadm.keys m hm j (by rw [hmk]; exact hold) hne] at ho
    cases ho

theorem Admission.sole {s t : Host} {op : Op} {members : List (JobSpecV1 × CapabilityLeaseV1)}
    (hadm : Admission w s t members) (h : JobsMirrored w s) (hnamed : ∀ m ∈ members, m.1 ∈ op.undeduplicated s)
    (hcond : admitsFresh w s op = true) {k : String} {j : Uuid} {a : Assignment}
    (hk : t.idempotency.lookup k = some j) (ha : t.assignments.lookup j = some a) : a.job.idempotencyKey = k := by
  rw [hadm.idempotency] at hk
  rcases Table.lookup_insertAll_cases hk with hin | ⟨hno, hold⟩
  · obtain ⟨m, hm, he⟩ := List.mem_map.1 hin
    simp only [Prod.mk.injEq] at he
    obtain ⟨rfl, rfl⟩ := he
    rw [hadm.lookup_of_mem hm, Option.some.injEq] at ha
    rw [← ha]
  · rcases hadm.lookup_cases ha with ⟨m, hm, rfl, rfl⟩ | ⟨_, ho⟩
    · exact (admitsFresh_key hcond (hnamed m hm) hold).symm
    · exact h.sole k j a hold ho

/-- The reservations of the members that are live are those of the current members. -/
theorem filter_memberReservations {u : Int} {epoch : Nat} {members : List (JobSpecV1 × CapabilityLeaseV1)}
    (he : ∀ m ∈ members, m.2.fencingEpoch = epoch) :
    (members.flatMap memberReservations).filter (fun r => decide (u < r.expiresAt)) =
      ((currentMembers u epoch members).map (fun m => (memberEntry m).2)).flatMap Assignment.reservations := by
  induction members with
  | nil => rfl
  | cons m ms ih =>
    have hm := he m (List.mem_cons_self ..)
    have hres : ∀ r ∈ memberReservations m, r.expiresAt = m.2.expiresAt := by
      intro r hr
      obtain ⟨request, _, rfl⟩ := List.mem_map.1 hr
      rfl
    rw [List.flatMap_cons, List.filter_append, ih fun m' hm' => he m' (List.mem_cons_of_mem _ hm')]
    by_cases hx : u < m.2.expiresAt
    · have hall : (memberReservations m).filter (fun r => decide (u < r.expiresAt)) = memberReservations m := by
        rw [List.filter_eq_self]
        intro r hr
        simp [hres r hr, hx]
      have hcons : currentMembers u epoch (m :: ms) = m :: currentMembers u epoch ms := by
        simp [currentMembers, isCurrent, hx, hm]
      rw [hall, hcons]
      rfl
    · have hnone : (memberReservations m).filter (fun r => decide (u < r.expiresAt)) = [] := by
        rw [List.filter_eq_nil_iff]
        intro r hr
        simp [hres r hr, hx]
      have hcons : currentMembers u epoch (m :: ms) = currentMembers u epoch ms := by
        simp [currentMembers, isCurrent, hx]
      rw [hnone, hcons]
      rfl

theorem JobsMirrored.admit {s t : Host} {op : Op} {members : List (JobSpecV1 × CapabilityLeaseV1)}
    (hclock : Monotone w.clock) (h : JobsMirrored w s) (hk : Keyed t.assignments) (hadm : Admission w s t members)
    (hnamed : ∀ m ∈ members, m.1 ∈ op.undeduplicated s) (hcond : admitsFresh w s op = true) : JobsMirrored w t := by
  have hle : ∀ {u}, w.clock t.reads ≤ u → w.clock s.reads ≤ u := fun hu => (hclock hadm.later.reads).trans hu
  have he : t.fencingEpoch = s.fencingEpoch := hadm.fencingEpoch
  have hepoch : ∀ m ∈ members, m.2.fencingEpoch = s.fencingEpoch := fun m hm =>
    hadm.minted.epoch m.2 (List.mem_map_of_mem hm)
  refine ⟨hk, fun j a ha => hadm.bound h ha, fun k j a hk ha => hadm.sole h hnamed hcond hk ha, ?_, ?_, ?_, ?_⟩
  · intro u hu j
    rw [he]
    by_cases hj : j ∈ members.map (·.1.jobId)
    · obtain ⟨m, hm, rfl⟩ := List.mem_map.1 hj
      rw [hadm.lookup_of_mem hm]
      by_cases hcur : isCurrent u s.fencingEpoch m.2 = true
      · rw [hadm.replayed_of_mem hm hcur]
        simp [Option.filter, hcur]
      · -- the member has expired already, and the replay had nothing for its job
        rw [hadm.replayed_of_notMem, h.unreplayed hnamed hcond hm (hle hu)]
        · simp [Option.filter, hcur]
        · intro m' hm' hcur' hjob
          have : m' = m := List.inj_on_of_nodup_map hadm.distinct hm' hm hjob
          subst this
          exact hcur hcur'
    · rw [hadm.lookup_of_notMem hj, hadm.replayed_of_notMem]
      · exact h.assignments u (hle hu) j
      · rintro m hm _ rfl
        exact hj (List.mem_map_of_mem hm)
  · intro u hu
    obtain ⟨kept, hkept, hfilter⟩ := hadm.reservations
    -- who has a reservation: the members that are current, and those who had one before
    have hlive : kept.filter (fun r => decide (u < r.expiresAt)) = s.reservations.filter fun r => decide (u < r.expiresAt) :=
      hfilter u fun r _ hr => (hclock hr.le).trans hu
    have hvalues : ((replay u s.fencingEpoch t.ledger).assignments.values).Perm
        ((currentMembers u s.fencingEpoch members).map (fun m => (memberEntry m).2) ++
          (replay u s.fencingEpoch s.ledger).assignments.values) := by
      rw [hadm.replayed]
      have := Table.values_insertAll (l := (currentMembers u s.fencingEpoch members).map memberEntry)
        (t := (replay u s.fencingEpoch s.ledger).assignments) ?_ ?_
      · rw [List.map_map] at this
        exact this
      · rw [memberEntry_keys]
        exact hadm.distinct.sublist (List.filter_sublist.map _)
      · intro e hin
        obtain ⟨m, hm, rfl⟩ := List.mem_map.1 hin
        exact h.unreplayed hnamed hcond (List.mem_of_mem_filter hm) (hle hu)
    rw [he, hkept, List.filter_append, hlive, filter_memberReservations hepoch]
    calc List.Perm _ (((replay u s.fencingEpoch s.ledger).assignments.values).flatMap Assignment.reservations ++ _) :=
          (h.reservations u (hle hu)).append_right _
      List.Perm _ (_ ++ ((replay u s.fencingEpoch s.ledger).assignments.values).flatMap Assignment.reservations) :=
          List.perm_append_comm
      List.Perm _ _ := by
          rw [← List.flatMap_append]
          exact (hvalues.flatMap_right _).symm
  · intro u
    rw [he, (hadm.replayedOther u _).2.2, hadm.completedReceipts]
    exact h.completedReceipts u
  · intro u
    rw [he]
    rcases hadm.shardSets with ⟨hs, hr⟩ | ⟨id, record, hs, hr⟩
    · rw [hr, hs]
      exact h.shardSets u
    · rw [hr, hs, h.shardSets u]

/-! ## Claims, receipts and revocations -/

/-- Marking an assignment leaves the reservations of a table as they are. -/
theorem reservations_replayClaim (k : Uuid) (t : Table Uuid Assignment) :
    ((replayClaim k t).values.flatMap Assignment.reservations).Perm (t.values.flatMap Assignment.reservations) := by
  unfold replayClaim
  split
  · rename_i a ha
    rw [Table.values_insert]
    have hperm := (Table.values_perm_cons_erase ha).flatMap_right Assignment.reservations
    refine List.Perm.trans ?_ hperm.symm
    rw [List.flatMap_cons, List.flatMap_cons]
    exact List.Perm.refl _
  · exact List.Perm.refl _

theorem JobsMirrored.claim {s t : Host} {nodeId jobId : Uuid} {a : Assignment} (hclock : Monotone w.clock)
    (h : JobsMirrored w s) (hk : Keyed t.assignments) (claimable : Claimable w s nodeId jobId a)
    (result : t = markClaimed jobId a { s with
      ledger := s.ledger ++ [.jobClaimed (workClaim cfg a)]
      reads := s.reads + 1
      appends := s.appends + 1 }) : JobsMirrored w t := by
  have hjob : a.job.jobId = jobId := (h.keyed _ _ claimable.stored).1
  -- the claim reads the clock once more
  have hle : ∀ {u}, w.clock (s.reads + 1) ≤ u → w.clock s.reads ≤ u := fun hu => (hclock (Nat.le_succ _)).trans hu
  have hreplay : ∀ u, (replay u t.fencingEpoch t.ledger).assignments =
      replayClaim jobId (replay u s.fencingEpoch s.ledger).assignments := by
    intro u
    rw [result]
    show (replay u s.fencingEpoch (s.ledger ++ [_])).assignments = _
    rw [replay_snoc, ← hjob]
    rfl
  have hold : ∀ j b, t.assignments.lookup j = some b → ∃ b', s.assignments.lookup j = some b' ∧ b'.job = b.job := by
    intro j b hb
    rw [result] at hb
    rcases lookup_markClaimed hb with ⟨rfl, rfl⟩ | ⟨_, hb⟩
    · exact ⟨a, claimable.stored, rfl⟩
    · exact ⟨b, hb, rfl⟩
  have hidem : t.idempotency = s.idempotency := by rw [result]; rfl
  refine ⟨hk, ?_, ?_, ?_, ?_, ?_, ?_⟩
  · intro j b hb
    obtain ⟨b', hb', hbj⟩ := hold j b hb
    rw [hidem, ← hbj]
    exact h.bound j b' hb'
  · intro k j b hk hb
    obtain ⟨b', hb', hbj⟩ := hold j b hb
    rw [hidem] at hk
    rw [← hbj]
    exact h.sole k j b' hk hb'
  · intro u hu j
    rw [hreplay, result]
    rw [result] at hu
    show _ = ((s.assignments.insert jobId { a with claimed := true }).lookup j).filter
      fun b => isCurrent u s.fencingEpoch b.lease
    have hj := h.assignments u (hle hu) j
    have hjobId := h.assignments u (hle hu) jobId
    rw [claimable.stored] at hjobId
    rw [Table.lookup_insert']
    unfold replayClaim
    -- a replay marks the assignment that is current, and forgets the others anyway
    by_cases hcur : isCurrent u s.fencingEpoch a.lease = true
    · have hfound : (replay u s.fencingEpoch s.ledger).assignments.lookup jobId = some a := by
        rw [hjobId]
        simp [Option.filter, hcur]
      rw [hfound, Table.lookup_insert']
      by_cases hjj : j = jobId
      · rw [if_pos hjj, if_pos hjj]
        simp [Option.filter, hcur]
      · rw [if_neg hjj, if_neg hjj, hj]
    · have hfound : (replay u s.fencingEpoch s.ledger).assignments.lookup jobId = none := by
        rw [hjobId]
        simp [Option.filter, hcur]
      rw [hfound]
      by_cases hjj : j = jobId
      · rw [if_pos hjj, hjj, hfound]
        simp [Option.filter, hcur]
      · rw [if_neg hjj, hj]
  · intro u hu
    rw [hreplay]
    have hres : t.reservations = s.reservations := by rw [result]; rfl
    rw [hres]
    rw [result] at hu
    exact (h.reservations u (hle hu)).trans (reservations_replayClaim jobId _).symm
  · intro u
    rw [result]
    show (replay u s.fencingEpoch (s.ledger ++ [_])).completedReceipts = s.completedReceipts
    rw [replay_snoc]
    exact h.completedReceipts u
  · intro u
    rw [result]
    show (replay u s.fencingEpoch (s.ledger ++ [_])).shardSets = s.shardSets
    rw [replay_snoc]
    exact h.shardSets u

/-- Taking assignments out of memory and replay alike takes their reservations out of both books. -/
theorem JobsMirrored.reservations_retain {s : Host} (h : JobsMirrored w s) {u : Int} (hu : w.clock s.reads ≤ u)
    {p : Uuid → Assignment → Bool} {q : ResourceReservation → Bool} {t : Table Uuid Assignment}
    (ht : ∀ j, t.lookup j = ((replay u s.fencingEpoch s.ledger).assignments.retain p).lookup j)
    (hq : ∀ j a, a.job.jobId = j → ∀ r ∈ a.reservations, q r = p j a) :
    ((s.reservations.filter q).filter fun r => decide (u < r.expiresAt)).Perm
      (t.values.flatMap Assignment.reservations) := by
  have hkeyed : Keyed (replay u s.fencingEpoch s.ledger).assignments := (replay_keyed s.ledger).assignments
  have hcomm : (s.reservations.filter q).filter (fun r => decide (u < r.expiresAt)) =
      (s.reservations.filter fun r => decide (u < r.expiresAt)).filter q := by
    rw [List.filter_filter, List.filter_filter]
    exact List.filter_congr fun r _ => Bool.and_comm _ _
  rw [hcomm]
  refine ((h.reservations u hu).filter q).trans ?_
  rw [← Table.flatMap_values_retain fun j a ha => hq j a (hkeyed j a ha).1]
  exact (Table.values_perm ht).symm.flatMap_right _

theorem JobsMirrored.receipt {s t : Host} {receipt : ExecutionReceiptV1} {a : Assignment} (hclock : Monotone w.clock)
    (h : JobsMirrored w s) (stored : s.assignments.lookup receipt.jobId = some a)
    (quiet : Quiet Recording (receipted a receipt s) t) : JobsMirrored w t := by
  refine JobsMirrored.extend hclock (s := receipted a receipt s) ?_
    (quiet.toFrame.mono fun _ => jobPassive_of_recording)
  have hreplay : ∀ u, replay u s.fencingEpoch (s.ledger ++ [.jobReceipted receipt]) =
      replayEvent u s.fencingEpoch (replay u s.fencingEpoch s.ledger) (.jobReceipted receipt) :=
    fun u => replay_snoc _ _
  have hout : ∀ (x : Table Uuid Assignment) j, AList.lookup j (x.erase receipt.jobId) =
      (x.retain fun k _ => k != receipt.jobId).lookup j := by
    intro x j
    rw [Table.lookup_erase', Table.lookup_retain]
    by_cases hj : j = receipt.jobId
    · rw [if_pos hj]
      cases x.lookup j <;> simp [Option.filter, hj]
    · rw [if_neg hj]
      cases x.lookup j <;> simp [Option.filter, hj]
  refine ⟨?_, ?_, ?_, ?_, ?_, ?_, ?_⟩
  · exact h.keyed.of_lookup fun j b hb => Or.inl ⟨b, (lookup_of_erase hb).1, rfl, rfl⟩
  · intro j b hb
    obtain ⟨hb, hj⟩ := lookup_of_erase hb
    show AList.lookup _ (s.idempotency.erase a.job.idempotencyKey) = some j
    rw [Table.lookup_erase', if_neg, h.bound j b hb]
    -- the settled key is bound to the settled job alone
    intro hkey
    have hj' := h.bound j b hb
    rw [hkey, h.bound _ a stored, Option.some.injEq] at hj'
    exact hj hj'.symm
  · intro k j b hk hb
    exact h.sole k j b (Table.lookup_of_erase hk) (lookup_of_erase hb).1
  · intro u hu j
    show (replay u s.fencingEpoch (s.ledger ++ [_])).assignments.lookup j =
      (AList.lookup j (s.assignments.erase receipt.jobId)).filter _
    rw [hreplay]
    show AList.lookup j ((replay u s.fencingEpoch s.ledger).assignments.erase receipt.jobId) = _
    rw [Table.lookup_erase', Table.lookup_erase', h.assignments u hu j]
    by_cases hj : j = receipt.jobId
    · rw [if_pos hj, if_pos hj]
      rfl
    · rw [if_neg hj, if_neg hj]
      rfl
  · intro u hu
    show ((s.reservations.filter _).filter _).Perm
      ((replay u s.fencingEpoch (s.ledger ++ [_])).assignments.values.flatMap _)
    rw [hreplay]
    refine h.reservations_retain hu (hout _) ?_
    rintro j b rfl r hr
    rw [(Assignment.mem_reservations hr).1]
  · intro u
    show (replay u s.fencingEpoch (s.ledger ++ [_])).completedReceipts = s.completedReceipts.insert _ _
    rw [hreplay, ← h.completedReceipts u]
    rfl
  · intro u
    show (replay u s.fencingEpoch (s.ledger ++ [_])).shardSets = s.shardSets
    rw [hreplay]
    exact h.shardSets u

theorem JobsMirrored.revoke {s t : Host} {nodeId : Uuid} {name key : String} (hclock : Monotone w.clock)
    (h : JobsMirrored w s) (quiet : Quiet Other (forgetNode nodeId { s with
      ledger := s.ledger ++ [.nodeRevoked nodeId name key]
      reads := s.reads + 1
      appends := s.appends + 1 }) t) : JobsMirrored w t := by
  refine JobsMirrored.extend hclock ?_ (quiet.toFrame.mono fun _ => jobPassive_of_other)
  have hle : ∀ {u}, w.clock (s.reads + 1) ≤ u → w.clock s.reads ≤ u := fun hu => (hclock (Nat.le_succ _)).trans hu
  have hreplay : ∀ u, replay u s.fencingEpoch (s.ledger ++ [.nodeRevoked nodeId name key]) =
      replayEvent u s.fencingEpoch (replay u s.fencingEpoch s.ledger) (.nodeRevoked nodeId name key) :=
    fun u => replay_snoc _ _
  refine ⟨?_, ?_, ?_, ?_, ?_, ?_, ?_⟩
  · exact h.keyed.of_lookup fun j b hb => Or.inl ⟨b, (lookup_of_retain hb).1, rfl, rfl⟩
  · intro j b hb
    exact h.bound j b (lookup_of_retain hb).1
  · intro k j b hk hb
    exact h.sole k j b hk (lookup_of_retain hb).1
  · intro u hu j
    show (replay u s.fencingEpoch (s.ledger ++ [_])).assignments.lookup j =
      ((s.assignments.retain fun _ a => a.lease.nodeId != nodeId).lookup j).filter _
    rw [hreplay]
    show ((replay u s.fencingEpoch s.ledger).assignments.retain fun _ a => a.lease.nodeId != nodeId).lookup j = _
    rw [Table.lookup_retain, Table.lookup_retain, h.assignments u (hle hu) j, Option.filter_filter, Option.filter_filter]
    congr 1
    funext b
    exact Bool.and_comm _ _
  · intro u hu
    show ((s.reservations.filter _).filter _).Perm
      ((replay u s.fencingEpoch (s.ledger ++ [_])).assignments.values.flatMap _)
    rw [hreplay]
    refine h.reservations_retain (hle hu) (fun _ => rfl) ?_
    intro j b _ r hr
    rw [(Assignment.mem_reservations hr).2.1]
  · intro u
    show (replay u s.fencingEpoch (s.ledger ++ [_])).completedReceipts = s.completedReceipts
    rw [hreplay]
    exact h.completedReceipts u
  · intro u
    show (replay u s.fencingEpoch (s.ledger ++ [_])).shardSets =
      s.shardSets.retain fun _ r => r.leases.all (·.nodeId != nodeId)
    rw [hreplay, ← h.shardSets u]
    rfl

/-- Every step that meets the condition keeps the tables about jobs, STOP, resume and restarts apart. -/
theorem Change.jobsMirrored (hok : ∀ n, w.appendFailure n = none) (hclock : Monotone w.clock) {s t : Host} {op : Op}
    {r : Reply} (hc : Change cfg w s t op r) (h : JobsMirrored w s) (hhalt : op.isHalting = false)
    (hrestart : op ≠ .restart) (hcond : admitsFresh w s op = true) : JobsMirrored w t := by
  have hk : Keyed t.assignments := hc.keyed h.keyed
  cases hc with
  | idle frame => exact h.extend hclock frame
  | halted _ _ _ halts =>
    rw [hhalt] at halts
    cases halts
  | admitted admission named => exact h.admit hclock hk admission named hcond
  | revoked quiet => exact h.revoke hclock quiet
  | claimed claimable _ result => exact h.claim hclock hk claimable result
  | claimLost _ append => exact absurd (hok _) append
  | receipted stored _ _ quiet => exact h.receipt hclock stored quiet
  | receiptLost _ _ append => exact absurd (hok _) append
  | restarted => exact absurd rfl hrestart

end

/-! ## The restored state -/

/-- The state `r` restored at `now` is the state `s` in memory: the same nodes, completed receipts and shard
sets, the invites that have not expired, the assignments that are current with their keys and
no others, and the live reservations. -/
structure Restores (now : Int) (s r : AppState) : Prop where
  nodes : r.nodes = s.nodes
  invites : ∀ i, r.invites.lookup i = (s.invites.lookup i).filter fun x => decide (now < x.expiresAt)
  assignments : ∀ j, r.assignments.lookup j =
    (s.assignments.lookup j).filter fun a => isCurrent now s.fencingEpoch a.lease
  idempotency : ∀ k j, r.idempotency.lookup k = some j ↔
    s.idempotency.lookup k = some j ∧ ∃ a, s.assignments.lookup j = some a ∧ isCurrent now s.fencingEpoch a.lease = true
  reservations : r.reservations.Perm (s.reservations.filter fun r => decide (now < r.expiresAt))
  completedReceipts : r.completedReceipts = s.completedReceipts
  shardSets : r.shardSets = s.shardSets

/-- The restored keys, when no two assignments of different jobs share one. -/
theorem lookup_restoredIdempotency : ∀ {l : List Assignment} (k : String) (j : Uuid),
    (∀ a ∈ l, ∀ b ∈ l, a.job.idempotencyKey = b.job.idempotencyKey → a.job.jobId = b.job.jobId) →
    ((restoredIdempotency l).lookup k = some j ↔ ∃ a ∈ l, a.job.idempotencyKey = k ∧ a.job.jobId = j) := by
  intro l k j
  induction l using List.reverseRecOn with
  | nil =>
    intro _
    simp [restoredIdempotency]
  | append_singleton l a ih =>
    intro hinj
    have ih := ih fun b hb c hc => hinj b (List.mem_append_left _ hb) c (List.mem_append_left _ hc)
    have hsnoc : restoredIdempotency (l ++ [a]) = (restoredIdempotency l).insert a.job.idempotencyKey a.job.jobId := by
      simp [restoredIdempotency, List.foldl_append]
    rw [hsnoc, Table.lookup_insert']
    by_cases hk : k = a.job.idempotencyKey
    · rw [if_pos hk, Option.some.injEq]
      constructor
      · rintro rfl
        exact ⟨a, List.mem_append_right _ (List.mem_singleton_self a), hk.symm, rfl⟩
      · rintro ⟨b, hb, hbk, rfl⟩
        exact hinj a (List.mem_append_right _ (List.mem_singleton_self a)) b hb (by rw [hbk, hk])
    · rw [if_neg hk, ih]
      constructor
      · rintro ⟨b, hb, hbk⟩
        exact ⟨b, List.mem_append_left _ hb, hbk⟩
      · rintro ⟨b, hb, hbk, hbj⟩
        rcases List.mem_append.1 hb with hb | hb
        · exact ⟨b, hb, hbk, hbj⟩
        · rw [List.mem_singleton] at hb
          subst hb
          exact absurd hbk.symm hk

theorem restores_of_mirrored {w : World} {s : Host} (hd : DevicesMirrored w s) (hj : JobsMirrored w s)
    (order : IterOrder) {now : Int} (hnow : w.clock s.reads ≤ now) :
    Restores now s.toAppState (restoreState order now s.toAppState) := by
  -- replay rebuilds the assignments whose leases are current
  have hlookup : ∀ {j a}, (replay now s.fencingEpoch s.ledger).assignments.lookup j = some a ↔
      s.assignments.lookup j = some a ∧ isCurrent now s.fencingEpoch a.lease = true := by
    intro j a
    rw [hj.assignments now hnow j, Option.filter_eq_some_iff]
  have hmem : ∀ {a}, a ∈ order.apply (replay now s.fencingEpoch s.ledger).assignments.values ↔
      s.assignments.lookup a.job.jobId = some a ∧ isCurrent now s.fencingEpoch a.lease = true := by
    intro a
    rw [order.mem_apply, Table.mem_values]
    constructor
    · rintro ⟨j, ha⟩
      have hs := hlookup.1 ha
      rw [(hj.keyed j a hs.1).1]
      exact hs
    · exact fun h => ⟨_, hlookup.2 h⟩
  refine ⟨hd.nodes now, hd.invites now hnow, hj.assignments now hnow, ?_, ?_, hj.completedReceipts now,
    hj.shardSets now⟩
  · intro k j
    show (restoredIdempotency (order.apply (replay now s.fencingEpoch s.ledger).assignments.values)).lookup k = some j ↔ _
    rw [lookup_restoredIdempotency]
    · constructor
      · rintro ⟨a, ha, rfl, rfl⟩
        have hs := hmem.1 ha
        exact ⟨hj.bound _ a hs.1, a, hs⟩
      · rintro ⟨hk, a, hs⟩
        have hjob := (hj.keyed j a hs.1).1
        exact ⟨a, hmem.2 (by rw [hjob]; exact hs), hj.sole k j a hk hs.1, hjob⟩
    · intro a ha b hb hkey
      have ha' := hj.bound _ a (hmem.1 ha).1
      rw [hkey, hj.bound _ b (hmem.1 hb).1, Option.some.injEq] at ha'
      exact ha'.symm
  · show ((order.apply (replay now s.fencingEpoch s.ledger).assignments.values).flatMap Assignment.reservations).Perm _
    exact ((order.perm _).flatMap_right _).trans (hj.reservations now hnow).symm

/-- In every run of requests whose appends succeed, without STOP, resume and restarts, on a clock that does not
go back: if no enrolment spends a valid invite on a wrong code and no request admits a job that still has
an unexpired assignment or another idempotency key, then at every later time `restore_state` gives
back the state in memory, whatever order it iterates its tables in. -/
theorem live_state_is_restored (cfg : Config) (w : World) (epoch : Nat) (head : String → Except String ArtifactRefV1)
    (hok : ∀ n, w.appendFailure n = none) (hclock : Monotone w.clock) (ops : List Op)
    (hops : ∀ op ∈ ops, op.isHalting = false ∧ op ≠ .restart)
    (hm : (machine cfg w).Meets (fun s op => sparesInvites cfg w s op = true ∧ admitsFresh w s op = true) ops
      (initial epoch head)) (order : IterOrder) :
    ∀ now, w.clock ((machine cfg w).exec ops (initial epoch head)).reads ≤ now →
      Restores now ((machine cfg w).exec ops (initial epoch head)).toAppState
        (restoreState order now ((machine cfg w).exec ops (initial epoch head)).toAppState) := by
  have hrun : ∀ (ops : List Op) (s : Host), DevicesMirrored w s → JobsMirrored w s →
      (∀ op ∈ ops, op.isHalting = false ∧ op ≠ .restart) →
      (machine cfg w).Meets (fun s op => sparesInvites cfg w s op = true ∧ admitsFresh w s op = true) ops s →
      DevicesMirrored w ((machine cfg w).exec ops s) ∧ JobsMirrored w ((machine cfg w).exec ops s) := by
    intro ops
    induction ops with
    | nil => exact fun s hd hj _ _ => ⟨hd, hj⟩
    | cons op ops ih =>
      intro s hd hj hops hm
      obtain ⟨hhalt, hrestart⟩ := hops op (List.mem_cons_self ..)
      obtain ⟨⟨hinvites, hfresh⟩, hrest⟩ := hm
      refine ih _ (hd.step hok hclock hhalt hrestart hinvites) ?_ (fun o ho => hops o (List.mem_cons_of_mem _ ho)) hrest
      exact (step_change op s).jobsMirrored hok hclock hj hhalt hrestart hfresh
  obtain ⟨hd, hj⟩ := hrun ops _ (devicesMirrored_initial epoch head) (jobsMirrored_initial epoch head) hops hm
  exact fun now hnow => restores_of_mirrored hd hj order hnow

/-! ## Two runs of the small fabric -/

section

open Scenario

/-- A job is submitted and claimed; a restart gives back the state. -/
theorem live_state_is_restored_echo :
    let s := (machine config world).exec (setup ++ [.submitJob (job 9 "k1"), .claimWork 77]) start
    s.assignments.keys = [9] ∧
      Restores (world.clock s.reads) s.toAppState (restoreState .entries (world.clock s.reads) s.toAppState) := by
  intro s
  refine ⟨by decide +kernel, ?_⟩
  refine live_state_is_restored config world 0 (fun _ => .error "missing") (fun _ => rfl) world_clock_monotone
    (setup ++ [.submitJob (job 9 "k1"), .claimWork 77]) ?_ (by decide +kernel) .entries _ le_rfl
  simp [setup, Op.isHalting]

/-- An enrolment with a wrong code takes the invite out of memory and records nothing: a restart brings the
invite back. -/
theorem spent_invite_is_restored :
    let s := (machine config world).exec
      [.createInvite, .enrollNode { enrollment with enrollmentCode := "ffffffffffffffffffffffffffffffff" }] start
    s.invites.keys = [] ∧
      ¬ Restores (world.clock s.reads) s.toAppState (restoreState .entries (world.clock s.reads) s.toAppState) := by
  intro s
  refine ⟨by decide +kernel, ?_⟩
  intro h
  have hinvite := congrArg Option.isSome (h.invites 1)
  change ((replay (world.clock s.reads) s.fencingEpoch s.ledger).invites.lookup 1).isSome = _ at hinvite
  rw [replay_eq_foldl] at hinvite
  revert hinvite
  decide +kernel

end

end Rampage.Controller
