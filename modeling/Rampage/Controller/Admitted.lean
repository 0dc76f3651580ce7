/-
The admission of a job and of a shard set as one transition. `Admission` says what both do to the
tables and what a replay of the events they append does: it inserts the same members, as far as
their leases are still current (`Admission.replayed`). The invariants about authority use only this.
-/
import Rampage.Controller.Run

namespace Rampage.Controller

open Rampage.Protocol Rampage.Planner Rampage.Governor Rampage.Ledger Handler

/-! ## Issued leases -/

/-- The leases an event issues. -/
def issuedBy : Event → List CapabilityLeaseV1
  | .leaseIssued lease _ => [lease]
  | .shardSetAdmitted _ leases _ => leases
  | _ => []

/-- The leases a ledger issues, in order. -/
def issued (l : List Event) : List CapabilityLeaseV1 := l.flatMap issuedBy

@[simp] theorem issued_append (l l' : List Event) : issued (l ++ l') = issued l ++ issued l' := by
  simp [issued]

/-- Events that change no table the replay rebuilds for jobs, nodes and invites. -/
def Passive (k : EventKind) : Prop :=
  k ∉ [EventKind.nodeEnrolled, .nodeRevoked, .inviteCreated, .inviteConsumed, .leaseIssued, .shardSetAdmitted,
    .jobClaimed, .jobReceipted]

theorem issued_of_kinds {es : List Event} (h : ∀ e ∈ es, e.kind ≠ .leaseIssued ∧ e.kind ≠ .shardSetAdmitted) :
    issued es = [] := by
  rw [issued, List.flatMap_eq_nil_iff]
  intro e he
  obtain ⟨h1, h2⟩ := h e he
  cases e with
  | leaseIssued => exact absurd rfl h1
  | shardSetAdmitted => exact absurd rfl h2
  | _ => rfl

theorem issued_of_passive {es : List Event} (h : ∀ e ∈ es, Passive e.kind) : issued es = [] := by
  apply issued_of_kinds
  intro e he
  have := h e he
  simp only [Passive, List.mem_cons, List.not_mem_nil, or_false, not_or] at this
  exact ⟨this.2.2.2.2.1, this.2.2.2.2.2.1⟩

section

variable {now : Int} {epoch : Nat}

/-- The tables a passive event leaves alone. -/
structure SameTables (r r' : Replay) : Prop where
  nodes : r'.nodes = r.nodes
  invites : r'.invites = r.invites
  assignments : r'.assignments = r.assignments
  completedReceipts : r'.completedReceipts = r.completedReceipts
  shardSets : r'.shardSets = r.shardSets

theorem replayEvent_of_passive {r : Replay} {e : Event} (h : Passive e.kind) :
    SameTables r (replayEvent now epoch r e) := by
  cases e with
  | nodeEnrolled | nodeRevoked | inviteCreated | inviteConsumed | leaseIssued | shardSetAdmitted | jobClaimed
  | jobReceipted => exact absurd (by simp [Event.kind]) h
  | _ => exact ⟨rfl, rfl, rfl, rfl, rfl⟩

theorem foldl_replayEvent_passive : ∀ {es : List Event} {r : Replay}, (∀ e ∈ es, Passive e.kind) →
    SameTables r (es.foldl (replayEvent now epoch) r)
  | [], _, _ => ⟨rfl, rfl, rfl, rfl, rfl⟩
  | e :: es, r, h => by
    have h1 : SameTables r (replayEvent now epoch r e) := replayEvent_of_passive (h e (List.mem_cons_self ..))
    have h2 := foldl_replayEvent_passive (r := replayEvent now epoch r e)
      fun e' he' => h e' (List.mem_cons_of_mem _ he')
    exact ⟨h2.nodes.trans h1.nodes, h2.invites.trans h1.invites, h2.assignments.trans h1.assignments,
      h2.completedReceipts.trans h1.completedReceipts, h2.shardSets.trans h1.shardSets⟩

theorem replay_append_passive {l es : List Event} (h : ∀ e ∈ es, Passive e.kind) :
    SameTables (replay now epoch l) (replay now epoch (l ++ es)) := by
  rw [replay_append]
  exact foldl_replayEvent_passive h

/-- Only a proposal changes the proposed jobs. -/
theorem foldl_replayEvent_proposed : ∀ {es : List Event} {r : Replay}, (∀ e ∈ es, e.kind ≠ .jobProposed) →
    (es.foldl (replayEvent now epoch) r).proposedJobs = r.proposedJobs
  | [], _, _ => rfl
  | e :: es, r, h => by
    have he := h e (List.mem_cons_self ..)
    rw [List.foldl_cons, foldl_replayEvent_proposed fun e' he' => h e' (List.mem_cons_of_mem _ he')]
    cases e with
    | jobProposed => exact absurd rfl he
    | inviteCreated =>
      unfold replayEvent
      dsimp only
      split <;> rfl
    | _ => rfl

end

theorem passive_of_staging {k : EventKind} (h : Staging k) : Passive k := by
  rcases h with rfl | rfl | rfl <;> simp [Passive]

theorem passive_of_submitting {k : EventKind} (h : Submitting k) : Passive k := by
  rcases h with rfl | h
  · simp [Passive]
  · exact passive_of_staging h

/-! ## The replay of an admission -/

/-- The assignment entry of an admitted member. -/
def memberEntry (m : JobSpecV1 × CapabilityLeaseV1) : Uuid × Assignment := (m.1.jobId, ⟨m.1, m.2, false⟩)

section

variable (now : Int) (epoch : Nat)

/-- The members whose lease is current. -/
def currentMembers (members : List (JobSpecV1 × CapabilityLeaseV1)) : List (JobSpecV1 × CapabilityLeaseV1) :=
  members.filter fun m => isCurrent now epoch m.2

variable {now epoch}

theorem replayLease_some {job : JobSpecV1} {lease : CapabilityLeaseV1} (h : lease.jobId = job.jobId)
    (t : Table Uuid Assignment) :
    replayLease now epoch (some job) lease t = Table.insertAll ((currentMembers now epoch [(job, lease)]).map memberEntry) t := by
  unfold replayLease
  by_cases hc : isCurrent now epoch lease = true
  · simp [currentMembers, hc, memberEntry, Table.insertAll, h]
  · simp [currentMembers, hc, Table.insertAll]

/-- The shard a lease names, when the set's job ids are distinct. -/
theorem shardOf_eq {set : ShardSetV1} (hn : (set.shards.map (·.jobId)).Nodup) {job : JobSpecV1}
    (hj : job ∈ set.shards) : shardOf set job.jobId = some job := by
  unfold shardOf
  rw [Select.filter_key_eq hn hj]
  rfl

theorem replayLeases_zip {set : ShardSetV1} (hn : (set.shards.map (·.jobId)).Nodup) :
    ∀ {jobs : List JobSpecV1} {leases : List CapabilityLeaseV1} {t : Table Uuid Assignment},
      (∀ j ∈ jobs, j ∈ set.shards) → leases.map (·.jobId) = jobs.map (·.jobId) →
      replayLeases now epoch set leases t =
        Table.insertAll ((currentMembers now epoch (jobs.zip leases)).map memberEntry) t
  | [], leases, t, _, hl => by
    have : leases = [] := by simpa using hl
    subst this
    rfl
  | job :: jobs, [], t, _, hl => by simp at hl
  | job :: jobs, lease :: leases, t, hj, hl => by
    simp only [List.map_cons, List.cons.injEq] at hl
    obtain ⟨h1, h2⟩ := hl
    have hs := shardOf_eq hn (hj job (List.mem_cons_self ..))
    have ih := replayLeases_zip (t := replayLease now epoch (some job) lease t) hn
      (fun j hjm => hj j (List.mem_cons_of_mem _ hjm)) h2
    rw [replayLeases, h1, hs, ih, replayLease_some h1]
    by_cases hc : isCurrent now epoch lease = true
    · simp [currentMembers, hc, Table.insertAll]
    · simp [currentMembers, hc, Table.insertAll]

end

/-! ## The transition -/

/-- The reservations of an admitted member. -/
def memberReservations (m : JobSpecV1 × CapabilityLeaseV1) : List ResourceReservation :=
  reservationsOf m.1 m.2.nodeId m.2.expiresAt

/-- From `s` to `t` the members were admitted with their leases. -/
structure Admission (w : World) (s t : Host) (members : List (JobSpecV1 × CapabilityLeaseV1)) : Prop where
  later : Later s t
  nodes : t.nodes = s.nodes
  invites : t.invites = s.invites
  completedReceipts : t.completedReceipts = s.completedReceipts
  fencingEpoch : t.fencingEpoch = s.fencingEpoch
  killLatch : t.killLatch = s.killLatch
  distinct : (members.map (·.1.jobId)).Nodup
  distinctKeys : (members.map (·.1.idempotencyKey)).Nodup
  minted : Minted w s t (members.map (·.1)) (members.map (·.2))
  assignments : t.assignments = Table.insertAll (members.map memberEntry) s.assignments
  idempotency : t.idempotency = Table.insertAll (members.map fun m => (m.1.idempotencyKey, m.1.jobId)) s.idempotency
  keys : ∀ m ∈ members, ∀ j, s.idempotency.lookup m.1.idempotencyKey = some j → j ≠ m.1.jobId →
    s.assignments.lookup j = none
  reservations : ∃ kept, t.reservations = kept ++ members.flatMap memberReservations ∧
    ∀ u, (∀ r, s.reads ≤ r → r < t.reads → w.clock r ≤ u) →
      kept.filter (u < ·.expiresAt) = s.reservations.filter (u < ·.expiresAt)
  issued : issued t.ledger = issued s.ledger ++ members.map (·.2)
  events : ∃ es, t.ledger = s.ledger ++ es ∧
    ∀ e ∈ es, Submitting e.kind ∨ e.kind = .leaseIssued ∨ e.kind = .shardSetAdmitted
  replayed : ∀ u e, (replay u e t.ledger).assignments =
    Table.insertAll ((currentMembers u e members).map memberEntry) (replay u e s.ledger).assignments
  replayedOther : ∀ u e, (replay u e t.ledger).nodes = (replay u e s.ledger).nodes ∧
    (replay u e t.ledger).invites = (replay u e s.ledger).invites ∧
    (replay u e t.ledger).completedReceipts = (replay u e s.ledger).completedReceipts
  shardSets : (t.shardSets = s.shardSets ∧ ∀ u e, (replay u e t.ledger).shardSets = (replay u e s.ledger).shardSets) ∨
    ∃ id record, t.shardSets = s.shardSets.insert id record ∧
      ∀ u e, (replay u e t.ledger).shardSets = (replay u e s.ledger).shardSets.insert id record

section

variable {w : World}

/-- Dropping reservations that had expired when the clock was read loses none that is live later. -/
theorem retainReading_filter : ∀ {rs : List ResourceReservation} {n : Nat} {u : Int},
    (∀ r, n ≤ r → r < n + rs.length → w.clock r ≤ u) →
    (retainReading w n rs).filter (fun r => decide (u < r.expiresAt)) = rs.filter fun r => decide (u < r.expiresAt)
  | [], _, _, _ => rfl
  | r :: rs, n, u, h => by
    have h0 : w.clock n ≤ u := h n le_rfl (by simp)
    have ih : (retainReading w (n + 1) rs).filter (fun r => decide (u < r.expiresAt)) =
        rs.filter fun r => decide (u < r.expiresAt) :=
      retainReading_filter fun i hi hi' => h i (by omega) (by
        rw [List.length_cons]
        omega)
    rw [retainReading]
    by_cases hr : w.clock n < r.expiresAt
    · rw [if_pos hr, List.filter_cons, List.filter_cons, ih]
    · have : ¬ u < r.expiresAt := by omega
      rw [if_neg hr, ih, List.filter_cons]
      simp [this]

theorem JobAdmitted.admission {s s₁ t : Host} {job : JobSpecV1} {lease : CapabilityLeaseV1} {score : PlacementScore}
    (h : JobAdmitted w s job lease score s₁ t) : Admission w s t [(job, lease)] := by
  obtain ⟨es, hes, hst⟩ := h.proposed
  have hlater : Later s t := by
    rw [h.result]
    have hl := h.quiet.later
    refine ⟨?_, ?_, ?_⟩
    · show s.reads ≤ s₁.reads + s₁.reservations.length
      have := hl.reads
      omega
    · show s.appends ≤ s₁.appends + 1
      have := hl.appends
      omega
    · exact hl.uuids
  have hjob : lease.jobId = job.jobId := by simpa using h.minted.jobs
  have hled : t.ledger = s.ledger ++ (.jobProposed job :: es ++ [.leaseIssued lease score]) := by
    rw [h.result]
    show s₁.ledger ++ [.leaseIssued lease score] = _
    rw [hes]
    simp
  -- the tables of a replay change with the lease alone, at the end
  have hpas : ∀ e ∈ Event.jobProposed job :: es, Passive e.kind := by
    intro e he
    rcases List.mem_cons.1 he with rfl | he
    · exact passive_of_submitting (Or.inl rfl)
    · exact passive_of_staging (hst e he)
  have hsame : ∀ u e, SameTables (replay u e s.ledger) (replay u e (s.ledger ++ .jobProposed job :: es)) :=
    fun u e => replay_append_passive hpas
  have hprop : ∀ u e, (replay u e (s.ledger ++ .jobProposed job :: es)).proposedJobs.lookup lease.jobId = some job := by
    intro u e
    rw [replay_append, List.foldl_cons, foldl_replayEvent_proposed, hjob]
    · show ((replay u e s.ledger).proposedJobs.insert job.jobId job).lookup job.jobId = some job
      rw [AList.lookup_insert]
    · intro e' he' hk
      rcases hst e' he' with h | h | h <;> rw [h] at hk <;> cases hk
  have hfold : ∀ u e, replay u e t.ledger =
      replayEvent u e (replay u e (s.ledger ++ .jobProposed job :: es)) (.leaseIssued lease score) := by
    intro u e
    rw [hled, ← List.append_assoc, replay_snoc]
  -- first what the host has, then what a replay of its ledger gives
  refine ⟨hlater, ?_, ?_, ?_, ?_, ?_, by simp, by simp, ?_, ?_, ?_, ?_, ?_, ?_, ?_, ?_, ?_, ?_⟩
  · rw [h.result]
    exact h.quiet.nodes
  · rw [h.result]
    exact h.quiet.invites
  · rw [h.result]
    exact h.quiet.completedReceipts
  · rw [h.result]
    exact h.quiet.fencingEpoch
  · rw [h.result]
    exact h.quiet.killLatch
  · refine h.minted.weaken (Later.refl s) rfl ?_
    rw [h.result]
    exact ⟨Nat.le_add_right _ _, Nat.le_succ _, le_rfl⟩
  · rw [h.result]
    show s₁.assignments.insert job.jobId ⟨job, lease, false⟩ = _
    rw [h.quiet.assignments]
    rfl
  · rw [h.result]
    show s₁.idempotency.insert job.idempotencyKey job.jobId = _
    rw [h.quiet.idempotency]
    rfl
  · intro m hm j hj _
    rw [List.mem_singleton] at hm
    subst hm
    have hb := h.unbound
    rw [boundAssignment, hj] at hb
    exact hb
  · refine ⟨retainReading w s₁.reads s₁.reservations, ?_, ?_⟩
    · rw [h.result]
      simp [recordJob, recordAssignment, memberReservations]
    · intro u hu
      rw [← h.quiet.reservations]
      apply retainReading_filter
      intro r hr hr'
      refine hu r (h.quiet.later.reads.trans hr) ?_
      rw [h.result]
      exact hr'
  · rw [hled, issued_append, issued_append, issued_of_passive hpas]
    rfl
  · refine ⟨_, hled, ?_⟩
    intro e he
    rcases List.mem_append.1 he with he | he
    · rcases List.mem_cons.1 he with rfl | he
      · exact Or.inl (Or.inl rfl)
      · exact Or.inl (Or.inr (hst e he))
    · rw [List.mem_singleton] at he
      subst he
      exact Or.inr (Or.inl rfl)
  · intro u e
    rw [hfold u e, ← (hsame u e).assignments]
    show replayLease u e _ lease _ = _
    rw [hprop u e, replayLease_some hjob]
  · intro u e
    rw [hfold u e]
    exact ⟨(hsame u e).nodes, (hsame u e).invites, (hsame u e).completedReceipts⟩
  · refine Or.inl ⟨?_, fun u e => ?_⟩
    · rw [h.result]
      exact h.quiet.shardSets
    · rw [hfold u e]
      exact (hsame u e).shardSets

/-- The members recorded one after the other change three tables and nothing else. -/
theorem recordShards_eq : ∀ (ms : List ((JobSpecV1 × CapabilityLeaseV1) × ShardPlacement)) (s : Host),
    recordShards ms s = { s with
      idempotency := Table.insertAll (ms.map fun m => (m.1.1.idempotencyKey, m.1.1.jobId)) s.idempotency
      assignments := Table.insertAll (ms.map fun m => memberEntry m.1) s.assignments
      reservations := s.reservations ++ ms.flatMap fun m => reservationsOf m.1.1 m.2.nodeId m.1.2.expiresAt }
  | [], s => by simp [recordShards, Table.insertAll]
  | ((job, lease), p) :: ms, s => by
    rw [recordShards, recordShards_eq ms]
    simp [recordAssignment, Table.insertAll, memberEntry]

/-- The reservations of a set's members are at the nodes of their leases. -/
theorem zip_reservations : ∀ {members : List (JobSpecV1 × CapabilityLeaseV1)} {placements : List ShardPlacement},
    members.map (·.2.nodeId) = placements.map (·.nodeId) →
    ((members.zip placements).flatMap fun m => reservationsOf m.1.1 m.2.nodeId m.1.2.expiresAt) =
      members.flatMap memberReservations
  | [], _, _ => by simp
  | m :: ms, [], h => by simp at h
  | m :: ms, p :: ps, h => by
    simp only [List.map_cons, List.cons.injEq] at h
    rw [List.zip_cons_cons, List.flatMap_cons, List.flatMap_cons, zip_reservations h.2]
    simp [memberReservations, h.1]

section

variable {s s₁ t : Host} {set : ShardSetV1} {leases : List CapabilityLeaseV1} {placements : List ShardPlacement}

theorem ShardSetAdmitted.lengths (h : ShardSetAdmitted w s set (w.clock s.reads) leases placements s₁ t) :
    leases.length = set.shards.length ∧ placements.length = leases.length :=
  ⟨by simpa using congrArg List.length h.minted.jobs, by simpa using (congrArg List.length h.nodes).symm⟩

/-- Minting a lease reads the clock. -/
theorem ShardSetAdmitted.reads_lt (h : ShardSetAdmitted w s set (w.clock s.reads) leases placements s₁ t) :
    s.reads < s₁.reads := by
  have hlen := h.lengths.1
  obtain ⟨job, hj⟩ := List.exists_mem_of_ne_nil _ (ShardSetV1.validateAt_shards_ne_nil h.valid)
  have : leases ≠ [] := by
    rintro rfl
    simp only [List.length_nil] at hlen
    rw [List.length_eq_zero_iff.1 hlen.symm] at hj
    cases hj
  obtain ⟨lease, hl⟩ := List.exists_mem_of_ne_nil _ this
  obtain ⟨r, hr, hr', _⟩ := h.minted.fresh lease hl
  omega

/-- What the record of the set changes, member by member. -/
theorem ShardSetAdmitted.result_eq (h : ShardSetAdmitted w s set (w.clock s.reads) leases placements s₁ t) :
    t = { s₁ with
      ledger := s₁.ledger ++ [.shardSetAdmitted set leases placements]
      appends := s₁.appends + 1
      idempotency := Table.insertAll ((set.shards.zip leases).map fun m => (m.1.idempotencyKey, m.1.jobId)) s₁.idempotency
      assignments := Table.insertAll ((set.shards.zip leases).map memberEntry) s₁.assignments
      reservations := s₁.reservations.filter (w.clock s.reads < ·.expiresAt) ++
        (set.shards.zip leases).flatMap memberReservations
      shardSets := s₁.shardSets.insert set.setId ⟨set, leases⟩ } := by
  obtain ⟨hlen, hplen⟩ := h.lengths
  have hsnd : (set.shards.zip leases).map (·.2) = leases := List.map_snd_zip (by omega)
  have hzip : ((set.shards.zip leases).zip placements).map (·.1) = set.shards.zip leases :=
    List.map_fst_zip (by rw [List.length_zip]; omega)
  have hres : ((set.shards.zip leases).zip placements).flatMap
      (fun m => reservationsOf m.1.1 m.2.nodeId m.1.2.expiresAt) =
      (set.shards.zip leases).flatMap memberReservations := by
    apply zip_reservations
    rw [← h.nodes]
    conv_rhs => rw [← hsnd]
    rw [List.map_map]
    rfl
  have hidem : ((set.shards.zip leases).zip placements).map (fun m => (m.1.1.idempotencyKey, m.1.1.jobId)) =
      (set.shards.zip leases).map fun m => (m.1.idempotencyKey, m.1.jobId) := by
    conv_rhs => rw [← hzip]
    rw [List.map_map]
    rfl
  have hentry : ((set.shards.zip leases).zip placements).map (fun m => memberEntry m.1) =
      (set.shards.zip leases).map memberEntry := by
    conv_rhs => rw [← hzip]
    rw [List.map_map]
    rfl
  rw [h.result, recordShardSet, recordShards_eq, hres, hidem, hentry]

end

theorem ShardSetAdmitted.admission {s s₁ t : Host} {set : ShardSetV1} {leases : List CapabilityLeaseV1}
    {placements : List ShardPlacement}
    (h : ShardSetAdmitted w s set (w.clock s.reads) leases placements s₁ t) :
    Admission w s t (set.shards.zip leases) := by
  have hjobs := h.minted.jobs
  obtain ⟨hlen, hplen⟩ := h.lengths
  obtain ⟨hids, hkeys⟩ := ShardSetV1.validateAt_distinct h.valid
  have hfst : (set.shards.zip leases).map (·.1) = set.shards := List.map_fst_zip (by omega)
  have hsnd : (set.shards.zip leases).map (·.2) = leases := List.map_snd_zip (by omega)
  have hreads := h.reads_lt
  have hresult := h.result_eq
  obtain ⟨es, hes, hst⟩ := h.quiet.events
  -- what was staged passes every table; the admission at the end installs the set
  have hpas : ∀ e ∈ es, Passive e.kind := fun e he => passive_of_staging (hst e he)
  have hled : t.ledger = s.ledger ++ (es ++ [.shardSetAdmitted set leases placements]) := by
    rw [hresult]
    show s₁.ledger ++ _ = _
    rw [hes, List.append_assoc]
  have hfold : ∀ u e, replay u e t.ledger =
      replayEvent u e (replay u e (s.ledger ++ es)) (.shardSetAdmitted set leases placements) := by
    intro u e
    rw [hled, ← List.append_assoc, replay_snoc]
  have hsame : ∀ u e, SameTables (replay u e s.ledger) (replay u e (s.ledger ++ es)) :=
    fun u e => replay_append_passive hpas
  have hlater : Later s₁ t := by
    rw [hresult]
    exact ⟨le_rfl, Nat.le_succ _, le_rfl⟩
  -- first what the host has, then what a replay of its ledger gives
  refine ⟨h.quiet.later.trans hlater, ?_, ?_, ?_, ?_, ?_, ?_, ?_, ?_, ?_, ?_, ?_, ?_, ?_, ?_, ?_, ?_, ?_⟩
  · rw [hresult]
    exact h.quiet.nodes
  · rw [hresult]
    exact h.quiet.invites
  · rw [hresult]
    exact h.quiet.completedReceipts
  · rw [hresult]
    exact h.quiet.fencingEpoch
  · rw [hresult]
    exact h.quiet.killLatch
  · rw [← hfst, List.map_map] at hids
    exact hids
  · rw [← hfst, List.map_map] at hkeys
    exact hkeys
  · rw [hfst, hsnd]
    exact h.minted.weaken (Later.refl s) rfl hlater
  · rw [hresult]
    show Table.insertAll _ s₁.assignments = _
    rw [h.quiet.assignments]
  · rw [hresult]
    show Table.insertAll _ s₁.idempotency = _
    rw [h.quiet.idempotency]
  · intro m hm j hj hne
    have hmem : m.1 ∈ set.shards := by
      rw [← hfst]
      exact List.mem_map_of_mem hm
    have := h.keys m.1 hmem
    rw [shardKeyTaken, hj] at this
    simp only [bne_eq_false_iff_eq] at this
    exact absurd this hne
  · refine ⟨s₁.reservations.filter (w.clock s.reads < ·.expiresAt), ?_, ?_⟩
    · rw [hresult]
    · intro u hu
      have hle : w.clock s.reads ≤ u := hu s.reads le_rfl (by
        rw [hresult]
        exact hreads)
      rw [List.filter_filter, h.quiet.reservations]
      apply List.filter_congr
      intro r _
      by_cases hr : u < r.expiresAt
      · have : w.clock s.reads < r.expiresAt := by omega
        simp [hr, this]
      · simp [hr]
  · rw [hled, issued_append, issued_append, issued_of_passive hpas, hsnd]
    simp [issued, issuedBy]
  · refine ⟨_, hled, ?_⟩
    intro e he
    rcases List.mem_append.1 he with he | he
    · exact Or.inl (Or.inr (hst e he))
    · rw [List.mem_singleton] at he
      subst he
      exact Or.inr (Or.inr rfl)
  · intro u e
    rw [hfold u e, ← (hsame u e).assignments]
    exact replayLeases_zip hids (fun j hj => hj) hjobs
  · intro u e
    rw [hfold u e]
    exact ⟨(hsame u e).nodes, (hsame u e).invites, (hsame u e).completedReceipts⟩
  · refine Or.inr ⟨set.setId, ⟨set, leases⟩, ?_, fun u e => ?_⟩
    · rw [hresult]
      show s₁.shardSets.insert _ _ = _
      rw [h.quiet.shardSets]
    · rw [hfold u e, ← (hsame u e).shardSets]
      rfl

end

end Rampage.Controller
