/-
The idempotency index. The controller keeps the assignments by job id and, beside them, the job ids
by idempotency key. The two agree as long as no job id is admitted again under another key and no
node is revoked that has an assignment: an admission then leaves the old key behind, and a
revocation leaves the keys of the assignments it drops.
-/
import Rampage.Controller.Failed
import Rampage.Lib.Index

namespace Rampage.Controller

open Rampage.Protocol Rampage.Planner Rampage.Governor Rampage.Ledger Handler

variable {cfg : Config} {w : World}

/-- The idempotency map holds exactly the pairs of a key and a job id whose assignment has that key. -/
def Mirrors (s : Host) : Prop := Table.Indexes (fun a : Assignment => a.job.idempotencyKey) s.idempotency s.assignments

/-- A stored assignment of the job has the job's idempotency key. -/
def SameKey (s : Host) (job : JobSpecV1) : Prop :=
  ∀ a, s.assignments.lookup job.jobId = some a → a.job.idempotencyKey = job.idempotencyKey

/-- No request names a job that is stored under another key, and no revocation names a node that has an
assignment. A restart is no request. -/
def KeepsKeys (s : Host) : Op → Prop
  | .submitJob job => SameKey s job
  | .submitShardSet set => ∀ job ∈ set.shards, SameKey s job
  | .revokeNode nodeId _ => ∀ jobId a, s.assignments.lookup jobId = some a → a.lease.nodeId ≠ nodeId
  | .restart => False
  | _ => True

theorem Mirrors.of_tables {s t : Host} (h : Mirrors s) (ha : t.assignments = s.assignments)
    (hi : t.idempotency = s.idempotency) : Mirrors t := by
  unfold Mirrors
  rw [ha, hi]
  exact h

/-! ## The changes -/

/-- The index entries of admitted members, read off their assignment entries. -/
theorem map_memberEntry (members : List (JobSpecV1 × CapabilityLeaseV1)) :
    (members.map memberEntry).map (fun e => (e.2.job.idempotencyKey, e.1)) =
      members.map fun m => (m.1.idempotencyKey, m.1.jobId) := by
  rw [List.map_map]
  rfl

theorem Mirrors.admission {s t : Host} {members : List (JobSpecV1 × CapabilityLeaseV1)} (h : Mirrors s)
    (hadm : Admission w s t members) (hsame : ∀ m ∈ members, SameKey s m.1) : Mirrors t := by
  unfold Mirrors
  rw [hadm.assignments, hadm.idempotency, ← map_memberEntry]
  refine Table.Indexes.insertAll h ?_ ?_ ?_ ?_
  · rw [List.map_map]
    exact hadm.distinct
  · rw [List.map_map]
    exact hadm.distinctKeys
  · intro e he a ha
    obtain ⟨m, hm, rfl⟩ := List.mem_map.1 he
    exact hsame m hm a ha
  · -- a key that is bound is bound to the job that is admitted: otherwise its assignment would be missing
    intro e he jobId hl
    obtain ⟨m, hm, rfl⟩ := List.mem_map.1 he
    by_contra hne
    obtain ⟨a, ha, _⟩ := (h _ _).1 hl
    rw [hadm.keys m hm jobId hl hne] at ha
    cases ha

theorem Mirrors.markClaimed {s : Host} (h : Mirrors s) {jobId : Uuid} {a : Assignment}
    (ha : s.assignments.lookup jobId = some a) : Mirrors (Controller.markClaimed jobId a s) :=
  Table.Indexes.replace h ha rfl

theorem Mirrors.settleJob {s : Host} (h : Mirrors s) {jobId : Uuid} {a : Assignment}
    (ha : s.assignments.lookup jobId = some a) : Mirrors (Controller.settleJob jobId a.job.idempotencyKey s) :=
  Table.Indexes.erase h ha

theorem Mirrors.forgetNode {s : Host} (h : Mirrors s) {nodeId : Uuid}
    (hnone : ∀ jobId a, s.assignments.lookup jobId = some a → a.lease.nodeId ≠ nodeId) :
    Mirrors (Controller.forgetNode nodeId s) :=
  Table.Indexes.retain h fun jobId a ha => by simpa using hnone jobId a ha

/-- The jobs a request can admit are among those it names. -/
theorem sameKey_of_undeduplicated {s : Host} {op : Op} (hkeys : KeepsKeys s op) {job : JobSpecV1}
    (hj : job ∈ op.undeduplicated s) : SameKey s job := by
  cases op with
  | submitJob job' =>
    change job ∈ if (boundAssignment s.toAppState job'.idempotencyKey).isNone then [job'] else [] at hj
    split at hj
    · rw [List.mem_singleton] at hj
      subst hj
      exact hkeys
    · cases hj
  | submitShardSet set =>
    change job ∈ if s.shardSets.values.all (·.spec.idempotencyKey != set.idempotencyKey) then set.shards else [] at hj
    split at hj
    · exact hkeys job hj
    · cases hj
  | _ => cases hj

/-- One step keeps the agreement. -/
theorem Mirrors.step {s t : Host} {op : Op} {r : Reply} (h : Mirrors s) (hchange : Change cfg w s t op r)
    (hkeys : KeepsKeys s op) : Mirrors t := by
  cases hchange with
  | idle frame => exact h.of_tables frame.assignments frame.idempotency
  | halted halting => exact h.of_tables halting.assignments halting.idempotency
  | admitted admission named =>
    exact h.admission admission fun m hm => sameKey_of_undeduplicated hkeys (named m hm)
  | revoked quiet => exact (h.forgetNode hkeys).of_tables quiet.assignments quiet.idempotency
  | claimed claimable _ result =>
    exact (h.markClaimed claimable.stored).of_tables (by rw [result]; rfl) (by rw [result]; rfl)
  | claimLost claimable _ result =>
    exact (h.markClaimed claimable.stored).of_tables (by rw [result]; rfl) (by rw [result]; rfl)
  | receipted stored _ _ quiet => exact (h.settleJob stored).of_tables quiet.assignments quiet.idempotency
  | receiptLost stored _ _ result =>
    exact (h.settleJob stored).of_tables (by rw [result]) (by rw [result])
  | restarted => exact hkeys.elim

theorem mirrors_run (epoch : Nat) (artifactHead : String → Except String ArtifactRefV1) {ops : List Op}
    (hkeys : (machine cfg w).Meets KeepsKeys ops (initial epoch artifactHead)) :
    Mirrors ((machine cfg w).exec ops (initial epoch artifactHead)) :=
  (machine cfg w).state_invariant (fun _ op hs hc => hs.step (step_change op _) hc) ops Table.indexes_empty hkeys

/-! ## What breaks the agreement -/

/-- A job admitted under another key leaves the old key behind. -/
theorem not_mirrors_of_rekeyed {s t : Host} {members : List (JobSpecV1 × CapabilityLeaseV1)} (h : Mirrors s)
    (hadm : Admission w s t members) {m : JobSpecV1 × CapabilityLeaseV1} (hm : m ∈ members) (hne : ¬ SameKey s m.1) :
    ¬ Mirrors t := by
  unfold SameKey at hne
  push Not at hne
  obtain ⟨a, ha, hkey⟩ := hne
  have hold : s.idempotency.lookup a.job.idempotencyKey = some m.1.jobId := (h _ _).2 ⟨a, ha, rfl⟩
  have hnew : t.assignments.lookup m.1.jobId = some ⟨m.1, m.2, false⟩ := by
    rw [hadm.assignments]
    refine Table.lookup_insertAll_of_mem ?_ (List.mem_map.2 ⟨m, hm, rfl⟩)
    rw [List.map_map]
    exact hadm.distinct
  have hstale : t.idempotency.lookup a.job.idempotencyKey = some m.1.jobId := by
    rw [hadm.idempotency, Table.lookup_insertAll_of_notMem, hold]
    rw [List.map_map]
    intro hmem
    obtain ⟨m', hm', heq⟩ := List.mem_map.1 hmem
    have heq' : m'.1.idempotencyKey = a.job.idempotencyKey := heq
    rw [← heq'] at hold
    -- a member with the old key would be the same job, whose new key is another
    have hid : m.1.jobId = m'.1.jobId := by
      by_contra hne
      rw [hadm.keys m' hm' _ hold hne] at ha
      cases ha
    have hmm : m = m' := List.inj_on_of_nodup_map hadm.distinct hm hm' hid
    rw [← hmm] at heq'
    exact hkey heq'.symm
  refine Table.not_indexes hstale ?_
  intro v hv
  rw [hnew, Option.some.injEq] at hv
  subst hv
  exact fun h => hkey h.symm

/-- A revocation that drops an assignment leaves its key behind. -/
theorem not_mirrors_of_forgotten {s t : Host} {nodeId jobId : Uuid} {a : Assignment} (h : Mirrors s)
    (ha : s.assignments.lookup jobId = some a) (hnode : a.lease.nodeId = nodeId)
    (hassign : t.assignments = (forgetNode nodeId s).assignments) (hidem : t.idempotency = s.idempotency) :
    ¬ Mirrors t := by
  have hkey : t.idempotency.lookup a.job.idempotencyKey = some jobId := by
    rw [hidem]
    exact (h _ _).2 ⟨a, ha, rfl⟩
  refine Table.not_indexes hkey ?_
  intro v hv
  rw [hassign] at hv
  change (s.assignments.retain fun _ a => a.lease.nodeId != nodeId).lookup jobId = some v at hv
  rw [Table.lookup_retain, ha, Option.filter_some] at hv
  simp [hnode] at hv

/-- `revoke_node` answers only after it has forgotten the node. -/
theorem tables_revokeNode_of_ok {nodeId : Uuid} {confirmed : Bool} {s : Host}
    (h : (revokeNode w nodeId confirmed s).1 = .ok ()) :
    (revokeNode w nodeId confirmed s).2.assignments = (forgetNode nodeId s).assignments ∧
      (revokeNode w nodeId confirmed s).2.idempotency = s.idempotency := by
  have hrun : revokeNode w nodeId confirmed s = (.ok (), (revokeNode w nodeId confirmed s).2) := Prod.ext h rfl
  generalize (revokeNode w nodeId confirmed s).2 = t at hrun ⊢
  obtain ⟨_, s₁, h1, hrun⟩ := bind_ok hrun
  obtain ⟨_, rfl⟩ := ensure_ok h1
  rw [get_bind] at hrun
  cases hn : s.nodes.lookup nodeId with
  | none =>
    rw [hn] at hrun
    cases hrun
  | some identity =>
    rw [hn] at hrun
    dsimp only at hrun
    rw [utcNow_bind] at hrun
    obtain ⟨_, s₂, h2, hrun⟩ := bind_ok hrun
    obtain ⟨_, rfl⟩ := append_ok h2
    rw [modify_bind] at hrun
    have hq := quiet_refreshDiagnostics (w := w) (forgetNode nodeId { s with
      ledger := s.ledger ++ [.nodeRevoked nodeId identity.displayName identity.publicKey]
      reads := s.reads + 1
      appends := s.appends + 1 })
    rw [hrun] at hq
    exact ⟨hq.assignments, hq.idempotency⟩

/-- The idempotency index mirrors the assignments in every run whose requests name no job that is stored
under another key and revoke no node that has an assignment. A request that does and succeeds breaks
the agreement. -/
theorem idempotency_mirrors_assignments (cfg : Config) (w : World) :
    (∀ epoch artifactHead ops, (machine cfg w).Meets KeepsKeys ops (initial epoch artifactHead) →
      Mirrors ((machine cfg w).exec ops (initial epoch artifactHead))) ∧
      ∀ s, Mirrors s →
        (∀ job lease, ¬ SameKey s job → (submitJob cfg w job s).1 = .ok (.accepted, lease) →
          ¬ Mirrors (submitJob cfg w job s).2) ∧
        (∀ set, (∃ job ∈ set.shards, ¬ SameKey s job) → IsNewAdmission (submitShardSet cfg w set s).1 →
          ¬ Mirrors (submitShardSet cfg w set s).2) ∧
        (∀ nodeId confirmed, (∃ jobId a, s.assignments.lookup jobId = some a ∧ a.lease.nodeId = nodeId) →
          (revokeNode w nodeId confirmed s).1 = .ok () → ¬ Mirrors (revokeNode w nodeId confirmed s).2) := by
  refine ⟨fun epoch artifactHead ops => mirrors_run epoch artifactHead, fun s h => ⟨?_, ?_, ?_⟩⟩
  · intro job lease hne hok
    rcases @submitJob_cases cfg w job s with ⟨_, hno⟩ | ⟨lease', score, s₁, _, hadm⟩
    · exact absurd hok (hno lease)
    · exact not_mirrors_of_rekeyed h hadm.admission (List.mem_singleton_self _) hne
  · rintro set ⟨job, hj, hne⟩ hnew
    rcases @submitShardSet_cases cfg w set s with ⟨_, hno⟩ | ⟨leases, placements, s₁, _, hadm⟩
    · exact absurd hnew hno
    · have hlen : set.shards.length ≤ leases.length := by
        simpa using (congrArg List.length hadm.minted.jobs).symm.le
      have hfst : (set.shards.zip leases).map (·.1) = set.shards := List.map_fst_zip hlen
      rw [← hfst] at hj
      obtain ⟨m, hm, rfl⟩ := List.mem_map.1 hj
      exact not_mirrors_of_rekeyed h hadm.admission hm hne
  · rintro nodeId confirmed ⟨jobId, a, ha, hnode⟩ hok
    obtain ⟨hassign, hidem⟩ := tables_revokeNode_of_ok hok
    exact not_mirrors_of_forgotten h ha hnode hassign hidem

open Scenario in
/-- A run with an admission and a claim that meets the condition. -/
theorem index_mirrors_after_claim :
    Mirrors ((machine config world).exec (setup ++ [.submitJob (job 9 "a"), .claimWork 77])
      (initial 0 fun _ => .error "missing")) := by
  have hnew : ((machine config world).exec setup (initial 0 fun _ => .error "missing")).assignments.lookup 9 = none := by
    decide +kernel
  refine (idempotency_mirrors_assignments config world).1 0 _ _ ⟨trivial, trivial, trivial, ?_, trivial, trivial⟩
  intro a ha
  have hnone := hnew.symm.trans ha
  cases hnone

open Scenario in
/-- Revoking the node of job 9 leaves its key without an assignment, and admitting job 9 again under a
second key leaves the first key at an assignment with another one. -/
theorem index_keeps_stale_keys :
    (let s := (machine config world).exec (setup ++ [.submitJob (job 9 "a"), .revokeNode 77 true]) start
     s.idempotency.lookup "a" = some 9 ∧ s.assignments.lookup 9 = none) ∧
    (let s := (machine config world).exec (setup ++ [.submitJob (job 9 "a"), .submitJob (job 9 "b")]) start
     s.idempotency.lookup "a" = some 9 ∧ (s.assignments.lookup 9).map (·.job.idempotencyKey) = some "b") := by
  decide +kernel

end Rampage.Controller
