/-
The leases `submit_job` answers with. A fresh lease is active when it is minted and is answered after
its inputs were staged; a repeated request is answered with the stored lease as it is. Both can have
run out by the time of the answer, and the stored one can belong to an epoch that a STOP has ended.
`lease_is_usable_iff` says that nothing else can be wrong with an answered lease.
-/
import Rampage.Controller.Authority
import Rampage.Controller.Scenario

namespace Rampage.Controller

open Rampage.Protocol Rampage.Planner Rampage.Governor Rampage.Ledger Handler

variable {cfg : Config} {w : World}

/-- The time at which `submit_job` returns: the clock reading that would come next. -/
def returnTime (cfg : Config) (w : World) (job : JobSpecV1) (s : Host) : Int :=
  w.clock (submitJob cfg w job s).2.reads

/-- The lease names the job, is active at the instant under the current epoch and belongs to an
assignment that is claimed or that `claim_work` can still hand out. -/
structure Usable (job : JobSpecV1) (lease : CapabilityLeaseV1) (now : Int) (s : AppState) : Prop where
  names : lease.jobId = job.jobId
  active : lease.isActiveAt now s.fencingEpoch = true
  epoch : lease.fencingEpoch = s.fencingEpoch
  assigned : ∃ a, s.assignments.lookup job.jobId = some a ∧ a.lease = lease ∧
    (a.claimed = true ∨ isClaimable lease.nodeId now s.fencingEpoch a = true)

/-- The request is answered before the lease it is answered with has run out. A bound key is answered
with the stored lease; otherwise the lease is minted at the third clock reading. -/
def InTime (cfg : Config) (w : World) (job : JobSpecV1) (s : Host) : Prop :=
  match boundAssignment s.toAppState job.idempotencyKey with
  | some existing => existing.lease.isActiveAt (returnTime cfg w job s) s.fencingEpoch = true
  | none =>
    returnTime cfg w job s <
        min job.deadline (w.clock (s.reads + 2) + seconds (max cfg.governor.leaseTtlSeconds 1)) ∧
      w.clock (s.reads + 2) ≤ returnTime cfg w job s + seconds maxLeaseClockSkewSeconds

/-- A lease in an assignment that is stored under its job is usable exactly when it is active. -/
theorem usable_iff_active {job : JobSpecV1} {a : Assignment} {now : Int} {s : AppState}
    (hname : a.lease.jobId = job.jobId) (ha : s.assignments.lookup job.jobId = some a) :
    Usable job a.lease now s ↔ a.lease.isActiveAt now s.fencingEpoch = true := by
  constructor
  · exact fun h => h.active
  · intro hactive
    have hepoch : a.lease.fencingEpoch = s.fencingEpoch := by
      simp only [CapabilityLeaseV1.isActiveAt, Bool.and_eq_true, beq_iff_eq] at hactive
      exact hactive.1.2
    refine ⟨hname, hactive, hepoch, a, ha, rfl, ?_⟩
    cases hc : a.claimed with
    | true => exact Or.inl rfl
    | false =>
      refine Or.inr ?_
      simp [isClaimable, hc, hactive]

/-! ## What is answered -/

theorem submitJobArrive_ok {job : JobSpecV1} {s t : Host} {u : Unit} (h : submitJobArrive w job s = (.ok u, t)) :
    t = { s with reads := s.reads + 1 } := by
  obtain ⟨_, s₁, h1, h⟩ := bind_ok h
  obtain ⟨now, s₂, h2, h⟩ := bind_ok h
  obtain ⟨_, rfl⟩ := refuseWhileKilled_ok h1
  obtain ⟨_, rfl⟩ := utcNow_ok h2
  exact (orRefuse_ok h).2

theorem placeJob_ok {job : JobSpecV1} {s t : Host} {choice : ResourceOfferV1 × PlacementScore}
    (h : placeJob cfg w job s = (.ok choice, t)) : t = { s with reads := s.reads + 1 } := by
  unfold placeJob at h
  rw [get_bind, utcNow_bind] at h
  cases hc : chooseOfferWithTopology s.reservations cfg.admissionPolicy (w.clock s.reads) job
      (placementOffers (w.order s.reads) s.toAppState)
      (inputLocality s.toAppState (placementOffers (w.order s.reads) s.toAppState) job) with
  | none =>
    rw [hc] at h
    obtain ⟨_, s₁, _, h⟩ := bind_ok h
    cases h
  | some placed =>
    rw [hc] at h
    exact (pure_ok h).2.symm

/-- A prepared lease was minted at the clock reading after the placement, for the current epoch. -/
theorem prepareJob_lease {job : JobSpecV1} {s t : Host} {lease : CapabilityLeaseV1} {score : PlacementScore}
    (h : prepareJob cfg w job s = (.ok (lease, score), t)) :
    ∃ offer leaseId nonce, authorizeJobAtEpoch cfg.governor cfg.signLease job offer offer.nodeId s.fencingEpoch
      (w.clock (s.reads + 1)) leaseId nonce = .ok lease := by
  obtain ⟨choice, s₁, h1, h⟩ := bind_ok h
  obtain ⟨minted, s₂, h2, h⟩ := bind_ok h
  obtain ⟨lease', s₃, h3, h⟩ := bind_ok h
  obtain ⟨_, s₄, _, h⟩ := bind_ok h
  obtain ⟨hl, _⟩ := pure_ok h
  rw [placeJob_ok h1] at h2
  obtain ⟨hm, _⟩ := mintLease_ok h2
  obtain ⟨hok, _⟩ := orRefuse_ok h3
  rw [Prod.mk.injEq] at hl
  rw [hl.1] at hok
  exact ⟨choice.1, _, _, hm.symm.trans hok⟩

/-- A fresh lease was minted at the third clock reading of the request. -/
theorem submitJob_fresh {job : JobSpecV1} {s t : Host} {r : StatusCode × CapabilityLeaseV1}
    (hb : boundAssignment s.toAppState job.idempotencyKey = none) (h : submitJob cfg w job s = (.ok r, t)) :
    r.1 = .accepted ∧ ∃ offer leaseId nonce,
      authorizeJobAtEpoch cfg.governor cfg.signLease job offer offer.nodeId s.fencingEpoch
        (w.clock (s.reads + 2)) leaseId nonce = .ok r.2 := by
  obtain ⟨_, s₁, h1, h⟩ := bind_ok h
  rw [submitJobArrive_ok h1] at h
  unfold submitJobGated at h
  rw [get_bind] at h
  dsimp only at h
  rw [hb] at h
  obtain ⟨lease, s₂, h2, h⟩ := bind_ok h
  obtain ⟨rfl, _⟩ := pure_ok h
  obtain ⟨_, s₃, h3, h2⟩ := bind_ok h2
  obtain ⟨prepared, s₄, h4, h2⟩ := bind_ok h2
  obtain ⟨_, s₅, _, h2⟩ := bind_ok h2
  obtain ⟨_, s₆, _, h2⟩ := bind_ok h2
  obtain ⟨hl, _⟩ := pure_ok h2
  obtain ⟨_, rfl⟩ := append_ok h3
  rw [← hl]
  exact ⟨rfl, prepareJob_lease h4⟩

/-- A bound key is answered with the stored lease of the same job. -/
theorem submitJob_bound {job : JobSpecV1} {s t : Host} {r : StatusCode × CapabilityLeaseV1} {existing : Assignment}
    (hb : boundAssignment s.toAppState job.idempotencyKey = some existing)
    (h : submitJob cfg w job s = (.ok r, t)) :
    existing.job = job ∧ r.2 = existing.lease ∧ t = { s with reads := s.reads + 1 } := by
  obtain ⟨_, s₁, h1, h⟩ := bind_ok h
  rw [submitJobArrive_ok h1] at h
  unfold submitJobGated at h
  rw [get_bind] at h
  dsimp only at h
  rw [hb] at h
  obtain ⟨_, s₂, h2, h⟩ := bind_ok h
  obtain ⟨hjob, rfl⟩ := ensure_ok h2
  obtain ⟨rfl, rfl⟩ := pure_ok h
  exact ⟨by simpa using hjob, rfl, rfl⟩

/-- A minted lease is active as long as its time has not run out and the clock has not gone back. -/
theorem authorizeJobAtEpoch_active {job : JobSpecV1} {offer : ResourceOfferV1} {node leaseId : Uuid} {epoch : Nat}
    {issued now : Int} {nonce : String} {lease : CapabilityLeaseV1} (hsign : ∀ l, cfg.signLease l ≠ "")
    (h : authorizeJobAtEpoch cfg.governor cfg.signLease job offer node epoch issued leaseId nonce = .ok lease) :
    lease.isActiveAt now epoch = true ↔
      now < min job.deadline (issued + seconds (max cfg.governor.leaseTtlSeconds 1)) ∧
        issued ≤ now + seconds maxLeaseClockSkewSeconds := by
  obtain ⟨_, rfl⟩ := authorizeJobAtEpoch_ok h
  have hs := hsign (unsignedLease cfg.governor job offer node epoch issued leaseId nonce)
  simp only [CapabilityLeaseV1.isActiveAt, unsignedLease, leaseHasStarted, Bool.and_eq_true, beq_iff_eq, bne_iff_ne]
  constructor
  · rintro ⟨⟨⟨⟨_, hstart⟩, hexp⟩, _⟩, _⟩
    exact ⟨of_decide_eq_true hexp, of_decide_eq_true hstart⟩
  · rintro ⟨hexp, hstart⟩
    exact ⟨⟨⟨⟨trivial, decide_eq_true hstart⟩, decide_eq_true hexp⟩, trivial⟩, hs⟩

/-- In every state of a run, a lease that `submit_job` answers with is usable at the return time exactly
when the request is answered in time. -/
theorem lease_is_usable_iff (cfg : Config) (w : World) (hsign : ∀ l, cfg.signLease l ≠ "") (epoch : Nat)
    (artifactHead : String → Except String ArtifactRefV1) (ops : List Op) (job : JobSpecV1) (status : StatusCode)
    (lease : CapabilityLeaseV1)
    (hok : (submitJob cfg w job ((machine cfg w).exec ops (initial epoch artifactHead))).1 = .ok (status, lease)) :
    let s := (machine cfg w).exec ops (initial epoch artifactHead)
    Usable job lease (returnTime cfg w job s) (submitJob cfg w job s).2.toAppState ↔ InTime cfg w job s := by
  intro s
  have hkeyed : Keyed s.assignments := keyed_exec ops keyed_empty
  have hrun : submitJob cfg w job s = (.ok (status, lease), (submitJob cfg w job s).2) := Prod.ext hok rfl
  unfold InTime
  cases hb : boundAssignment s.toAppState job.idempotencyKey with
  | some existing =>
    obtain ⟨rfl, rfl, ht⟩ := submitJob_bound hb hrun
    obtain ⟨jobId, _, ha⟩ := Option.bind_eq_some_iff.1 hb
    obtain ⟨hj, hl⟩ := hkeyed jobId existing ha
    subst hj
    rw [ht]
    exact usable_iff_active hl ha
  | none =>
    obtain ⟨rfl, offer, leaseId, nonce, hauth⟩ := submitJob_fresh hb hrun
    rcases @submitJob_cases cfg w job s with ⟨_, hno⟩ | ⟨lease', score, s₁, hok', hadm⟩
    · exact absurd hok (hno lease)
    · have hlease : lease' = lease := by
        rw [hok, Except.ok.injEq, Prod.mk.injEq] at hok'
        exact hok'.2.symm
      subst hlease
      have hadm := hadm.admission
      have hstored : (submitJob cfg w job s).2.assignments.lookup job.jobId = some ⟨job, lease', false⟩ := by
        rw [hadm.assignments]
        exact AList.lookup_insert _
      have hname : lease'.jobId = job.jobId := by simpa using hadm.minted.jobs
      have husable : Usable job lease' (returnTime cfg w job s) (submitJob cfg w job s).2.toAppState ↔ _ :=
        usable_iff_active (a := ⟨job, lease', false⟩) hname hstored
      refine husable.trans ?_
      rw [hadm.fencingEpoch]
      exact authorizeJobAtEpoch_active hsign hauth

/-! ## Answered too late -/

/-- A job that may run for a quarter of an hour; the Governor's leases last two minutes. -/
def Scenario.longJob : JobSpecV1 := { Scenario.job 9 "a" with deadline := seconds 900 }

open Scenario in
/-- Three minutes after it was admitted the job is answered with its expired lease, and after a STOP and a
resume with the lease of the epoch that has ended. -/
theorem repeated_job_is_answered_with_a_dead_lease :
    (let s := (machine config world).exec
      (setup ++ [.submitJob longJob, .background elapsed, .background elapsed, .background elapsed]) start
     ((submitJob config world longJob s).1.toOption.map fun r =>
        (r.1, decide (returnTime config world longJob s < r.2.expiresAt))) = some (.ok, false)) ∧
    (let s := (machine config world).exec (setup ++ [.submitJob longJob, .localStop, .localResume "OWNER_RESUME"]) start
     ((submitJob config world longJob s).1.toOption.map fun r => (r.1, r.2.fencingEpoch)) = some (.ok, 0) ∧
        s.fencingEpoch = 1) := by
  decide +kernel

open Scenario in
/-- The first answer for the job is in time, and its lease usable. -/
theorem first_lease_is_usable :
    let s := (machine config world).exec setup (initial 0 fun _ => .error "missing")
    ∃ lease, (submitJob config world longJob s).1 = .ok (.accepted, lease) ∧
      Usable longJob lease (returnTime config world longJob s) (submitJob config world longJob s).2.toAppState := by
  have hanswer : (submitJob config world longJob ((machine config world).exec setup
      (initial 0 fun _ => .error "missing"))).1.toOption.map (·.1) = some .accepted := by decide +kernel
  have hunbound : (boundAssignment ((machine config world).exec setup
      (initial 0 fun _ => .error "missing")).toAppState longJob.idempotencyKey).isNone = true := by decide +kernel
  have htime : returnTime config world longJob ((machine config world).exec setup
      (initial 0 fun _ => .error "missing")) < min longJob.deadline (world.clock (((machine config world).exec setup
      (initial 0 fun _ => .error "missing")).reads + 2) + seconds (max config.governor.leaseTtlSeconds 1)) ∧
      world.clock (((machine config world).exec setup (initial 0 fun _ => .error "missing")).reads + 2) ≤
        returnTime config world longJob ((machine config world).exec setup
          (initial 0 fun _ => .error "missing")) + seconds maxLeaseClockSkewSeconds := by
    decide +kernel
  have hsign : ∀ l, config.signLease l ≠ "" := by
    intro l
    show "signature" ≠ ""
    decide
  have husable := lease_is_usable_iff config world hsign 0 (fun _ => .error "missing") setup longJob .accepted
  generalize (machine config world).exec setup (initial 0 fun _ => .error "missing") = s
    at hanswer hunbound htime husable ⊢
  obtain ⟨⟨status, lease⟩, hr, hstatus⟩ := Option.map_eq_some_iff.1 hanswer
  dsimp only at hstatus
  subst hstatus
  have hok : (submitJob config world longJob s).1 = .ok (.accepted, lease) := by
    cases h : (submitJob config world longJob s).1 with
    | error e =>
      rw [h] at hr
      cases hr
    | ok r =>
      rw [h] at hr
      cases hr
      rfl
  refine ⟨lease, hok, (husable lease hok).2 ?_⟩
  unfold InTime
  rw [Option.isNone_iff_eq_none.1 hunbound]
  exact htime

end Rampage.Controller
