/-
What the admission handlers can do to the state, said once: `submitJob_cases` and
`submitShardSet_cases` list the ways they can end. Either the tables stay as they were and no new
authority is answered, or the request was admitted: leases were minted for its jobs, the event that
issues them was appended and the tables were updated as `recordJob` and `recordShardSet` do. Every
invariant of a run is derived from these lists.
-/
import Rampage.Controller.Admission

namespace Rampage.Controller

open Rampage.Protocol Rampage.Planner Rampage.Governor Rampage.Ledger Handler

variable (cfg : Config) (w : World)

/-! ## Staging is quiet -/

/-- The events an admission appends before it issues authority. -/
def Staging (k : EventKind) : Prop := k = .jobBlocked ∨ k = .storageLeaseIssued ∨ k = .artifactInputStaged

theorem quiet_replicateToOffer (offer : ResourceOfferV1) (source : ArtifactRefV1) (storageClass : StorageClass) :
    Keeps (Quiet Staging) (replicateToOffer cfg w offer source storageClass) := by
  refine Keeps.bind Keeps.get fun _ => ?_
  refine Keeps.bind (quiet_utcNow w) fun _ => ?_
  refine Keeps.bind (quiet_newUuid w) fun _ => ?_
  refine Keeps.bind (quiet_newText w) fun _ => ?_
  refine Keeps.bind (quiet_orRefuse _ _ _) fun lease => ?_
  refine Keeps.bind (quiet_append w (Or.inr (Or.inl rfl))) fun _ => ?_
  refine Keeps.bind (quiet_transfer w source) fun _ => ?_
  refine Keeps.bind (quiet_orRefuse _ _ _) fun _ => ?_
  exact Keeps.bind (Keeps.ensure _ _) fun _ => Keeps.pure _

/-- Recording a replica is quiet. -/
theorem quiet_insertReplica {K : EventKind → Prop} (k : String × Uuid) (artifact : ArtifactRefV1) :
    Keeps (Quiet K) (Handler.modify fun s => { s with artifactReplicas := s.artifactReplicas.insert k artifact } :
      Request Unit) :=
  fun s => ⟨⟨⟨le_rfl, le_rfl, le_rfl⟩, ⟨[], (List.append_nil s.ledger).symm, by simp⟩, rfl, rfl, rfl, rfl, rfl, rfl,
    rfl, rfl⟩, rfl, rfl⟩

theorem quiet_stageInput (offer : ResourceOfferV1) (input : ArtifactRefV1) :
    Keeps (Quiet Staging) (stageInput cfg w offer input) := by
  refine Keeps.bind Keeps.get fun s => ?_
  refine Keeps.bind (quiet_orRefuse _ _ _) fun source => ?_
  refine Keeps.bind (Keeps.ensure _ _) fun _ => ?_
  cases offer.meshEndpoint with
  | none => exact Keeps.pure ()
  | some record =>
    refine Keeps.ite (Keeps.pure ()) ?_
    refine Keeps.bind (Keeps.bind (quiet_utcNow w) fun _ => Keeps.ensure _ _) fun _ => ?_
    refine Keeps.bind (Keeps.mapError (quiet_replicateToOffer cfg w offer source _)) fun remote => ?_
    exact Keeps.bind (quiet_insertReplica _ _) fun _ => quiet_append w (Or.inr (Or.inr rfl))

theorem quiet_stageJobInputs (offer : ResourceOfferV1) (job : JobSpecV1) :
    Keeps (Quiet Staging) (stageJobInputs cfg w offer job) :=
  Keeps.forEach (quiet_stageInput cfg w offer) job.inputs

theorem quiet_placeJob (job : JobSpecV1) : Keeps (Quiet Staging) (placeJob cfg w job) := by
  refine Keeps.bind Keeps.get fun s => ?_
  refine Keeps.bind (quiet_utcNow w) fun now => ?_
  split
  · exact Keeps.bind (quiet_append w (Or.inl rfl)) fun _ => Keeps.fail _
  · exact Keeps.pure _

theorem quiet_mintLease (K : EventKind → Prop) (job : JobSpecV1) (offer : ResourceOfferV1) (node : Uuid) :
    Keeps (Quiet K) (mintLease cfg w job offer node) :=
  Keeps.bind Keeps.get fun _ => Keeps.bind (quiet_utcNow w) fun _ => Keeps.bind (quiet_newUuid w) fun _ =>
    Keeps.bind (quiet_newText w) fun _ => Keeps.pure _

theorem quiet_prepareJob (job : JobSpecV1) : Keeps (Quiet Staging) (prepareJob cfg w job) := by
  refine Keeps.bind (quiet_placeJob cfg w job) fun choice => ?_
  refine Keeps.bind (quiet_mintLease cfg w _ job _ _) fun minted => ?_
  refine Keeps.bind (quiet_orRefuse _ _ _) fun lease => ?_
  exact Keeps.bind (quiet_stageJobInputs cfg w _ job) fun _ => Keeps.pure _

theorem quiet_placedOffer {K : EventKind → Prop} (offers : List ResourceOfferV1) (placement : ShardPlacement) :
    Keeps (Quiet K) (placedOffer offers placement) := by
  unfold placedOffer
  split
  · exact Keeps.pure _
  · exact Keeps.fail _

theorem quiet_checkShard {K : EventKind → Prop} (offers : List ResourceOfferV1) (p : JobSpecV1 × ShardPlacement) :
    Keeps (Quiet K) (checkShard cfg w offers p) :=
  Keeps.bind (quiet_placedOffer offers p.2) fun _ => Keeps.bind (quiet_utcNow w) fun _ => Keeps.ofExcept _

theorem quiet_stageShard (offers : List ResourceOfferV1) (p : JobSpecV1 × ShardPlacement) :
    Keeps (Quiet Staging) (stageShard cfg w offers p) :=
  Keeps.bind (quiet_placedOffer offers p.2) fun offer => quiet_stageJobInputs cfg w offer p.1

theorem quiet_mintShard {K : EventKind → Prop} (offers : List ResourceOfferV1) (p : JobSpecV1 × ShardPlacement) :
    Keeps (Quiet K) (mintShard cfg w offers p) :=
  Keeps.bind (quiet_placedOffer offers p.2) fun _ => Keeps.bind (quiet_mintLease cfg w _ _ _ _) fun _ =>
    Keeps.ofExcept _

theorem quiet_prepareShardSet (set : ShardSetV1) (now : Int) :
    Keeps (Quiet Staging) (prepareShardSet cfg w set now) := by
  refine Keeps.bind Keeps.get fun s => ?_
  refine Keeps.bind (Keeps.ofExcept _) fun placements => ?_
  refine Keeps.bind (Keeps.forEach (quiet_checkShard cfg w _) _) fun _ => ?_
  refine Keeps.bind (Keeps.forEach (quiet_stageShard cfg w _) _) fun _ => ?_
  exact Keeps.bind (Keeps.mapEach (quiet_mintShard cfg w _) _) fun _ => Keeps.pure _

/-! ## Minted leases -/

/-- Between `s` and `t` one lease was minted for each job, in order: with identifiers generated in
between, at the epoch of `s` and expiring after a clock reading made in between. -/
structure Minted (s t : Host) (jobs : List JobSpecV1) (leases : List CapabilityLeaseV1) : Prop where
  ids : ∃ us : List Nat, us.Pairwise (· < ·) ∧ (∀ u ∈ us, s.uuids ≤ u ∧ u < t.uuids) ∧
    leases.map (·.leaseId) = us.map w.uuid
  jobs : leases.map (·.jobId) = jobs.map (·.jobId)
  epoch : ∀ l ∈ leases, l.fencingEpoch = s.fencingEpoch
  fresh : ∀ l ∈ leases, ∃ r, s.reads ≤ r ∧ r < t.reads ∧ w.clock r < l.expiresAt

variable {cfg w}

theorem Minted.weaken {s₀ s t u : Host} {jobs : List JobSpecV1} {leases : List CapabilityLeaseV1}
    (h : Minted w s t jobs leases) (h₀ : Later s₀ s) (he : s.fencingEpoch = s₀.fencingEpoch) (hu : Later t u) :
    Minted w s₀ u jobs leases := by
  obtain ⟨us, hlt, hus, hids⟩ := h.ids
  refine ⟨⟨us, hlt, ?_, hids⟩, h.jobs, fun l hl => (h.epoch l hl).trans he, ?_⟩
  · intro i hi
    have := hus i hi
    have := h₀.uuids
    have := hu.uuids
    omega
  · intro l hl
    obtain ⟨r, hr, hr', hx⟩ := h.fresh l hl
    have := h₀.reads
    have := hu.reads
    exact ⟨r, by omega, by omega, hx⟩

theorem mintLease_ok {job : JobSpecV1} {offer : ResourceOfferV1} {node : Uuid} {s t : Host}
    {r : Except Denial CapabilityLeaseV1} (h : mintLease cfg w job offer node s = (.ok r, t)) :
    r = authorizeJobAtEpoch cfg.governor cfg.signLease job offer node s.fencingEpoch (w.clock s.reads)
        (w.uuid s.uuids) (w.text s.texts) ∧
      t = { s with reads := s.reads + 1, uuids := s.uuids + 1, texts := s.texts + 1 } := by
  cases h
  exact ⟨rfl, rfl⟩

/-- A lease that was minted at once. -/
theorem minted_single {job : JobSpecV1} {offer : ResourceOfferV1} {node : Uuid} {s t : Host}
    {lease : CapabilityLeaseV1} (h : mintLease cfg w job offer node s = (.ok (.ok lease), t)) :
    Minted w s t [job] [lease] ∧ lease.nodeId = node := by
  obtain ⟨hr, rfl⟩ := mintLease_ok h
  obtain ⟨hid, hjob, hnode, hepoch, _, hexp⟩ := authorizeJobAtEpoch_spec hr.symm
  refine ⟨⟨⟨[s.uuids], by simp, ?_, by simp [hid]⟩, by simp [hjob], ?_, ?_⟩, hnode⟩
  · intro u hu
    rw [List.mem_singleton] at hu
    subst hu
    exact ⟨le_rfl, Nat.lt_succ_self _⟩
  · intro l hl
    rw [List.mem_singleton] at hl
    rw [hl, hepoch]
  · intro l hl
    rw [List.mem_singleton] at hl
    subst hl
    exact ⟨s.reads, le_rfl, Nat.lt_succ_self _, hexp⟩

theorem Minted.cons {s s₁ t : Host} {job : JobSpecV1} {jobs : List JobSpecV1} {lease : CapabilityLeaseV1}
    {leases : List CapabilityLeaseV1} (h : Minted w s s₁ [job] [lease]) (h' : Minted w s₁ t jobs leases)
    (hs : Later s s₁) (he : s₁.fencingEpoch = s.fencingEpoch) (ht : Later s₁ t) :
    Minted w s t (job :: jobs) (lease :: leases) := by
  obtain ⟨us, _, hus, hids⟩ := h.ids
  obtain ⟨us', hlt', hus', hids'⟩ := h'.ids
  have hone : us.length = 1 := by simpa using (congrArg List.length hids).symm
  obtain ⟨u, rfl⟩ := List.length_eq_one_iff.1 hone
  have hu := hus u (List.mem_singleton_self u)
  have hsu := hs.uuids
  have htu := ht.uuids
  refine ⟨⟨u :: us', ?_, ?_, ?_⟩, ?_, ?_, ?_⟩
  · refine List.Pairwise.cons ?_ hlt'
    intro v hv
    have := hus' v hv
    omega
  · intro v hv
    rcases List.mem_cons.1 hv with rfl | hv
    · omega
    · have := hus' v hv
      omega
  · simp only [List.map_cons, List.cons.injEq] at hids ⊢
    exact ⟨hids.1, hids'⟩
  · have hj := h.jobs
    simp only [List.map_cons, List.cons.injEq] at hj ⊢
    exact ⟨hj.1, h'.jobs⟩
  · intro l hl
    rcases List.mem_cons.1 hl with rfl | hl
    · exact h.epoch l (List.mem_singleton_self l)
    · exact (h'.epoch l hl).trans he
  · intro l hl
    have hsr := hs.reads
    have htr := ht.reads
    rcases List.mem_cons.1 hl with rfl | hl
    · obtain ⟨r, h1, h2, h3⟩ := h.fresh l (List.mem_singleton_self l)
      exact ⟨r, h1, by omega, h3⟩
    · obtain ⟨r, h1, h2, h3⟩ := h'.fresh l hl
      exact ⟨r, by omega, h2, h3⟩

theorem prepareJob_ok {job : JobSpecV1} {s t : Host} {lease : CapabilityLeaseV1} {score : PlacementScore}
    (h : prepareJob cfg w job s = (.ok (lease, score), t)) : Minted w s t [job] [lease] := by
  obtain ⟨choice, s₁, h1, h⟩ := bind_ok h
  obtain ⟨minted, s₂, h2, h⟩ := bind_ok h
  obtain ⟨lease', s₃, h3, h⟩ := bind_ok h
  obtain ⟨_, s₄, h4, h⟩ := bind_ok h
  obtain ⟨hl, rfl⟩ := pure_ok h
  obtain ⟨rfl, rfl⟩ := orRefuse_ok h3
  have q1 := quiet_placeJob cfg w job s
  rw [h1] at q1
  have q4 := quiet_stageJobInputs cfg w choice.1 job s₃
  rw [h4] at q4
  have hm := (minted_single h2).1.weaken q1.later q1.fencingEpoch q4.later
  cases hl
  exact hm

theorem mintShards_ok {offers : List ResourceOfferV1} :
    ∀ {jobs : List JobSpecV1} {placements : List ShardPlacement} {s t : Host} {leases : List CapabilityLeaseV1},
      jobs.length = placements.length →
      mapEach (mintShard cfg w offers) (jobs.zip placements) s = (.ok leases, t) →
      Minted w s t jobs leases ∧ leases.map (·.nodeId) = placements.map (·.nodeId)
  | [], [], s, t, leases, _, h => by
    obtain ⟨rfl, rfl⟩ := pure_ok h
    exact ⟨⟨⟨[], by simp⟩, rfl, by simp, by simp⟩, rfl⟩
  | job :: jobs, p :: placements, s, t, leases, hl, h => by
    obtain ⟨lease, s₁, h1, h⟩ := bind_ok h
    obtain ⟨rest, s₂, h2, h⟩ := bind_ok h
    obtain ⟨rfl, rfl⟩ := pure_ok h
    change mapEach (mintShard cfg w offers) (jobs.zip placements) s₁ = (.ok rest, s₂) at h2
    obtain ⟨hm', hn'⟩ := mintShards_ok (by simpa using hl) h2
    have q := quiet_mintShard (K := Staging) cfg w offers (job, p) s
    rw [h1] at q
    have q' := Keeps.mapEach (R := Quiet Staging) (quiet_mintShard cfg w offers) (jobs.zip placements) s₁
    rw [h2] at q'
    obtain ⟨offer, s₃, h3, h1⟩ := bind_ok h1
    have q3 := quiet_placedOffer (K := Staging) offers p s
    rw [h3] at q3
    obtain ⟨minted, s₄, h4, h1⟩ := bind_ok h1
    obtain ⟨hr, rfl⟩ := ofExcept_ok h1
    cases minted with
    | error d => cases hr
    | ok lease' =>
      cases hr
      obtain ⟨hm, hn⟩ := minted_single h4
      have hm₀ := hm.weaken q3.later q3.fencingEpoch (Later.refl _)
      exact ⟨hm₀.cons hm' q.later q.fencingEpoch q'.later, by simp [hn, hn']⟩

theorem prepareShardSet_ok {set : ShardSetV1} {now : Int} {s t : Host} {leases : List CapabilityLeaseV1}
    {placements : List ShardPlacement} (h : prepareShardSet cfg w set now s = (.ok (leases, placements), t)) :
    Minted w s t set.shards leases ∧ leases.map (·.nodeId) = placements.map (·.nodeId) := by
  obtain ⟨s', s₀, h0, h⟩ := bind_ok h
  cases h0
  obtain ⟨placements', s₁, h1, h⟩ := bind_ok h
  obtain ⟨_, s₂, h2, h⟩ := bind_ok h
  obtain ⟨_, s₃, h3, h⟩ := bind_ok h
  obtain ⟨leases', s₄, h4, h⟩ := bind_ok h
  obtain ⟨hl, rfl⟩ := pure_ok h
  cases hl
  obtain ⟨hplan, rfl⟩ := ofExcept_ok h1
  have hlen : set.shards.length = placements.length := by
    cases hp : planShardSet set (placementOffers (w.order s.reads) s.toAppState) s.reservations cfg.admissionPolicy now
        (shardInputLocality s.toAppState (placementOffers (w.order s.reads) s.toAppState) set) with
    | error f =>
      rw [hp] at hplan
      cases hplan
    | ok ps =>
      rw [hp] at hplan
      cases hplan
      simpa using (congrArg List.length (planShardSet_jobs hp)).symm
  have q2 := Keeps.forEach (R := Quiet Staging) (quiet_checkShard cfg w
    (placementOffers (w.order s.reads) s.toAppState)) (set.shards.zip placements) s
  rw [h2] at q2
  have q3 := Keeps.forEach (R := Quiet Staging) (quiet_stageShard cfg w
    (placementOffers (w.order s.reads) s.toAppState)) (set.shards.zip placements) s₂
  rw [h3] at q3
  have q := q2.trans q3
  obtain ⟨hm, hn⟩ := mintShards_ok hlen h4
  exact ⟨hm.weaken q.later q.fencingEpoch (Later.refl _), hn⟩

/-! ## `submit_job` -/

/-- The events of a submitted job before its lease. -/
def Submitting (k : EventKind) : Prop := k = .jobProposed ∨ Staging k

/-- A job admitted from `s`: prepared up to `s₁` and recorded in `t`. -/
structure JobAdmitted (w : World) (s : Host) (job : JobSpecV1) (lease : CapabilityLeaseV1) (score : PlacementScore)
    (s₁ t : Host) : Prop where
  unbound : boundAssignment s.toAppState job.idempotencyKey = none
  quiet : Quiet Submitting s s₁
  proposed : ∃ es, s₁.ledger = s.ledger ++ .jobProposed job :: es ∧ ∀ e ∈ es, Staging e.kind
  minted : Minted w s s₁ [job] [lease]
  result : t = recordJob w job lease
    { s₁ with ledger := s₁.ledger ++ [.leaseIssued lease score], appends := s₁.appends + 1 }

theorem admitJob_cases (job : JobSpecV1) {s : Host} (hb : boundAssignment s.toAppState job.idempotencyKey = none) :
    (Quiet Submitting s (admitJob cfg w job s).2 ∧ ∀ lease, (admitJob cfg w job s).1 ≠ .ok lease) ∨
      ∃ lease score s₁, (admitJob cfg w job s).1 = .ok lease ∧
        JobAdmitted w s job lease score s₁ (admitJob cfg w job s).2 := by
  have q1 := quiet_append (K := Submitting) (e := .jobProposed job) w (Or.inl rfl) s
  rcases h1 : append w (.jobProposed job) s with ⟨e | u, s₁⟩
  · rw [h1] at q1
    unfold admitJob
    rw [bind_of_error h1]
    exact Or.inl ⟨q1, fun _ h => by cases h⟩
  rw [h1] at q1
  obtain ⟨_, hs₁⟩ := append_ok h1
  have q2 := quiet_prepareJob cfg w job s₁
  rcases h2 : prepareJob cfg w job s₁ with ⟨e | ⟨lease, score⟩, s₂⟩
  · rw [h2] at q2
    unfold admitJob
    rw [bind_of_ok h1, bind_of_error h2]
    exact Or.inl ⟨q1.trans (q2.mono fun _ => Or.inr), fun _ h => by cases h⟩
  rw [h2] at q2
  have hq := q1.trans (q2.mono fun _ => Or.inr)
  obtain ⟨es, hes, hst⟩ := q2.events
  have hled : s₂.ledger = s.ledger ++ .jobProposed job :: es := by
    rw [hes, hs₁]
    simp
  rcases h3 : append w (.leaseIssued lease score) s₂ with ⟨e | u, s₃⟩
  · obtain ⟨_, rfl⟩ := append_error h3
    unfold admitJob
    rw [bind_of_ok h1, bind_of_ok h2, bind_of_error h3]
    refine Or.inl ⟨hq.trans (Quiet.of_later ⟨le_rfl, Nat.le_succ _, le_rfl⟩ rfl), fun _ h => by cases h⟩
  obtain ⟨_, rfl⟩ := append_ok h3
  have hrun : admitJob cfg w job s = (.ok lease, recordJob w job lease
      { s₂ with ledger := s₂.ledger ++ [.leaseIssued lease score], appends := s₂.appends + 1 }) := by
    unfold admitJob
    rw [bind_of_ok h1, bind_of_ok h2, bind_of_ok h3]
    rfl
  rw [hrun]
  have hm := (prepareJob_ok h2).weaken q1.later q1.fencingEpoch (Later.refl s₂)
  exact Or.inr ⟨lease, score, s₂, rfl, hb, hq, ⟨es, hled, hst⟩, hm, rfl⟩

theorem quiet_submitJobArrive {K : EventKind → Prop} (job : JobSpecV1) :
    Keeps (Quiet K) (submitJobArrive w job) :=
  Keeps.bind quiet_refuseWhileKilled fun _ => Keeps.bind (quiet_utcNow w) fun _ => quiet_orRefuse _ _ _

/-- Under the gate, `submit_job` answers from the tables or admits the job. -/
theorem submitJobGated_cases (job : JobSpecV1) (s : Host) :
    (Quiet Submitting s (submitJobGated cfg w job s).2 ∧
        ∀ lease, (submitJobGated cfg w job s).1 ≠ .ok (.accepted, lease)) ∨
      ∃ lease score s₁, (submitJobGated cfg w job s).1 = .ok (.accepted, lease) ∧
        JobAdmitted w s job lease score s₁ (submitJobGated cfg w job s).2 := by
  cases hb : boundAssignment s.toAppState job.idempotencyKey with
  | some existing =>
    unfold submitJobGated
    rw [get_bind, hb]
    dsimp only
    refine Or.inl ⟨(Keeps.bind (Keeps.ensure _ _) fun _ => Keeps.pure _) s, ?_⟩
    intro lease h
    obtain ⟨_, s₁, _, h⟩ := bind_ok (Prod.ext h rfl)
    cases (pure_ok h).1
  | none =>
    unfold submitJobGated
    rw [get_bind, hb]
    dsimp only
    rcases h : admitJob cfg w job s with ⟨e | lease, t⟩
    · rw [bind_of_error h]
      rcases admitJob_cases job hb with ⟨hq, _⟩ | ⟨lease, _, _, hok, _⟩
      · rw [h] at hq
        exact Or.inl ⟨hq, fun _ h => by cases h⟩
      · rw [h] at hok
        cases hok
    · rw [bind_of_ok h]
      rcases admitJob_cases job hb with ⟨_, hno⟩ | ⟨lease', score, s₁, hok, hadm⟩
      · rw [h] at hno
        exact absurd rfl (hno lease)
      · rw [h] at hok hadm
        cases hok
        exact Or.inr ⟨lease, score, s₁, rfl, hadm⟩

theorem JobAdmitted.of_silent {s₀ s s₁ t : Host} {job : JobSpecV1} {lease : CapabilityLeaseV1}
    {score : PlacementScore} (h : JobAdmitted w s job lease score s₁ t) (h₀ : Quiet (fun _ => False) s₀ s) :
    JobAdmitted w s₀ job lease score s₁ t := by
  refine ⟨?_, (h₀.mono fun _ => False.elim).trans h.quiet, ?_, ?_, h.result⟩
  · have hb := h.unbound
    unfold boundAssignment at hb ⊢
    rw [h₀.idempotency, h₀.assignments] at hb
    exact hb
  · obtain ⟨es, hes, hst⟩ := h.proposed
    rw [h₀.ledger_eq] at hes
    exact ⟨es, hes, hst⟩
  · exact h.minted.weaken h₀.later h₀.fencingEpoch (Later.refl s₁)

/-- `submit_job` leaves the tables alone and does not answer `ACCEPTED`, or it admits the job. -/
theorem submitJob_cases (job : JobSpecV1) (s : Host) :
    (Quiet Submitting s (submitJob cfg w job s).2 ∧ ∀ lease, (submitJob cfg w job s).1 ≠ .ok (.accepted, lease)) ∨
      ∃ lease score s₁, (submitJob cfg w job s).1 = .ok (.accepted, lease) ∧
        JobAdmitted w s job lease score s₁ (submitJob cfg w job s).2 := by
  have q := quiet_submitJobArrive (w := w) (K := fun _ => False) job s
  unfold submitJob
  rcases h : submitJobArrive w job s with ⟨e | u, s'⟩
  · rw [h] at q
    rw [bind_of_error h]
    exact Or.inl ⟨q.mono fun _ => False.elim, fun _ h => by cases h⟩
  · rw [h] at q
    rw [bind_of_ok h]
    rcases @submitJobGated_cases cfg w job s' with ⟨hq, hno⟩ | ⟨lease, score, s₁, hok, hadm⟩
    · exact Or.inl ⟨(q.mono fun _ => False.elim).trans hq, hno⟩
    · exact Or.inr ⟨lease, score, s₁, hok, hadm.of_silent q⟩

/-! ## `submit_shard_set` -/

/-- A shard set admitted from `s` at the clock reading `now`: prepared up to `s₁` and recorded in `t`. -/
structure ShardSetAdmitted (w : World) (s : Host) (set : ShardSetV1) (now : Int) (leases : List CapabilityLeaseV1)
    (placements : List ShardPlacement) (s₁ t : Host) : Prop where
  valid : set.validateAt now = .ok ()
  unbound : ∀ r ∈ s.shardSets.values, r.spec.idempotencyKey ≠ set.idempotencyKey
  keys : ∀ job ∈ set.shards, shardKeyTaken s.toAppState job = false
  quiet : Quiet Staging s s₁
  minted : Minted w s s₁ set.shards leases
  nodes : leases.map (·.nodeId) = placements.map (·.nodeId)
  result : t = recordShardSet set now leases placements
    { s₁ with ledger := s₁.ledger ++ [.shardSetAdmitted set leases placements], appends := s₁.appends + 1 }

/-- An answer that admits a set, and not a replay. -/
def IsNewAdmission (r : Except HttpError ShardSetAdmission) : Prop := ∃ a, r = .ok a ∧ a.idempotentReplay = false

theorem admitShardSet_cases (set : ShardSetV1) {now : Int} {s : Host} (hv : set.validateAt now = .ok ())
    (hu : ∀ r ∈ s.shardSets.values, r.spec.idempotencyKey ≠ set.idempotencyKey)
    (hk : ∀ job ∈ set.shards, shardKeyTaken s.toAppState job = false) :
    (Quiet Staging s (admitShardSet cfg w set now s).2 ∧ ¬ IsNewAdmission (admitShardSet cfg w set now s).1) ∨
      ∃ leases placements s₁, (admitShardSet cfg w set now s).1 =
          .ok ⟨.accepted, set.setId, set.minimumSuccesses, leases, some placements, false⟩ ∧
        ShardSetAdmitted w s set now leases placements s₁ (admitShardSet cfg w set now s).2 := by
  have q1 := quiet_prepareShardSet cfg w set now s
  rcases h1 : prepareShardSet cfg w set now s with ⟨e | ⟨leases, placements⟩, s₁⟩
  · rw [h1] at q1
    unfold admitShardSet
    rw [bind_of_error h1]
    exact Or.inl ⟨q1, fun ⟨_, h, _⟩ => by cases h⟩
  rw [h1] at q1
  rcases h2 : append w (.shardSetAdmitted set leases placements) s₁ with ⟨e | u, s₂⟩
  · obtain ⟨_, rfl⟩ := append_error h2
    unfold admitShardSet
    rw [bind_of_ok h1, bind_of_error h2]
    exact Or.inl ⟨q1.trans (Quiet.of_later ⟨le_rfl, Nat.le_succ _, le_rfl⟩ rfl), fun ⟨_, h, _⟩ => by cases h⟩
  obtain ⟨_, rfl⟩ := append_ok h2
  have hrun : admitShardSet cfg w set now s =
      (.ok ⟨.accepted, set.setId, set.minimumSuccesses, leases, some placements, false⟩,
        recordShardSet set now leases placements
          { s₁ with ledger := s₁.ledger ++ [.shardSetAdmitted set leases placements], appends := s₁.appends + 1 }) := by
    unfold admitShardSet
    rw [bind_of_ok h1, bind_of_ok h2]
    rfl
  rw [hrun]
  obtain ⟨hm, hn⟩ := prepareShardSet_ok h1
  exact Or.inr ⟨leases, placements, s₁, rfl, hv, hu, hk, q1, hm, hn, rfl⟩

/-- Under the gate, `submit_shard_set` answers from the tables or admits the set. -/
theorem submitShardSetGated_cases (set : ShardSetV1) {now : Int} (hv : set.validateAt now = .ok ()) (s : Host) :
    (Quiet Staging s (submitShardSetGated cfg w set now s).2 ∧
        ¬ IsNewAdmission (submitShardSetGated cfg w set now s).1) ∨
      ∃ leases placements s₁, (submitShardSetGated cfg w set now s).1 =
          .ok ⟨.accepted, set.setId, set.minimumSuccesses, leases, some placements, false⟩ ∧
        ShardSetAdmitted w s set now leases placements s₁ (submitShardSetGated cfg w set now s).2 := by
  cases hb : boundShardSet (w.order s.reads) s.toAppState set.idempotencyKey with
  | some existing =>
    unfold submitShardSetGated
    rw [get_bind, hb]
    dsimp only
    refine Or.inl ⟨(Keeps.bind (Keeps.ensure _ _) fun _ => Keeps.pure _) s, ?_⟩
    rintro ⟨a, h, hr⟩
    obtain ⟨_, s₁, _, h⟩ := bind_ok (Prod.ext h rfl)
    rw [← (pure_ok h).1] at hr
    cases hr
  | none =>
    have hu : ∀ r ∈ s.shardSets.values, r.spec.idempotencyKey ≠ set.idempotencyKey := by
      intro r hr
      have := List.find?_eq_none.1 hb r (((w.order s.reads).mem_apply).2 hr)
      simpa using this
    unfold submitShardSetGated
    rw [get_bind, hb]
    dsimp only
    rcases h : (ensure (!set.shards.any (shardKeyTaken s.toAppState))
      { status := .conflict, error := "a shard idempotency key is already bound to another job" } : Request Unit) s
      with ⟨e | u, s₁⟩
    · have q := Keeps.ensure (R := Quiet Staging) (!set.shards.any (shardKeyTaken s.toAppState))
        ({ status := .conflict, error := "a shard idempotency key is already bound to another job" } : HttpError) s
      rw [h] at q
      rw [bind_of_error h]
      exact Or.inl ⟨q, fun ⟨_, h, _⟩ => by cases h⟩
    · rw [bind_of_ok h]
      obtain ⟨hk, rfl⟩ := ensure_ok h
      have hk' : ∀ job ∈ set.shards, shardKeyTaken s.toAppState job = false := by simpa using hk
      exact admitShardSet_cases set hv hu hk'

theorem submitShardSetArrive_ok {set : ShardSetV1} {s t : Host} {now : Int}
    (h : submitShardSetArrive w set s = (.ok now, t)) :
    s.killLatch = false ∧ now = w.clock s.reads ∧ set.validateAt now = .ok () := by
  obtain ⟨_, s₁, h1, h'⟩ := bind_ok h
  obtain ⟨now', s₂, h2, h''⟩ := bind_ok h'
  obtain ⟨_, s₃, h3, h4⟩ := bind_ok h''
  obtain ⟨hk, hs⟩ := refuseWhileKilled_ok h1
  obtain ⟨hn, _⟩ := utcNow_ok h2
  obtain ⟨hv, _⟩ := orRefuse_ok h3
  obtain ⟨hnow, _⟩ := pure_ok h4
  rw [← hnow]
  exact ⟨hk, by rw [hn, hs], hv⟩

theorem quiet_submitShardSetArrive {K : EventKind → Prop} (set : ShardSetV1) :
    Keeps (Quiet K) (submitShardSetArrive w set) :=
  Keeps.bind quiet_refuseWhileKilled fun _ => Keeps.bind (quiet_utcNow w) fun _ =>
    Keeps.bind (quiet_orRefuse _ _ _) fun _ => Keeps.pure _

theorem ShardSetAdmitted.of_silent {s₀ s s₁ t : Host} {set : ShardSetV1} {now : Int}
    {leases : List CapabilityLeaseV1} {placements : List ShardPlacement}
    (h : ShardSetAdmitted w s set now leases placements s₁ t) (h₀ : Quiet (fun _ => False) s₀ s) :
    ShardSetAdmitted w s₀ set now leases placements s₁ t := by
  refine ⟨h.valid, ?_, ?_, (h₀.mono fun _ => False.elim).trans h.quiet, ?_, h.nodes, h.result⟩
  · rw [← h₀.shardSets]
    exact h.unbound
  · intro job hj
    have := h.keys job hj
    unfold shardKeyTaken at this ⊢
    rw [← h₀.idempotency]
    exact this
  · exact h.minted.weaken h₀.later h₀.fencingEpoch (Later.refl s₁)

/-- `submit_shard_set` leaves the tables alone and answers with no new admission, or it admits the
set, at the clock reading it arrived at. -/
theorem submitShardSet_cases (set : ShardSetV1) (s : Host) :
    (Quiet Staging s (submitShardSet cfg w set s).2 ∧ ¬ IsNewAdmission (submitShardSet cfg w set s).1) ∨
      ∃ leases placements s₁, (submitShardSet cfg w set s).1 =
          .ok ⟨.accepted, set.setId, set.minimumSuccesses, leases, some placements, false⟩ ∧
        ShardSetAdmitted w s set (w.clock s.reads) leases placements s₁ (submitShardSet cfg w set s).2 := by
  have q := quiet_submitShardSetArrive (w := w) (K := fun _ => False) set s
  unfold submitShardSet
  rcases h : submitShardSetArrive w set s with ⟨e | now, s'⟩
  · rw [h] at q
    rw [bind_of_error h]
    exact Or.inl ⟨q.mono fun _ => False.elim, fun ⟨_, h, _⟩ => by cases h⟩
  · rw [h] at q
    rw [bind_of_ok h]
    obtain ⟨_, rfl, hv⟩ := submitShardSetArrive_ok h
    rcases @submitShardSetGated_cases cfg w set _ hv s' with
      ⟨hq, hno⟩ | ⟨leases, placements, s₁, hok, hadm⟩
    · exact Or.inl ⟨(q.mono fun _ => False.elim).trans hq, hno⟩
    · exact Or.inr ⟨leases, placements, s₁, hok, hadm.of_silent q⟩

end Rampage.Controller
