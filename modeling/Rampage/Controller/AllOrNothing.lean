/-
The admission of a shard set is all or nothing. `submit_shard_set` ends in one of three ways: it
fails with the tables of an admission untouched, it installs every member of the set with its record
under one event, or it answers again with the leases of the record the set's key is bound to.
The records are kept by set id while a replay looks for the key, and nothing compares the ids: a set
is answered with its leases exactly while its admission stands, and not any more once another set of
the same id was admitted.
-/
import Rampage.Controller.Scenario

namespace Rampage.Controller

open Rampage.Protocol Rampage.Planner Rampage.Governor Rampage.Ledger Handler

variable {cfg : Config} {w : World}

/-! ## The three outcomes -/

/-- The tables an admission writes are as before, and no admission was recorded. -/
structure Untouched (s t : Host) : Prop where
  assignments : t.assignments = s.assignments
  idempotency : t.idempotency = s.idempotency
  reservations : t.reservations = s.reservations
  shardSets : t.shardSets = s.shardSets
  events : ∃ es, t.ledger = s.ledger ++ es ∧ ∀ e ∈ es, e.kind ≠ .shardSetAdmitted

/-- One lease for each shard, in shard order: for the shard's job, at the node it was placed on. -/
structure Leased (set : ShardSetV1) (leases : List CapabilityLeaseV1) (placements : List ShardPlacement) : Prop where
  jobs : leases.map (·.jobId) = set.shards.map (·.jobId)
  placed : placements.map (·.jobId) = set.shards.map (·.jobId)
  nodes : leases.map (·.nodeId) = placements.map (·.nodeId)

/-- The plan of a set that arrives in `s`, made after the one clock reading of its arrival. -/
def arrivalPlan (cfg : Config) (w : World) (set : ShardSetV1) (s : Host) :
    Except ShardPlanningFailure (List ShardPlacement) :=
  let offers := placementOffers (w.order (s.reads + 1)) s.toAppState
  planShardSet set offers s.reservations cfg.admissionPolicy (w.clock s.reads)
    (shardInputLocality s.toAppState offers set)

/-- A set admitted from `s` stands in `t` with everything it is made of. -/
structure Installed (cfg : Config) (w : World) (s : Host) (set : ShardSetV1) (leases : List CapabilityLeaseV1)
    (placements : List ShardPlacement) (t : Host) : Prop where
  planned : arrivalPlan cfg w set s = .ok placements
  leased : Leased set leases placements
  assignments : ∀ m ∈ set.shards.zip leases, t.assignments.lookup m.1.jobId = some ⟨m.1, m.2, false⟩
  idempotency : ∀ job ∈ set.shards, t.idempotency.lookup job.idempotencyKey = some job.jobId
  reservations : t.reservations = s.reservations.filter (w.clock s.reads < ·.expiresAt) ++
    (set.shards.zip leases).flatMap memberReservations
  record : t.shardSets = s.shardSets.insert set.setId ⟨set, leases⟩
  event : ∃ es, t.ledger = s.ledger ++ es ++ [.shardSetAdmitted set leases placements] ∧
    ∀ e ∈ es, e.kind ≠ .shardSetAdmitted

/-- The answer of an idempotent replay. -/
def replayAnswer (set : ShardSetV1) (leases : List CapabilityLeaseV1) : ShardSetAdmission :=
  ⟨.ok, set.setId, set.minimumSuccesses, leases, none, true⟩

/-- The ways `submit_shard_set` can end. -/
inductive Outcome (cfg : Config) (w : World) (set : ShardSetV1) (s : Host) :
    Except HttpError ShardSetAdmission × Host → Prop
  | refused {e : HttpError} {t : Host} (untouched : Untouched s t) : Outcome cfg w set s (.error e, t)
  | admitted {leases : List CapabilityLeaseV1} {placements : List ShardPlacement} {t : Host}
      (installed : Installed cfg w s set leases placements t) :
      Outcome cfg w set s (.ok ⟨.accepted, set.setId, set.minimumSuccesses, leases, some placements, false⟩, t)
  | replayed {id : Uuid} {leases : List CapabilityLeaseV1} {t : Host}
      (stored : s.shardSets.lookup id = some ⟨set, leases⟩) (same : t.toAppState = s.toAppState) :
      Outcome cfg w set s (.ok (replayAnswer set leases), t)

/-! ## Arrival and replay -/

theorem submitShardSetArrive_of_valid {set : ShardSetV1} {s : Host} (hk : s.killLatch = false)
    (hv : set.validateAt (w.clock s.reads) = .ok ()) :
    submitShardSetArrive w set s = (.ok (w.clock s.reads), { s with reads := s.reads + 1 }) := by
  have hkill : refuseWhileKilled s = (.ok (), s) := by simp [refuseWhileKilled, hk]
  unfold submitShardSetArrive
  rw [bind_of_ok hkill, utcNow_bind, hv]
  rfl

/-- An answered set passed its arrival and was answered under the gate. -/
theorem submitShardSet_gated {set : ShardSetV1} {s t : Host} {a : ShardSetAdmission}
    (h : submitShardSet cfg w set s = (.ok a, t)) :
    submitShardSetGated cfg w set (w.clock s.reads) { s with reads := s.reads + 1 } = (.ok a, t) := by
  obtain ⟨now, s₁, h1, h⟩ := bind_ok h
  obtain ⟨hk, hnow, hv⟩ := submitShardSetArrive_ok h1
  rw [hnow] at hv
  rw [submitShardSetArrive_of_valid hk hv, Prod.mk.injEq, Except.ok.injEq] at h1
  obtain ⟨rfl, rfl⟩ := h1
  exact h

/-- A set whose key is bound to a record of the same set is answered from the record. -/
theorem submitShardSet_of_bound {set : ShardSetV1} {leases : List CapabilityLeaseV1} {s : Host}
    (hk : s.killLatch = false) (hv : set.validateAt (w.clock s.reads) = .ok ())
    (hb : boundShardSet (w.order (s.reads + 1)) s.toAppState set.idempotencyKey = some ⟨set, leases⟩) :
    submitShardSet cfg w set s = (.ok (replayAnswer set leases), { s with reads := s.reads + 1 }) := by
  unfold submitShardSet
  rw [bind_of_ok (submitShardSetArrive_of_valid hk hv)]
  unfold submitShardSetGated
  rw [get_bind]
  dsimp only
  rw [hb]
  simp only [beq_self_eq_true]
  rfl

/-- An answer that is no new admission comes from a stored record of the same set. -/
theorem submitShardSet_replayed {set : ShardSetV1} {s t : Host} {a : ShardSetAdmission}
    (h : submitShardSet cfg w set s = (.ok a, t)) (hr : ¬ IsNewAdmission (.ok a)) :
    ∃ id leases, s.shardSets.lookup id = some ⟨set, leases⟩ ∧ a = replayAnswer set leases ∧
      t.toAppState = s.toAppState := by
  have h := submitShardSet_gated h
  unfold submitShardSetGated at h
  rw [get_bind] at h
  dsimp only at h
  cases hb : boundShardSet (w.order (s.reads + 1)) s.toAppState set.idempotencyKey with
  | some existing =>
    rw [hb] at h
    obtain ⟨_, s₂, h2, h⟩ := bind_ok h
    obtain ⟨hspec, rfl⟩ := ensure_ok h2
    obtain ⟨rfl, rfl⟩ := pure_ok h
    obtain ⟨spec, leases⟩ := existing
    rw [beq_iff_eq] at hspec
    dsimp only at hspec
    subst hspec
    have hmem := (w.order (s.reads + 1)).mem_apply.1 (List.mem_of_find?_eq_some hb)
    obtain ⟨id, hid⟩ := (Table.mem_values _ _).1 hmem
    exact ⟨id, leases, hid, rfl, rfl⟩
  | none =>
    rw [hb] at h
    obtain ⟨_, s₂, h2, h⟩ := bind_ok h
    obtain ⟨_, s₃, _, h⟩ := bind_ok h
    obtain ⟨_, s₄, _, h⟩ := bind_ok h
    obtain ⟨_, s₅, _, h⟩ := bind_ok h
    exact absurd ⟨a, rfl, by rw [← (pure_ok h).1]⟩ hr

/-- The placements of a new admission are the plan made on arrival. -/
theorem submitShardSet_planned {set : ShardSetV1} {s t : Host} {a : ShardSetAdmission}
    {placements : List ShardPlacement} (h : submitShardSet cfg w set s = (.ok a, t))
    (ha : a.placements = some placements) : arrivalPlan cfg w set s = .ok placements := by
  have h := submitShardSet_gated h
  unfold submitShardSetGated at h
  rw [get_bind] at h
  dsimp only at h
  -- a set admitted before is answered without placements
  cases hb : boundShardSet (w.order (s.reads + 1)) s.toAppState set.idempotencyKey with
  | some existing =>
    rw [hb] at h
    obtain ⟨_, s₂, _, h⟩ := bind_ok h
    rw [← (pure_ok h).1] at ha
    cases ha
  | none =>
    rw [hb] at h
    obtain ⟨_, s₂, h2, h⟩ := bind_ok h
    obtain ⟨_, rfl⟩ := ensure_ok h2
    obtain ⟨prepared, s₃, h3, h⟩ := bind_ok h
    obtain ⟨_, s₄, _, h⟩ := bind_ok h
    obtain ⟨_, s₅, _, h⟩ := bind_ok h
    rw [← (pure_ok h).1] at ha
    obtain ⟨s', s₆, h6, h3⟩ := bind_ok h3
    cases h6
    obtain ⟨plan, s₇, h7, h3⟩ := bind_ok h3
    obtain ⟨_, s₈, _, h3⟩ := bind_ok h3
    obtain ⟨_, s₉, _, h3⟩ := bind_ok h3
    obtain ⟨leases, s₁₀, _, h3⟩ := bind_ok h3
    -- the answer carries the placements that the preparation planned
    have hplan : plan = placements := by
      have := (pure_ok h3).1
      rw [← this] at ha
      exact Option.some.inj ha
    subst hplan
    have hok := (ofExcept_ok h7).1
    unfold arrivalPlan
    dsimp only at hok ⊢
    cases hp : planShardSet set (placementOffers (w.order (s.reads + 1)) s.toAppState) s.reservations
        cfg.admissionPolicy (w.clock s.reads)
        (shardInputLocality s.toAppState (placementOffers (w.order (s.reads + 1)) s.toAppState) set) with
    | error f =>
      rw [hp] at hok
      cases hok
    | ok ps =>
      rw [hp] at hok
      cases hok
      rfl

/-! ## Every submission has an outcome -/

theorem untouched_of_quiet {s t : Host} (h : Quiet Staging s t) : Untouched s t := by
  obtain ⟨es, hes, hst⟩ := h.events
  refine ⟨h.assignments, h.idempotency, h.reservations, h.shardSets, es, hes, ?_⟩
  intro e he hk
  rcases hst e he with h | h | h <;> rw [h] at hk <;> cases hk

theorem ShardSetAdmitted.installed {s s₁ t : Host} {set : ShardSetV1} {leases : List CapabilityLeaseV1}
    {placements : List ShardPlacement} (h : ShardSetAdmitted w s set (w.clock s.reads) leases placements s₁ t)
    (hp : arrivalPlan cfg w set s = .ok placements) : Installed cfg w s set leases placements t := by
  have hadm := h.admission
  have hlen : leases.length = set.shards.length := by simpa using congrArg List.length h.minted.jobs
  have hfst : (set.shards.zip leases).map (·.1) = set.shards := List.map_fst_zip (by omega)
  have hsnd : (set.shards.zip leases).map (·.2) = leases := List.map_snd_zip (by omega)
  refine ⟨hp, ⟨h.minted.jobs, planShardSet_jobs hp, h.nodes⟩, ?_, ?_, ?_, ?_, ?_⟩
  · intro m hm
    rw [hadm.assignments]
    refine Table.lookup_insertAll_of_mem ?_ (List.mem_map.2 ⟨m, hm, rfl⟩)
    rw [List.map_map]
    exact hadm.distinct
  · intro job hj
    rw [← hfst] at hj
    obtain ⟨m, hm, rfl⟩ := List.mem_map.1 hj
    rw [hadm.idempotency]
    refine Table.lookup_insertAll_of_mem ?_ (List.mem_map.2 ⟨m, hm, rfl⟩)
    rw [List.map_map]
    exact hadm.distinctKeys
  · have hnodes : (set.shards.zip leases).map (·.2.nodeId) = placements.map (·.nodeId) := by
      rw [← h.nodes]
      conv_rhs => rw [← hsnd]
      rw [List.map_map]
      rfl
    rw [h.result, recordShardSet, recordShards_eq]
    show s₁.reservations.filter _ ++ _ = _
    rw [h.quiet.reservations, zip_reservations hnodes]
  · rw [h.result, recordShardSet, recordShards_eq]
    show s₁.shardSets.insert _ _ = _
    rw [h.quiet.shardSets]
  · obtain ⟨es, hes, hno⟩ := (untouched_of_quiet h.quiet).events
    refine ⟨es, ?_, hno⟩
    rw [h.result, recordShardSet, recordShards_eq]
    show s₁.ledger ++ _ = _
    rw [hes]

theorem submitShardSet_outcome (set : ShardSetV1) (s : Host) : Outcome cfg w set s (submitShardSet cfg w set s) := by
  rcases hrun : submitShardSet cfg w set s with ⟨r, t⟩
  rcases @submitShardSet_cases cfg w set s with ⟨hq, hno⟩ | ⟨leases, placements, s₁, hok, hadm⟩
  · rw [hrun] at hq hno
    cases r with
    | error e => exact .refused (untouched_of_quiet hq)
    | ok a =>
      obtain ⟨id, leases, hid, rfl, hsame⟩ := submitShardSet_replayed hrun hno
      exact .replayed hid hsame
  · rw [hrun] at hok hadm
    dsimp only at hok hadm
    subst hok
    exact .admitted (hadm.installed (submitShardSet_planned hrun rfl))

/-! ## Runs -/

/-- Events that leave the set records of a replay alone. -/
def PassesSets (k : EventKind) : Prop := k ≠ .shardSetAdmitted ∧ k ≠ .nodeRevoked

theorem replayEvent_shardSets {now : Int} {epoch : Nat} {r : Replay} {e : Event} (h : PassesSets e.kind) :
    (replayEvent now epoch r e).shardSets = r.shardSets := by
  cases e with
  | shardSetAdmitted => exact absurd rfl h.1
  | nodeRevoked => exact absurd rfl h.2
  | inviteCreated =>
    unfold replayEvent
    dsimp only
    split <;> rfl
  | _ => rfl

theorem replay_append_shardSets {now : Int} {epoch : Nat} {l : List Event} : ∀ {es : List Event},
    (∀ e ∈ es, PassesSets e.kind) → (replay now epoch (l ++ es)).shardSets = (replay now epoch l).shardSets := by
  intro es
  induction es using List.reverseRecOn with
  | nil => intro _; rw [List.append_nil]
  | append_singleton es e ih =>
    intro h
    rw [← List.append_assoc, replay_snoc, replayEvent_shardSets (h e (by simp)),
      ih fun e' he' => h e' (List.mem_append_left _ he')]

/-- The event takes the record of a set away: it admits a set of the same id, or revokes a node of its leases. -/
def Displaces (set : ShardSetV1) (leases : List CapabilityLeaseV1) : Event → Prop
  | .shardSetAdmitted other _ _ => other.setId = set.setId
  | .nodeRevoked nodeId _ _ => ∃ lease ∈ leases, lease.nodeId = nodeId
  | _ => False

/-- The set was admitted with these leases, and no event since has displaced it. -/
def Standing (set : ShardSetV1) (leases : List CapabilityLeaseV1) (l : List Event) : Prop :=
  ∃ pre placements post, l = pre ++ .shardSetAdmitted set leases placements :: post ∧ ∀ e ∈ post, ¬ Displaces set leases e

theorem standing_snoc {set : ShardSetV1} {leases : List CapabilityLeaseV1} {l : List Event} {e : Event} :
    Standing set leases (l ++ [e]) ↔
      (∃ placements, e = .shardSetAdmitted set leases placements) ∨ Standing set leases l ∧ ¬ Displaces set leases e := by
  constructor
  · rintro ⟨pre, placements, post, heq, hpost⟩
    rcases List.eq_nil_or_concat post with rfl | ⟨post, e', rfl⟩
    · exact Or.inl ⟨placements, List.singleton_injective (List.append_inj' heq rfl).2⟩
    · rw [List.concat_eq_append, ← List.cons_append, ← List.append_assoc] at heq
      obtain ⟨hl, he⟩ := List.append_inj' heq rfl
      obtain rfl := List.singleton_injective he
      rw [List.concat_eq_append] at hpost
      exact Or.inr ⟨⟨pre, placements, post, hl, fun e' he' => hpost e' (List.mem_append_left _ he')⟩, hpost e (by simp)⟩
  · rintro (⟨placements, rfl⟩ | ⟨⟨pre, placements, post, rfl, hpost⟩, he⟩)
    · exact ⟨l, placements, [], rfl, by simp⟩
    · refine ⟨pre, placements, post ++ [e], by simp, fun e' he' => ?_⟩
      rcases List.mem_append.1 he' with he' | he'
      · exact hpost e' he'
      · rw [List.mem_singleton.1 he']
        exact he

theorem not_displaces_of_passes {set : ShardSetV1} {leases : List CapabilityLeaseV1} {e : Event} (h : PassesSets e.kind) :
    ¬ Displaces set leases e := by
  cases e with
  | shardSetAdmitted => exact absurd rfl h.1
  | nodeRevoked => exact absurd rfl h.2
  | _ => exact id

/-- An admission takes the place of every other under its id. -/
theorem standing_admitted_same {set other : ShardSetV1} {leases leases' : List CapabilityLeaseV1}
    {placements : List ShardPlacement} {l : List Event} (h : set.setId = other.setId) :
    Standing set leases (l ++ [.shardSetAdmitted other leases' placements]) ↔ other = set ∧ leases' = leases := by
  rw [standing_snoc]
  constructor
  · rintro (⟨placements', heq⟩ | ⟨-, hnot⟩)
    · rw [Event.shardSetAdmitted.injEq] at heq
      exact ⟨heq.1, heq.2.1⟩
    · exact absurd h.symm hnot
  · rintro ⟨rfl, rfl⟩
    exact Or.inl ⟨placements, rfl⟩

/-- And leaves those under other ids. -/
theorem standing_admitted_other {set other : ShardSetV1} {leases leases' : List CapabilityLeaseV1}
    {placements : List ShardPlacement} {l : List Event} (h : set.setId ≠ other.setId) :
    Standing set leases (l ++ [.shardSetAdmitted other leases' placements]) ↔ Standing set leases l := by
  rw [standing_snoc]
  constructor
  · rintro (⟨placements', heq⟩ | ⟨hstands, -⟩)
    · rw [Event.shardSetAdmitted.injEq] at heq
      exact absurd (congrArg ShardSetV1.setId heq.1).symm h
    · exact hstands
  · exact fun hstands => Or.inr ⟨hstands, fun heq => h heq.symm⟩

/-- A revocation ends what was leased to its node. -/
theorem standing_revoked {set : ShardSetV1} {leases : List CapabilityLeaseV1} {nodeId : Uuid} {name key : String}
    {l : List Event} : Standing set leases (l ++ [.nodeRevoked nodeId name key]) ↔
      Standing set leases l ∧ leases.all (·.nodeId != nodeId) = true := by
  rw [standing_snoc]
  simp [Displaces]

/-- A replay keeps the record of a set while its admission stands, under the id of the set. -/
theorem lookup_replay_iff {now : Int} {epoch : Nat} {id : Uuid} {set : ShardSetV1} {leases : List CapabilityLeaseV1}
    (l : List Event) : (replay now epoch l).shardSets.lookup id = some ⟨set, leases⟩ ↔
      id = set.setId ∧ Standing set leases l := by
  induction l using List.reverseRecOn with
  | nil =>
    rw [replay_nil]
    constructor
    · intro h
      cases h
    · rintro ⟨-, pre, placements, post, heq, -⟩
      simp at heq
  | append_singleton l e ih =>
    rw [replay_snoc]
    by_cases hp : PassesSets e.kind
    · have hne : ¬ ∃ placements, e = .shardSetAdmitted set leases placements := by
        rintro ⟨placements, rfl⟩
        exact hp.1 rfl
      rw [replayEvent_shardSets hp, ih, standing_snoc]
      simp only [hne, false_or, not_displaces_of_passes hp, not_false_iff, and_true]
    · cases e with
      | shardSetAdmitted other leases' placements =>
        show (AList.insert other.setId ⟨other, leases'⟩ (replay now epoch l).shardSets).lookup id = _ ↔ _
        rw [Table.lookup_insert']
        by_cases hid : id = other.setId
        · rw [if_pos hid, Option.some.injEq, ShardSetRecord.mk.injEq]
          constructor
          · rintro ⟨rfl, rfl⟩
            exact ⟨hid, (standing_admitted_same rfl).2 ⟨rfl, rfl⟩⟩
          · rintro ⟨rfl, hstands⟩
            exact (standing_admitted_same hid).1 hstands
        · rw [if_neg hid, ih]
          refine and_congr_right fun hset => ?_
          subst hset
          exact (standing_admitted_other hid).symm
      | nodeRevoked nodeId name key =>
        show (((replay now epoch l).shardSets.retain fun _ s => s.leases.all (·.nodeId != nodeId)).lookup id) = _ ↔ _
        rw [Table.lookup_retain, Option.filter_eq_some_iff, ih, standing_revoked, and_assoc]
      | artifactHeld held artifact nodeId =>
        cases held <;> exact absurd (by simp [PassesSets, Event.kind, HeldKind.kind]) hp
      | _ => exact absurd (by simp [PassesSets, Event.kind]) hp

/-- The set records are those a replay of the ledger gives, and no two have one key. -/
structure SetsOnRecord (s : Host) : Prop where
  replayed : ∀ u e, (replay u e s.ledger).shardSets = s.shardSets
  unique : ∀ id id' r r', s.shardSets.lookup id = some r → s.shardSets.lookup id' = some r' →
    r.spec.idempotencyKey = r'.spec.idempotencyKey → id = id'

theorem SetsOnRecord.of_same {s t : Host} (h : SetsOnRecord s) (hsets : t.shardSets = s.shardSets)
    (hev : ∃ es, t.ledger = s.ledger ++ es ∧ ∀ e ∈ es, PassesSets e.kind) : SetsOnRecord t := by
  obtain ⟨es, hes, hp⟩ := hev
  constructor
  · intro u e
    rw [hes, replay_append_shardSets hp, hsets]
    exact h.replayed u e
  · rw [hsets]
    exact h.unique

theorem SetsOnRecord.of_frame {K : EventKind → Prop} {s t : Host} (h : SetsOnRecord s) (hf : Frame K s t)
    (hK : ∀ k, K k → PassesSets k) : SetsOnRecord t := by
  obtain ⟨es, hes, hk⟩ := hf.events
  exact h.of_same hf.shardSets ⟨es, hes, fun e he => hK _ (hk e he)⟩

/-- A revocation drops records, in memory and in the replay. -/
theorem SetsOnRecord.forget {s : Host} (h : SetsOnRecord s) (nodeId : Uuid) (name key : String) :
    SetsOnRecord (forgetNode nodeId { s with
      ledger := s.ledger ++ [.nodeRevoked nodeId name key]
      reads := s.reads + 1
      appends := s.appends + 1 }) := by
  have hsub : ∀ id r, (s.shardSets.retain fun _ r => r.leases.all (·.nodeId != nodeId)).lookup id = some r →
      s.shardSets.lookup id = some r := by
    intro id r hr
    rw [Table.lookup_retain, Option.filter_eq_some_iff] at hr
    exact hr.1
  constructor
  · intro u e
    show (replay u e (s.ledger ++ [_])).shardSets = s.shardSets.retain fun _ r => r.leases.all (·.nodeId != nodeId)
    rw [replay_snoc, ← h.replayed u e]
    rfl
  · intro id id' r r' hr hr'
    exact h.unique id id' r r' (hsub id r hr) (hsub id' r' hr')

/-- An admission adds the record of its event, under a key no record has. -/
theorem SetsOnRecord.install {s t : Host} {set : ShardSetV1} {leases : List CapabilityLeaseV1}
    {placements : List ShardPlacement} (h : SetsOnRecord s) (hi : Installed cfg w s set leases placements t)
    (hev : ∃ es, t.ledger = s.ledger ++ es ++ [.shardSetAdmitted set leases placements] ∧
      ∀ e ∈ es, PassesSets e.kind)
    (hu : ∀ r ∈ s.shardSets.values, r.spec.idempotencyKey ≠ set.idempotencyKey) : SetsOnRecord t := by
  obtain ⟨es, hes, hp⟩ := hev
  have hfresh : ∀ id r, s.shardSets.lookup id = some r → r.spec.idempotencyKey ≠ set.idempotencyKey :=
    fun id r hr => hu r ((Table.mem_values _ _).2 ⟨id, hr⟩)
  constructor
  · intro u e
    rw [hes, replay_snoc, hi.record, ← h.replayed u e, ← replay_append_shardSets hp]
    rfl
  · intro id id' r r' hr hr' hkey
    rw [hi.record, Table.lookup_insert'] at hr hr'
    split at hr
    · rename_i hid
      rw [Option.some.injEq] at hr
      subst hr
      split at hr'
      · rename_i hid'
        rw [hid, hid']
      · exact absurd hkey.symm (hfresh id' r' hr')
    · split at hr'
      · rw [Option.some.injEq] at hr'
        subst hr'
        exact absurd hkey (hfresh id r hr)
      · exact h.unique id id' r r' hr hr' hkey

theorem passesSets_of_staging {k : EventKind} (h : Staging k) : PassesSets k := by
  rcases h with rfl | rfl | rfl <;> simp [PassesSets]

theorem SetsOnRecord.step {s : Host} (h : SetsOnRecord s) (op : Op) : SetsOnRecord (step cfg w op s).2 := by
  cases op with
  | createInvite =>
    refine h.of_frame (frame_createInvite s) ?_
    rintro k (rfl | rfl | rfl) <;> simp [PassesSets]
  | enrollNode request =>
    refine h.of_frame (frame_enrollNode request s) ?_
    rintro k (rfl | rfl | rfl) <;> simp [PassesSets]
  | revokeNode nodeId confirmed =>
    have hother : ∀ k, Other k → PassesSets k := by
      rintro k rfl
      simp [PassesSets]
    -- a revocation drops the records that name the node, here and in a replay
    rcases revokeNode_cases (w := w) nodeId confirmed s with hq | ⟨name, key, hq⟩
    · exact h.of_frame hq.toFrame hother
    · exact (h.forget nodeId name key).of_frame hq.toFrame hother
  | submitJob job =>
    have hsub : ∀ k, Submitting k → PassesSets k := by
      rintro k (rfl | hk)
      · simp [PassesSets]
      · exact passesSets_of_staging hk
    rcases @submitJob_cases cfg w job s with ⟨hq, _⟩ | ⟨lease, score, s₁, _, hadm⟩
    · exact h.of_frame hq.toFrame hsub
    · have h₁ := h.of_frame hadm.quiet.toFrame hsub
      show SetsOnRecord (submitJob cfg w job s).2
      rw [hadm.result]
      exact h₁.of_same rfl ⟨[.leaseIssued lease score], rfl, by simp [PassesSets, Event.kind]⟩
  | submitShardSet set =>
    -- the one place where a record is written
    rcases @submitShardSet_cases cfg w set s with ⟨hq, _⟩ | ⟨leases, placements, s₁, hok, hadm⟩
    · exact h.of_frame hq.toFrame fun _ => passesSets_of_staging
    · have hplan : arrivalPlan cfg w set s = .ok placements := submitShardSet_planned (Prod.ext hok rfl) rfl
      obtain ⟨es, hes, hst⟩ := hadm.quiet.events
      refine h.install (hadm.installed hplan) ⟨es, ?_, fun e he => passesSets_of_staging (hst e he)⟩ hadm.unbound
      show (submitShardSet cfg w set s).2.ledger = _
      rw [hadm.result, recordShardSet, recordShards_eq]
      show s₁.ledger ++ _ = _
      rw [hes]
  | claimWork nodeId =>
    rcases @claimWork_cases cfg w nodeId s with ⟨hq, _⟩ | ⟨jobId, a, _, ⟨_, _, ht⟩ | ⟨_, _, ht⟩⟩
    · exact h.of_frame hq.toFrame fun _ => False.elim
    · show SetsOnRecord (claimWork cfg w nodeId s).2
      rw [ht]
      exact h.of_same rfl ⟨[.jobClaimed (workClaim cfg a)], rfl, by simp [PassesSets, Event.kind]⟩
    · show SetsOnRecord (claimWork cfg w nodeId s).2
      rw [ht]
      exact h.of_same rfl ⟨[], (List.append_nil s.ledger).symm, by simp⟩
  | submitReceipt receipt =>
    rcases @submitReceipt_cases cfg w receipt s with ⟨hq, _⟩ | ⟨a, _, _, ⟨_, _, ht⟩ | ⟨_, hq⟩⟩
    · exact h.of_frame hq.toFrame fun _ => False.elim
    · show SetsOnRecord (submitReceipt cfg w receipt s).2
      rw [ht]
      exact h.of_same rfl ⟨[], (List.append_nil s.ledger).symm, by simp⟩
    · have h₁ : SetsOnRecord (receipted a receipt s) :=
        h.of_same rfl ⟨[.jobReceipted receipt], rfl, by simp [PassesSets, Event.kind]⟩
      refine h₁.of_frame hq.toFrame ?_
      rintro k rfl
      simp [PassesSets]
  | authorizePromotionCanary candidate =>
    refine h.of_frame (quiet_authorizePromotionCanary candidate s).toFrame ?_
    rintro k (rfl | rfl) <;> simp [PassesSets]
  | localStop =>
    have hh := halting_localStop (w := w) s
    obtain ⟨es, hes, hk⟩ := hh.events
    refine h.of_same hh.shardSets ⟨es, hes, fun e he => ?_⟩
    rcases hk e he with hk | hk | hk <;> simp [PassesSets, hk]
  | localResume confirmation =>
    have hh := (Keeps.bind (Keeps.ensure _ _) fun _ => halting_localResumeGated (w := w) :
      Keeps Halting (localResumeArrive confirmation >>= fun _ => localResumeGated w)) s
    obtain ⟨es, hes, hk⟩ := hh.events
    refine h.of_same hh.shardSets ⟨es, hes, fun e he => ?_⟩
    rcases hk e he with hk | hk | hk <;> simp [PassesSets, hk]
  | background b =>
    refine h.of_frame (quiet_background b s).toFrame fun k hk => ?_
    simp only [Passive, List.mem_cons, List.not_mem_nil, or_false, not_or] at hk
    exact ⟨hk.2.2.2.2.2.1, hk.2.1⟩
  | restart => exact h.of_same (h.replayed _ _) ⟨[], (List.append_nil s.ledger).symm, by simp⟩

theorem setsOnRecord_run (epoch : Nat) (artifactHead : String → Except String ArtifactRefV1) (ops : List Op) :
    SetsOnRecord ((machine cfg w).exec ops (initial epoch artifactHead)) := by
  refine (machine cfg w).state_invariant (C := fun _ _ => True) (fun s op hs _ => hs.step op) ops ?_
    ((machine cfg w).meets_of_forall (fun _ _ => trivial) ops _)
  constructor
  · intro u e
    show (replay u e []).shardSets = ∅
    rw [replay_nil]
    rfl
  · intro id id' r r' hr
    cases hr

/-- The one record with the set's key is found in whatever order the table is read. -/
theorem SetsOnRecord.bound {s : Host} (h : SetsOnRecord s) {id : Uuid} {r : ShardSetRecord}
    (hr : s.shardSets.lookup id = some r) (order : IterOrder) :
    boundShardSet order s.toAppState r.spec.idempotencyKey = some r := by
  unfold boundShardSet
  cases hf : (order.apply s.shardSets.values).find? (·.spec.idempotencyKey == r.spec.idempotencyKey) with
  | none =>
    have := List.find?_eq_none.1 hf r (order.mem_apply.2 ((Table.mem_values _ _).2 ⟨id, hr⟩))
    simp at this
  | some r' =>
    have hkey := List.find?_some hf
    simp only [beq_iff_eq] at hkey
    obtain ⟨id', hid'⟩ := (Table.mem_values _ _).1 (order.mem_apply.1 (List.mem_of_find?_eq_some hf))
    have := h.unique id' id r' r hid' hr hkey
    subst this
    rw [hr] at hid'
    exact hid'.symm

/-- In a run, a set's record is stored under its id while its admission stands. -/
theorem SetsOnRecord.lookup_iff {s : Host} (h : SetsOnRecord s) {id : Uuid} {set : ShardSetV1}
    {leases : List CapabilityLeaseV1} :
    s.shardSets.lookup id = some ⟨set, leases⟩ ↔ id = set.setId ∧ Standing set leases s.ledger := by
  rw [← h.replayed 0 0]
  exact lookup_replay_iff s.ledger

/-! ## The replay of an admitted set -/

/-- The set is answered again with these leases, and the tables and the ledger stay as they are. -/
def IsReplayed (cfg : Config) (w : World) (set : ShardSetV1) (leases : List CapabilityLeaseV1) (s : Host) : Prop :=
  (submitShardSet cfg w set s).1 = .ok (replayAnswer set leases) ∧ (submitShardSet cfg w set s).2.toAppState = s.toAppState

/-- A replay is answered from the record of its key, and only while the fabric runs and the set is valid. -/
theorem isReplayed_iff {set : ShardSetV1} {leases : List CapabilityLeaseV1} {s : Host} (h : SetsOnRecord s) :
    IsReplayed cfg w set leases s ↔ s.killLatch = false ∧ set.validateAt (w.clock s.reads) = .ok () ∧
      s.shardSets.lookup set.setId = some ⟨set, leases⟩ := by
  constructor
  · rintro ⟨hok, -⟩
    have hrun : submitShardSet cfg w set s = (.ok (replayAnswer set leases), (submitShardSet cfg w set s).2) := Prod.ext hok rfl
    obtain ⟨now, s₁, harrive, -⟩ := bind_ok hrun
    obtain ⟨hk, hnow, hv⟩ := submitShardSetArrive_ok harrive
    rw [hnow] at hv
    have hno : ¬ IsNewAdmission (.ok (replayAnswer set leases)) := by
      rintro ⟨a, ha, hnew⟩
      rw [← Except.ok.inj ha] at hnew
      cases hnew
    obtain ⟨id, leases', hstored, heq, -⟩ := submitShardSet_replayed hrun hno
    have hleases : leases' = leases := (congrArg ShardSetAdmission.leases heq).symm
    subst hleases
    obtain ⟨rfl, -⟩ := h.lookup_iff.1 hstored
    exact ⟨hk, hv, hstored⟩
  · rintro ⟨hk, hv, hstored⟩
    unfold IsReplayed
    rw [submitShardSet_of_bound hk hv (h.bound hstored _)]
    exact ⟨rfl, rfl⟩

/-- `submit_shard_set` is all or nothing: from every state it refuses and leaves what an admission
writes untouched, installs the whole set under one event, or replays a stored record. In every state
of a run, an admitted set is answered again with its leases, and changes nothing, exactly when the
fabric is not stopped, the set is still valid and its admission stands. -/
theorem shard_set_admission_is_all_or_nothing_iff (cfg : Config) (w : World) (set : ShardSetV1) :
    (∀ s, Outcome cfg w set s (submitShardSet cfg w set s)) ∧
      ∀ epoch artifactHead ops leases, let s := (machine cfg w).exec ops (initial epoch artifactHead)
        IsReplayed cfg w set leases s ↔ s.killLatch = false ∧ set.validateAt (w.clock s.reads) = .ok () ∧
          Standing set leases s.ledger := by
  refine ⟨submitShardSet_outcome set, ?_⟩
  intro epoch artifactHead ops leases s
  have h : SetsOnRecord s := setsOnRecord_run epoch artifactHead ops
  rw [isReplayed_iff h, h.lookup_iff]
  simp only [true_and]

/-- Two jobs as one set. -/
def Scenario.pairOf (key : String) (left right : JobSpecV1) : ShardSetV1 where
  schema := "rampage.shard-set.v1"
  setId := 20
  projectId := 1
  submittedBy := 1
  shards := [left, right]
  minimumSuccesses := 1
  deadline := seconds 100
  idempotencyKey := key

/-- Two jobs under the set key "set". -/
def Scenario.pair : ShardSetV1 := pairOf "set" (job 9 "a") (job 10 "b")

/-- Another set of the same id. -/
def Scenario.namesake : ShardSetV1 := pairOf "other" (job 11 "c") (job 12 "d")

/-- The leases the first admission of the set in a ledger recorded. -/
def Scenario.admittedWith (set : ShardSetV1) (l : List Event) : Option (List CapabilityLeaseV1) :=
  l.findSome? fun
    | .shardSetAdmitted other leases _ => if other = set then some leases else none
    | _ => none

open Scenario in
/-- The pair is admitted, and then the other set of its id: the pair is not answered with its leases again. -/
theorem namesake_displaces_pair : ¬ ∀ (cfg : Config) (w : World) (set : ShardSetV1) (epoch : Nat)
    (artifactHead : String → Except String ArtifactRefV1) (ops : List Op) (leases : List CapabilityLeaseV1)
    (placements : List ShardPlacement),
    .shardSetAdmitted set leases placements ∈ ((machine cfg w).exec ops (initial epoch artifactHead)).ledger →
    ((machine cfg w).exec ops (initial epoch artifactHead)).killLatch = false →
    set.validateAt (w.clock ((machine cfg w).exec ops (initial epoch artifactHead)).reads) = .ok () →
    IsReplayed cfg w set leases ((machine cfg w).exec ops (initial epoch artifactHead)) := by
  intro h
  have hlast := h config world pair 0 (fun _ => .error "missing") (setup ++ [.submitShardSet pair, .submitShardSet namesake])
  have hadmitted : (admittedWith pair ((machine config world).exec (setup ++ [.submitShardSet pair, .submitShardSet namesake])
      (initial 0 fun _ => .error "missing")).ledger).isSome = true := by decide +kernel
  have hrunning : ((machine config world).exec (setup ++ [.submitShardSet pair, .submitShardSet namesake])
      (initial 0 fun _ => .error "missing")).killLatch = false := by decide +kernel
  have hvalid : pair.validateAt (world.clock ((machine config world).exec
      (setup ++ [.submitShardSet pair, .submitShardSet namesake]) (initial 0 fun _ => .error "missing")).reads) = .ok () := by
    decide +kernel
  have hanswer : ((submitShardSet config world pair ((machine config world).exec
      (setup ++ [.submitShardSet pair, .submitShardSet namesake]) (initial 0 fun _ => .error "missing"))).1.toOption.map
        (·.idempotentReplay)) = some false := by
    decide +kernel
  -- the run itself need not be looked at again
  generalize (machine config world).exec (setup ++ [.submitShardSet pair, .submitShardSet namesake])
    (initial 0 fun _ => .error "missing") = s at hlast hadmitted hrunning hvalid hanswer
  obtain ⟨leases, hleases⟩ := Option.isSome_iff_exists.1 hadmitted
  obtain ⟨e, hmem, he⟩ := List.exists_of_findSome?_eq_some hleases
  split at he
  · rename_i other leases' placements
    split at he
    · rename_i hother
      subst hother
      have hreplay := (hlast leases' placements hmem hrunning hvalid).1
      rw [hreplay] at hanswer
      cases hanswer
    · cases he
  · cases he

end Rampage.Controller
