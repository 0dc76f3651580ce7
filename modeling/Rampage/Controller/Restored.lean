/-
The offers a restart restores. Every act of the fabric records at most one event about nodes and their offers; the
others change no record of either. `restored_offers_are_authentic_iff` says in which runs every offer that a startup at
a given time restores verifies under the restored identity and is younger than the last revocation: those in which no
enrolment puts an unexpired offer on record back into force that was revoked or that the new identity did not sign, and
no registration records an offer that the identity on record did not sign.
-/
import Rampage.Controller.OnRecord
import Rampage.Controller.Forgotten

namespace Rampage.Controller

open Rampage.Protocol Rampage.Planner Rampage.Governor Rampage.Ledger Handler

/-! ## What an act records -/

/-- `register_offer` records the offer: the last evidence is an hour old, and the ledger takes the benchmark and the
offer. -/
def recordsOffer (w : World) (d : Desk) (offer : ResourceOfferV1) : Bool :=
  shouldRecordOfferEvidence (d.offerEvidenceRecordedAt.lookup offer.nodeId) (w.clock d.reads) &&
    (w.appendFailure d.appends).isNone && (offer.linkBenchmark.isNone || (w.appendFailure (d.appends + 1)).isNone)

/-- The event about a node that a thread's lock records. -/
def Point.records (w : World) (d : Desk) : Point → Option Event
  | .recordOffer offer => if recordsOffer w d offer then some (.resourceOfferRegistered offer) else none
  | _ => none

/-- The event about a node that a lock under the gate records. -/
def Held.records (w : World) (d : Desk) : Held → Option Event
  | .recordRevocation nodeId identity =>
    if (w.appendFailure d.appends).isNone then some (.nodeRevoked nodeId identity.displayName identity.publicKey) else none
  | _ => none

/-- `enroll_node` records the enrolment: it reaches the node table, and the ledger takes the identity too. -/
def recordsEnrollment (cfg : Config) (w : World) (s : Host) (request : EnrollmentRequestV1) : Bool :=
  entersTable cfg w s request && (w.appendFailure (s.appends + 1)).isNone

/-- The event about a node that an act records. -/
def Act.records (cfg : Config) (w : World) (f : Fabric) : Act → Option Event
  | .run i _ => (f.threads[i]?).bind fun t => t.point.records w f.desk
  | .proceed => f.holder.bind fun p => p.records w f.desk
  | .enroll request => if recordsEnrollment cfg w f.desk.toHost request then some (.nodeEnrolled request.identity) else none
  | _ => none

/-! ## The other events -/

/-- Between `s` and `t` no event about a node or its offers was recorded. -/
def Adds (s t : Host) : Prop := ∃ es, t.ledger = s.ledger ++ es ∧ ∀ e ∈ es, e.kind ∉ deviceKinds

theorem Adds.of_eq {s t : Host} (h : t.ledger = s.ledger) : Adds s t := ⟨[], by simpa using h, by simp⟩

instance : Std.Refl Adds := ⟨fun _ => .of_eq rfl⟩

instance : IsTrans Host Adds where
  trans := by
    rintro s t u ⟨es, hes, hk⟩ ⟨es', hes', hk'⟩
    refine ⟨es ++ es', by rw [hes', hes, List.append_assoc], ?_⟩
    intro e he
    rcases List.mem_append.1 he with he | he
    · exact hk e he
    · exact hk' e he

/-- The same for the desk. -/
def DeskAdds (d d' : Desk) : Prop := Adds d.toHost d'.toHost

instance : Std.Refl DeskAdds := ⟨fun d => refl_of Adds d.toHost⟩

instance : IsTrans Desk DeskAdds := ⟨fun _ _ _ h h' => trans_of Adds h h'⟩

section

variable {cfg : Config} {x : Peers} {w : World}

theorem adds_of_quiet {α : Type} {K : EventKind → Prop} {y : Request α} (h : Keeps (Quiet K) y)
    (hK : ∀ k, K k → k ∉ deviceKinds) : Keeps Adds y := by
  intro s
  obtain ⟨es, hes, hk⟩ := (h s).events
  exact ⟨es, hes, fun e he => hK _ (hk e he)⟩

theorem adds_of_halting {α : Type} {y : Request α} (h : Keeps Halting y) : Keeps Adds y := by
  intro s
  obtain ⟨es, hes, hk⟩ := (h s).events
  refine ⟨es, hes, fun e he => ?_⟩
  rcases hk e he with hk | hk | hk <;> simp [hk, deviceKinds]

theorem adds_append {e : Event} (he : e.kind ∉ deviceKinds) : Keeps Adds (append w e) :=
  adds_of_quiet (K := fun k => k = e.kind) (quiet_append w rfl) fun _ hk => hk ▸ he

theorem adds_utcNow : Keeps Adds (utcNow w) := fun _ => .of_eq rfl

theorem adds_refuseWhileKilled : Keeps Adds refuseWhileKilled :=
  adds_of_quiet (K := fun _ => False) quiet_refuseWhileKilled fun _ => False.elim

theorem adds_refreshDiagnostics : Keeps Adds (refreshDiagnostics w) :=
  adds_of_quiet quiet_refreshDiagnostics fun k hk => by
    rw [show k = .other from hk]
    decide

theorem adds_remoteOffer (nodeId : Uuid) : Keeps Adds (remoteOffer cfg w nodeId) := by
  refine Keeps.bind Keeps.get fun s => ?_
  cases s.offers.lookup nodeId with
  | none => exact Keeps.fail _
  | some offer =>
    refine Keeps.bind adds_utcNow fun now => Keeps.bind (Keeps.ensure _ _) fun _ => ?_
    cases offer.meshEndpoint with
    | none => exact Keeps.fail _
    | some record => exact Keeps.bind (Keeps.bind adds_utcNow fun _ => Keeps.ensure _ _) fun _ => Keeps.pure _

theorem adds_renewLease (sessionId : Uuid) (current : RemoteDesktopSession) (offer : ResourceOfferV1) :
    Keeps Adds (renewLease cfg x w sessionId current offer) :=
  Keeps.bind Keeps.get fun _ => Keeps.bind adds_utcNow fun _ => Keeps.bind (fun _ => .of_eq rfl) fun _ =>
    Keeps.bind (fun _ => .of_eq rfl) fun _ => Keeps.ofExcept _

theorem adds_createInvite : Keeps Adds (createInvite cfg w) := by
  refine Keeps.bind (Keeps.ensure _ _) fun _ => Keeps.bind (fun _ => .of_eq rfl) fun inviteId => ?_
  refine Keeps.bind (fun _ => .of_eq rfl) fun secret => Keeps.bind adds_utcNow fun now => ?_
  refine Keeps.bind (Keeps.modify fun s => .of_eq rfl) fun _ => ?_
  exact Keeps.bind (adds_append (by simp [Event.kind, deviceKinds])) fun _ => Keeps.bind adds_utcNow fun _ => Keeps.pure _

theorem adds_onHost {α : Type} {y : Request α} (h : Keeps Adds y) : Keeps DeskAdds (onHost y) := fun d => h d.toHost

/-! ## The threads -/

/-- The lock of a thread that is not at its evidence checkpoint. -/
theorem adds_run {p : Point} (hp : ∀ offer, p ≠ .recordOffer offer) (answered : Bool) :
    Keeps DeskAdds (p.run cfg x w answered) := by
  -- what a Remote Assist handler records restores nothing
  have hother : ∀ (name : String) (subject : Subject), Keeps Adds (append w (.other name subject)) :=
    fun name subject => adds_append (by simp [Event.kind, deviceKinds])
  cases p with
  | assist use sessionId => exact Keeps.bind (adds_onHost adds_refuseWhileKilled) fun _ => Keeps.pure _
  | readSession use sessionId =>
    refine Keeps.bind (adds_onHost adds_utcNow) fun now => Keeps.bind Keeps.get fun d => ?_
    cases d.remoteDesktopSessions.lookup sessionId with
    | none => exact Keeps.fail _
    | some current => exact Keeps.ite (Keeps.pure _) (Keeps.pure _)
  | dropExpired sessionId => exact Keeps.bind (Keeps.modify fun d => .of_eq rfl) fun _ => Keeps.fail _
  | findOffer use sessionId current now =>
    exact Keeps.bind (adds_onHost (adds_remoteOffer _)) fun _ => Keeps.ite (Keeps.pure _) (Keeps.pure _)
  | renew use sessionId current offer =>
    exact Keeps.bind (adds_onHost (adds_renewLease _ _ _)) fun _ => Keeps.pure _
  | storeRenewed use sessionId current renewed => exact Keeps.bind (Keeps.modify fun d => .of_eq rfl) fun _ => Keeps.pure _
  | callWorker use sessionId lease =>
    cases use with
    | frame => exact Keeps.bind (Keeps.ensure _ _) fun _ => Keeps.pure _
    | input batchIsValid =>
      exact Keeps.bind (Keeps.ensure _ _) fun _ => Keeps.bind (Keeps.ensure _ _) fun _ =>
        Keeps.bind (Keeps.ensure _ _) fun _ => Keeps.pure _
  | markControl sessionId =>
    refine Keeps.bind Keeps.get fun d => ?_
    cases d.remoteDesktopSessions.lookup sessionId with
    | none => exact Keeps.pure _
    | some session => exact Keeps.bind (Keeps.modify fun d => .of_eq rfl) fun _ => Keeps.pure _
  | recordControl sessionId => exact Keeps.bind (adds_onHost (hother _ _)) fun _ => Keeps.pure _
  | close sessionId =>
    refine Keeps.bind Keeps.get fun d => ?_
    cases d.remoteDesktopSessions.lookup sessionId with
    | none => exact Keeps.pure _
    | some session => exact Keeps.bind (Keeps.modify fun d => .of_eq rfl) fun _ => Keeps.pure _
  | recordClose sessionId => exact Keeps.bind (adds_onHost (hother _ _)) fun _ => Keeps.pure _
  | registerOffer offer =>
    exact Keeps.bind (adds_onHost adds_utcNow) fun _ => Keeps.bind (Keeps.ensure _ _) fun _ => Keeps.pure _
  | readIdentity offer =>
    refine Keeps.bind Keeps.get fun d => ?_
    cases d.nodes.lookup offer.nodeId with
    | none => exact Keeps.fail _
    | some identity => exact Keeps.bind (Keeps.ofExcept _) fun _ => Keeps.pure _
  | recordOffer offer => exact absurd rfl (hp offer)
  | storeOffer offer => exact Keeps.bind (adds_onHost (Keeps.modify fun s => .of_eq rfl)) fun _ => Keeps.pure _
  | revoke nodeId confirmed => exact Keeps.bind (Keeps.ensure _ _) fun _ => Keeps.pure _
  | awaitStop => exact Keeps.pure _
  | awaitRevoke nodeId => exact Keeps.pure _

/-- Between `s` and `t` the event, if there is one, was recorded last, and no other about a node. -/
def Records (e : Option Event) (s t : Host) : Prop :=
  ∃ es, t.ledger = s.ledger ++ es ++ e.toList ∧ ∀ e' ∈ es, e'.kind ∉ deviceKinds

theorem Adds.records {s t : Host} (h : Adds s t) : Records none s t := by
  obtain ⟨es, hes, hk⟩ := h
  exact ⟨es, by simpa using hes, hk⟩

/-- The last append of a request records its event, if the ledger takes it. -/
theorem records_append (e : Event) (s : Host) :
    Records (if (w.appendFailure s.appends).isNone then some e else none) s (append w e s).2 := by
  cases hf : w.appendFailure s.appends with
  | none => exact ⟨[], by simp [append, hf], by simp⟩
  | some text => exact ⟨[], by simp [append, hf], by simp⟩

/-- What a request leaves on the host, if what follows it does not touch it. -/
theorem toHost_onHost_bind {α β : Type} {y : Request α} {k : α → Task β} (hk : ∀ a d, (k a d).2.toHost = d.toHost) (d : Desk) :
    ((onHost y >>= k) d).2.toHost = (y d.toHost).2 := by
  rcases h : y d.toHost with ⟨e | a, t⟩
  · rw [bind_of_error (onHost_eq h)]
  · rw [bind_of_ok (onHost_eq h)]
    exact hk a _

theorem onHost_utcNow_bind {α : Type} (k : Int → Task α) (d : Desk) :
    (onHost (utcNow w) >>= k) d = k (w.clock d.reads) { d with reads := d.reads + 1 } := rfl

theorem records_recordEvidence (offer : ResourceOfferV1) (s : Host) :
    Records (if (w.appendFailure s.appends).isNone && (offer.linkBenchmark.isNone || (w.appendFailure (s.appends + 1)).isNone)
      then some (.resourceOfferRegistered offer) else none) s (recordEvidence w offer s).2 := by
  unfold recordEvidence
  cases hb : offer.linkBenchmark with
  | none => simpa using records_append (.resourceOfferRegistered offer) s
  | some benchmark =>
    cases hf : w.appendFailure s.appends with
    | some text =>
      have herr : append w (.other "network.benchmark.recorded" (.id offer.nodeId)) s =
          (.error (internalError text), { s with appends := s.appends + 1 }) := by
        simp only [append, hf]
      dsimp only
      rw [bind_of_error herr]
      exact ⟨[], by simp, by simp⟩
    | none =>
      dsimp only
      rw [append_bind _ hf]
      obtain ⟨es, hes, hk⟩ := @records_append w (.resourceOfferRegistered offer)
        { s with ledger := s.ledger ++ [.other "network.benchmark.recorded" (.id offer.nodeId)], appends := s.appends + 1 }
      refine ⟨.other "network.benchmark.recorded" (.id offer.nodeId) :: es, ?_, ?_⟩
      · simpa using hes
      · intro e he
        rcases List.mem_cons.1 he with rfl | he
        · simp [Event.kind, deviceKinds]
        · exact hk e he

/-- What a thread's lock records. -/
theorem run_records (p : Point) (answered : Bool) (d : Desk) :
    Records (p.records w d) d.toHost (p.run cfg x w answered d).2.toHost := by
  by_cases hp : ∃ offer, p = .recordOffer offer
  · obtain ⟨offer, rfl⟩ := hp
    show Records (if recordsOffer w d offer then _ else _) d.toHost
      ((onHost (utcNow w) >>= fun now => get >>= fun d => _ : Task (Option Point)) d).2.toHost
    rw [onHost_utcNow_bind, get_bind]
    unfold recordsOffer
    dsimp only
    cases hshould : shouldRecordOfferEvidence (d.offerEvidenceRecordedAt.lookup offer.nodeId) (w.clock d.reads) with
    | false => exact (Adds.of_eq rfl).records
    | true =>
      rw [if_pos rfl, toHost_onHost_bind (fun _ _ => rfl)]
      exact records_recordEvidence offer { d.toHost with reads := d.reads + 1 }
  · have hne : ∀ offer, p ≠ .recordOffer offer := fun offer h => hp ⟨offer, h⟩
    have hnone : p.records w d = none := by
      cases p <;> first | rfl | exact absurd rfl (hne _)
    rw [hnone]
    exact (adds_run hne answered d).records

/-! ## The holder of the gate -/

theorem held_records (p : Held) (d : Desk) : Records (p.records w d) d.toHost (p.run w d).2.toHost := by
  cases p with
  | recordRevocation nodeId identity =>
    show Records _ d.toHost ((onHost (utcNow w) >>= fun _ => _ : Task (Option Held)) d).2.toHost
    rw [onHost_utcNow_bind, toHost_onHost_bind (fun _ _ => rfl)]
    exact records_append _ { d.toHost with reads := d.reads + 1 }
  | createLatch =>
    obtain ⟨r, latch, n, hrun, -⟩ := @createKillLatch_cases w d.toHost
    refine Adds.records (Adds.of_eq ?_)
    show ((onHost (createKillLatch w) >>= fun _ => _ : Task (Option Held)) d).2.toHost.ledger = _
    rw [toHost_onHost_bind (fun _ _ => rfl), hrun]
  | advanceEpoch =>
    exact Adds.records ((Keeps.bind (adds_onHost (adds_of_halting halting_advanceFencingEpoch)) fun _ => Keeps.pure _ :
      Keeps DeskAdds (Held.run w .advanceEpoch)) d)
  | writeMarker epoch =>
    obtain ⟨r, marker, n, hrun, -⟩ := @writeStopEpochMarker_cases w epoch d.toHost
    refine Adds.records (Adds.of_eq ?_)
    show ((onHost (writeStopEpochMarker w epoch) >>= fun _ => _ : Task (Option Held)) d).2.toHost.ledger = _
    rw [toHost_onHost_bind (fun _ _ => rfl), hrun]
  | recordStop epoch =>
    exact Adds.records ((Keeps.bind (adds_onHost (adds_append (by simp [Event.kind, deviceKinds]))) fun _ => Keeps.pure _ :
      Keeps DeskAdds (Held.run w (.recordStop epoch))) d)
  | findNode nodeId =>
    change Records none d.toHost ((get >>= _ : Task (Option Held)) d).2.toHost
    rw [get_bind]
    cases d.nodes.lookup nodeId <;> exact (Adds.of_eq rfl).records
  | scan nodeId =>
    exact Adds.records ((Keeps.bind (adds_onHost adds_refreshDiagnostics) fun _ => Keeps.pure _ :
      Keeps DeskAdds (Held.run w (.scan nodeId))) d)
  | _ => exact (Adds.of_eq rfl).records

/-! ## Every act -/

theorem records_enrollNode (request : EnrollmentRequestV1) (s : Host) :
    Records (if recordsEnrollment cfg w s request then some (.nodeEnrolled request.identity) else none) s
      (enrollNode cfg w request s).2 := by
  unfold recordsEnrollment
  rcases @enrollNode_state cfg w request s with ⟨hno, _, hledger⟩ | ⟨henters, hstate⟩
  · rw [hno]
    exact (Adds.of_eq hledger).records
  · rw [henters, hstate, Bool.true_and]
    obtain ⟨es, hes, hk⟩ := @records_append w (.nodeEnrolled request.identity) (enrolling request s)
    refine ⟨.inviteConsumed request.inviteId request.identity.nodeId :: es, ?_, ?_⟩
    · rw [hes]
      simp [enrolling]
    · intro e he
      rcases List.mem_cons.1 he with rfl | he
      · simp [Event.kind, deviceKinds]
      · exact hk e he

/-- What an act records. -/
theorem step_records (act : Act) (f : Fabric) :
    Records (act.records cfg w f) f.desk.toHost (fabricStep cfg x w act f).2.desk.toHost := by
  cases act with
  | arrive call => exact (Adds.of_eq rfl).records
  | run i answered =>
    show Records ((f.threads[i]?).bind _) _ (runThread cfg x w i answered f).2.desk.toHost
    cases ht : f.threads[i]? with
    | none =>
      rw [runThread_none ht]
      exact (Adds.of_eq rfl).records
    | some t =>
      rw [runThread_some ht]
      exact run_records t.point answered f.desk
  | acquire i =>
    show Records none _ (acquireGate i f).desk.toHost
    rw [(acquireGate_desk i f).1]
    exact (Adds.of_eq rfl).records
  | proceed =>
    show Records (f.holder.bind _) _ (runHeld w f).2.desk.toHost
    cases hh : f.holder with
    | none =>
      rw [runHeld_none hh]
      exact (Adds.of_eq rfl).records
    | some p =>
      rw [runHeld_some hh]
      exact held_records p f.desk
  | openSession s session =>
    show Records none _ (openSession s session f).desk.toHost
    unfold openSession
    split <;> exact (Adds.of_eq rfl).records
  | createInvite => exact (adds_createInvite f.desk.toHost).records
  | enroll request => exact records_enrollNode request f.desk.toHost
  | resume =>
    show Records none _ (resume w f).desk.toHost
    unfold resume
    split
    · exact (adds_of_halting halting_localResumeGated f.desk.toHost).records
    · exact (Adds.of_eq rfl).records
  | shellStop => exact (Adds.of_eq rfl).records
  | restart => exact (Adds.of_eq rfl).records

end

/-! ## Runs -/

/-- At a startup at the given time the record of what the act records is authentic. -/
def recordsAuthentic (cfg : Config) (x : Peers) (w : World) (now : Int) (f : Fabric) (act : Act) : Bool :=
  (act.records cfg w f).all (keepsAuthentic x now f.desk.ledger)

/-- Whenever the controller is restarted at the given time, in a run, the offers it restores are authentic. -/
def AlwaysRestoresAuthentic (cfg : Config) (x : Peers) (w : World) (order : IterOrder) (now : Int) (f : Fabric)
    (acts : List Act) : Prop :=
  ∀ before after, acts = before ++ after →
    RestoresAuthentic x order now ((fabric cfg x w).exec before f).desk.toAppState

section

variable {cfg : Config} {x : Peers} {w : World} {now : Int} {f : Fabric}

theorem authentic_step (h : Authentic x now f.desk.ledger) (act : Act) :
    Authentic x now (fabricStep cfg x w act f).2.desk.ledger ↔ recordsAuthentic cfg x w now f act = true := by
  obtain ⟨es, hes, hk⟩ := @step_records cfg x w act f
  change (fabricStep cfg x w act f).2.desk.ledger = f.desk.ledger ++ es ++ _ at hes
  have hmore := (@authentic_append x now f.desk.ledger es hk).2 h
  rw [hes]
  unfold recordsAuthentic
  cases act.records cfg w f with
  | none => simpa using hmore
  | some e =>
    rw [show f.desk.ledger ++ es ++ (some e).toList = (f.desk.ledger ++ es) ++ [e] from rfl, authentic_snoc hmore,
      Option.all_some]
    -- the events before it change neither record
    cases e with
    | nodeEnrolled identity => simp only [keepsAuthentic, (@onRecord_append identity.nodeId f.desk.ledger es hk).2]
    | resourceOfferRegistered offer => simp only [keepsAuthentic, (@onRecord_append offer.nodeId f.desk.ledger es hk).1]
    | _ => exact Iff.rfl

theorem authentic_nil : Authentic x now [] := by
  intro nodeId identity p hi
  cases hi

/-- From an authentic record: every restart restores authentic offers exactly if every act keeps the record so. -/
theorem restores_iff_meets (order : IterOrder) : ∀ (acts : List Act) (f : Fabric), Authentic x now f.desk.ledger →
    (AlwaysRestoresAuthentic cfg x w order now f acts ↔
      (fabric cfg x w).Meets (fun f act => recordsAuthentic cfg x w now f act = true) acts f)
  | [], f, h => by
    refine iff_of_true ?_ trivial
    intro before after hacts
    obtain ⟨rfl, rfl⟩ := List.append_eq_nil_iff.1 hacts.symm
    exact authentic_iff.2 h
  | act :: acts, f, h => by
    constructor
    · intro hall
      have hnext := authentic_iff.1 (hall [act] acts rfl)
      have hc := (authentic_step h act).1 hnext
      refine ⟨hc, (restores_iff_meets order acts _ hnext).1 ?_⟩
      intro before after hacts
      exact hall (act :: before) after (by rw [hacts]; rfl)
    · rintro ⟨hc, hm⟩ before after hacts
      cases before with
      | nil => exact authentic_iff.2 h
      | cons a before =>
        obtain ⟨rfl, htail⟩ := List.cons.inj hacts
        exact (restores_iff_meets order acts _ ((authentic_step h act).2 hc)).2 hm before after htail

end

/-- Every offer a startup at the given time restores verifies under the identity restored for its node and was recorded
after the node's last revocation, at every point of a run, exactly if no act of the run records an enrolment or an offer
that the record does not allow. -/
theorem restored_offers_are_authentic_iff (cfg : Config) (x : Peers) (w : World) (epoch : Nat)
    (head : String → Except String ArtifactRefV1) (order : IterOrder) (now : Int) (acts : List Act) :
    AlwaysRestoresAuthentic cfg x w order now (.initial epoch head) acts ↔
      (fabric cfg x w).Meets (fun f act => recordsAuthentic cfg x w now f act = true) acts (.initial epoch head) := by
  exact restores_iff_meets order acts _ authentic_nil

/-- A device that is revoked and enrolled again with another key gets back the offer it published before. -/
theorem enrolling_again_restores_old_offer : ¬ ∀ (cfg : Config) (x : Peers) (w : World) (epoch : Nat)
    (head : String → Except String ArtifactRefV1) (order : IterOrder) (now : Int) (acts : List Act),
    AlwaysRestoresAuthentic cfg x w order now (.initial epoch head) acts := by
  intro h
  have hrun := h Scenario.reachable Scenario.peers Scenario.world 0 (fun _ => .error "missing") .entries 100
    (Scenario.registering ++ [.run 0 true, .run 0 true] ++ Scenario.revoking 0 ++ [.proceed, .createInvite, .enroll Scenario.rival])
  rw [restores_iff_meets .entries _ _ authentic_nil] at hrun
  revert hrun
  decide +kernel

end Rampage.Controller
