/-
What a lock taken by a handler can do: most leave the offers, the nodes, the sessions and the facts of STOP alone, and
`Goes` lists the points a thread can go on to, with what it has found there. The results about interleavings are proved
by cases on these and never look into a handler again.
-/
import Rampage.Controller.Locks

namespace Rampage.Controller

open Rampage.Protocol Rampage.Planner Rampage.Governor Rampage.Ledger Handler

/-! ## What a lock changes -/

/-- Between `s` and `t` nothing happened to the offers, the nodes and the facts of STOP. -/
structure Idle (s t : Host) : Prop where
  offers : t.offers = s.offers
  nodes : t.nodes = s.nodes
  killLatch : t.killLatch = s.killLatch
  stopEpochMarker : t.stopEpochMarker = s.stopEpochMarker
  fencingEpoch : t.fencingEpoch = s.fencingEpoch

theorem Idle.refl (s : Host) : Idle s s := ⟨rfl, rfl, rfl, rfl, rfl⟩

theorem Idle.trans {s t u : Host} (h : Idle s t) (h' : Idle t u) : Idle s u :=
  ⟨h'.offers.trans h.offers, h'.nodes.trans h.nodes, h'.killLatch.trans h.killLatch,
    h'.stopEpochMarker.trans h.stopEpochMarker, h'.fencingEpoch.trans h.fencingEpoch⟩

instance : Std.Refl Idle := ⟨Idle.refl⟩

instance : IsTrans Host Idle := ⟨fun _ _ _ => Idle.trans⟩

/-- An idle step that leaves the sessions alone too. -/
structure Still (d d' : Desk) : Prop where
  host : Idle d.toHost d'.toHost
  sessions : d'.remoteDesktopSessions = d.remoteDesktopSessions

instance : Std.Refl Still := ⟨fun _ => ⟨Idle.refl _, rfl⟩⟩

instance : IsTrans Desk Still := ⟨fun _ _ _ h h' => ⟨h.host.trans h'.host, h'.sessions.trans h.sessions⟩⟩

section

variable {cfg : Config} {x : Peers} {w : World}

theorem idle_utcNow : Keeps Idle (utcNow w) := fun _ => ⟨rfl, rfl, rfl, rfl, rfl⟩

theorem idle_newUuid : Keeps Idle (newUuid w) := fun _ => ⟨rfl, rfl, rfl, rfl, rfl⟩

theorem idle_newText : Keeps Idle (newText w) := fun _ => ⟨rfl, rfl, rfl, rfl, rfl⟩

theorem idle_append (e : Event) : Keeps Idle (append w e) := by
  intro s
  unfold append
  split <;> exact ⟨rfl, rfl, rfl, rfl, rfl⟩

theorem idle_refuseWhileKilled : Keeps Idle refuseWhileKilled := by
  intro s
  unfold refuseWhileKilled
  split <;> exact Idle.refl s

theorem idle_refreshDiagnostics : Keeps Idle (refreshDiagnostics w) := by
  refine Keeps.bind Keeps.get fun s => Keeps.bind idle_utcNow fun _ => Keeps.bind ?_ fun _ => ?_
  · refine Keeps.ite (Keeps.bind (Keeps.mapError (idle_append _)) fun _ => ?_) (Keeps.pure ())
    exact Keeps.modify fun s => ⟨rfl, rfl, rfl, rfl, rfl⟩
  · exact Keeps.ite (Keeps.mapError (idle_append _)) (Keeps.pure ())

theorem idle_remoteOffer (nodeId : Uuid) : Keeps Idle (remoteOffer cfg w nodeId) := by
  refine Keeps.bind Keeps.get fun s => ?_
  cases s.offers.lookup nodeId with
  | none => exact Keeps.fail _
  | some offer =>
    refine Keeps.bind idle_utcNow fun now => Keeps.bind (Keeps.ensure _ _) fun _ => ?_
    cases offer.meshEndpoint with
    | none => exact Keeps.fail _
    | some record =>
      refine Keeps.bind (Keeps.bind idle_utcNow fun _ => Keeps.ensure _ _) fun _ => Keeps.pure _

theorem idle_renewLease (sessionId : Uuid) (current : RemoteDesktopSession) (offer : ResourceOfferV1) :
    Keeps Idle (renewLease cfg x w sessionId current offer) :=
  Keeps.bind Keeps.get fun _ => Keeps.bind idle_utcNow fun _ => Keeps.bind idle_newUuid fun _ =>
    Keeps.bind idle_newText fun _ => Keeps.ofExcept _

theorem idle_recordEvidence (offer : ResourceOfferV1) : Keeps Idle (recordEvidence w offer) := by
  unfold recordEvidence
  cases offer.linkBenchmark with
  | none => exact Keeps.bind (Keeps.pure ()) fun _ => idle_append _
  | some benchmark => exact Keeps.bind (idle_append _) fun _ => idle_append _

theorem still_onHost {α : Type} {y : Request α} (h : Keeps Idle y) : Keeps Still (onHost y) := fun d => ⟨h d.toHost, rfl⟩

/-- What `remote_offer` answers with is in the table. -/
theorem remoteOffer_ok {nodeId : Uuid} {s t : Host} {offer : ResourceOfferV1}
    (h : remoteOffer cfg w nodeId s = (.ok offer, t)) : s.offers.lookup nodeId = some offer := by
  unfold remoteOffer at h
  rw [get_bind] at h
  cases hl : s.offers.lookup nodeId with
  | none =>
    simp only [hl] at h
    cases h
  | some found =>
    simp only [hl] at h
    obtain ⟨now, s₁, h1, h⟩ := bind_ok h
    obtain ⟨u, s₂, h2, h⟩ := bind_ok h
    cases hm : found.meshEndpoint with
    | none =>
      simp only [hm] at h
      cases h
    | some record =>
      simp only [hm] at h
      obtain ⟨u, s₃, h3, h⟩ := bind_ok h
      rw [(pure_ok h).1]

/-- A renewed lease is for the node of the offer. -/
theorem renewLease_ok {sessionId : Uuid} {current : RemoteDesktopSession} {offer : ResourceOfferV1} {s t : Host}
    {renewed : RemoteDesktopLeaseV1} (h : renewLease cfg x w sessionId current offer s = (.ok renewed, t)) :
    renewed.nodeId = offer.nodeId := by
  unfold renewLease at h
  rw [get_bind] at h
  obtain ⟨now, s₁, _, h⟩ := bind_ok h
  obtain ⟨leaseId, s₂, _, h⟩ := bind_ok h
  obtain ⟨nonce, s₃, _, h⟩ := bind_ok h
  exact authorizeRemoteDesktopAtEpoch_nodeId (orRefuse_ok h).1

theorem onHost_eq {α : Type} {y : Request α} {d : Desk} {r : Except HttpError α} {t : Host} (h : y d.toHost = (r, t)) :
    onHost y d = (r, { d with toHost := t }) := by
  simp only [onHost, h]

theorem onHost_ok {α : Type} {y : Request α} {d d' : Desk} {a : α} (h : onHost y d = (.ok a, d')) :
    ∃ t, y d.toHost = (.ok a, t) ∧ d' = { d with toHost := t } := by
  simp only [onHost, Prod.mk.injEq] at h
  exact ⟨(y d.toHost).2, Prod.ext h.1 rfl, h.2.symm⟩

/-! ## The threads -/

/-- The points that touch neither the sessions nor the offers. -/
def Point.isStill : Point → Bool
  | .dropExpired _ => false
  | .storeRenewed .. => false
  | .markControl _ => false
  | .close _ => false
  | .storeOffer _ => false
  | _ => true

theorem still_run {p : Point} (hp : p.isStill = true) (answered : Bool) : Keeps Still (p.run cfg x w answered) := by
  cases p with
  | assist use sessionId => exact Keeps.bind (still_onHost idle_refuseWhileKilled) fun _ => Keeps.pure _
  | readSession use sessionId =>
    refine Keeps.bind (still_onHost idle_utcNow) fun now => Keeps.bind Keeps.get fun d => ?_
    cases d.remoteDesktopSessions.lookup sessionId with
    | none => exact Keeps.fail _
    | some current => exact Keeps.ite (Keeps.pure _) (Keeps.pure _)
  | findOffer use sessionId current now =>
    exact Keeps.bind (still_onHost (idle_remoteOffer _)) fun _ => Keeps.ite (Keeps.pure _) (Keeps.pure _)
  | renew use sessionId current offer =>
    exact Keeps.bind (still_onHost (idle_renewLease _ _ _)) fun _ => Keeps.pure _
  | callWorker use sessionId lease =>
    cases use with
    | frame => exact Keeps.bind (Keeps.ensure _ _) fun _ => Keeps.pure _
    | input batchIsValid =>
      exact Keeps.bind (Keeps.ensure _ _) fun _ => Keeps.bind (Keeps.ensure _ _) fun _ =>
        Keeps.bind (Keeps.ensure _ _) fun _ => Keeps.pure _
  | recordControl sessionId => exact Keeps.bind (still_onHost (idle_append _)) fun _ => Keeps.pure _
  | recordClose sessionId => exact Keeps.bind (still_onHost (idle_append _)) fun _ => Keeps.pure _
  | registerOffer offer =>
    exact Keeps.bind (still_onHost idle_utcNow) fun _ => Keeps.bind (Keeps.ensure _ _) fun _ => Keeps.pure _
  | readIdentity offer =>
    refine Keeps.bind Keeps.get fun d => ?_
    cases d.nodes.lookup offer.nodeId with
    | none => exact Keeps.fail _
    | some identity => exact Keeps.bind (Keeps.ofExcept _) fun _ => Keeps.pure _
  | recordOffer offer =>
    refine Keeps.bind (still_onHost idle_utcNow) fun now => Keeps.bind Keeps.get fun d => Keeps.ite ?_ (Keeps.pure _)
    refine Keeps.bind (still_onHost (idle_recordEvidence _)) fun _ => Keeps.bind ?_ fun _ => Keeps.pure _
    exact Keeps.modify fun d => ⟨Idle.refl _, rfl⟩
  | revoke nodeId confirmed => exact Keeps.bind (Keeps.ensure _ _) fun _ => Keeps.pure _
  | awaitStop => exact Keeps.pure _
  | awaitRevoke nodeId => exact Keeps.pure _
  | dropExpired | storeRenewed | markControl | close | storeOffer => cases hp

/-- No lock of a thread changes the nodes or the facts of STOP. -/
structure Steady (s t : Host) : Prop where
  nodes : t.nodes = s.nodes
  killLatch : t.killLatch = s.killLatch
  stopEpochMarker : t.stopEpochMarker = s.stopEpochMarker
  fencingEpoch : t.fencingEpoch = s.fencingEpoch

theorem Idle.steady {s t : Host} (h : Idle s t) : Steady s t :=
  ⟨h.nodes, h.killLatch, h.stopEpochMarker, h.fencingEpoch⟩

/-- A lock that is not still leaves the nodes and the facts of STOP alone too. -/
theorem steady_run (p : Point) (answered : Bool) (d : Desk) :
    Steady d.toHost (p.run cfg x w answered d).2.toHost := by
  by_cases hp : p.isStill = true
  · exact (still_run hp answered d).host.steady
  · cases p with
    | dropExpired sessionId => exact ⟨rfl, rfl, rfl, rfl⟩
    | storeRenewed use sessionId current renewed => exact ⟨rfl, rfl, rfl, rfl⟩
    | markControl sessionId =>
      change Steady d.toHost ((get >>= _ : Task (Option Point)) d).2.toHost
      rw [get_bind]
      cases d.remoteDesktopSessions.lookup sessionId <;> exact ⟨rfl, rfl, rfl, rfl⟩
    | close sessionId =>
      change Steady d.toHost ((get >>= _ : Task (Option Point)) d).2.toHost
      rw [get_bind]
      cases d.remoteDesktopSessions.lookup sessionId <;> exact ⟨rfl, rfl, rfl, rfl⟩
    | storeOffer offer => exact ⟨rfl, rfl, rfl, rfl⟩
    | _ => exact absurd rfl hp

/-- The offers after a lock that a thread takes. -/
def Point.offersAfter (p : Point) (offers : Table Uuid ResourceOfferV1) : Table Uuid ResourceOfferV1 :=
  match p with
  | .storeOffer offer => offers.insert offer.nodeId offer
  | _ => offers

theorem run_offers (p : Point) (answered : Bool) (d : Desk) :
    (p.run cfg x w answered d).2.offers = p.offersAfter d.offers := by
  by_cases hp : p.isStill = true
  · rw [(still_run hp answered d).host.offers]
    cases p <;> first | rfl | cases hp
  · cases p with
    | dropExpired sessionId => rfl
    | storeRenewed use sessionId current renewed => rfl
    | markControl sessionId =>
      change ((get >>= _ : Task (Option Point)) d).2.offers = _
      rw [get_bind]
      cases d.remoteDesktopSessions.lookup sessionId <;> rfl
    | close sessionId =>
      change ((get >>= _ : Task (Option Point)) d).2.offers = _
      rw [get_bind]
      cases d.remoteDesktopSessions.lookup sessionId <;> rfl
    | storeOffer offer => rfl
    | _ => exact absurd rfl hp

/-! ## Enrolment and restarts -/

/-- The offers are the same. -/
def SameOffers (s t : Host) : Prop := t.offers = s.offers

instance : Std.Refl SameOffers := ⟨fun _ => rfl⟩

instance : IsTrans Host SameOffers := ⟨fun _ _ _ h h' => Eq.trans h' h⟩

theorem sameOffers_of_idle {α : Type} {y : Request α} (h : Keeps Idle y) : Keeps SameOffers y := fun s => (h s).offers

theorem sameOffers_createInvite : Keeps SameOffers (createInvite cfg w) := by
  refine Keeps.bind (Keeps.ensure _ _) fun _ => ?_
  refine Keeps.bind (sameOffers_of_idle idle_newUuid) fun inviteId => ?_
  refine Keeps.bind (sameOffers_of_idle idle_newText) fun secret => ?_
  refine Keeps.bind (sameOffers_of_idle idle_utcNow) fun now => ?_
  refine Keeps.bind (Keeps.modify fun s => rfl) fun _ => ?_
  refine Keeps.bind (sameOffers_of_idle (idle_append _)) fun _ => ?_
  exact Keeps.bind (sameOffers_of_idle idle_utcNow) fun _ => Keeps.pure _

theorem sameOffers_enrollNode (request : EnrollmentRequestV1) : Keeps SameOffers (enrollNode cfg w request) := by
  refine Keeps.bind (Keeps.ensure _ _) fun _ => Keeps.bind (Keeps.ofExcept _) fun _ => Keeps.bind ?_ fun record => ?_
  · intro s
    unfold takeInvite
    split <;> rfl
  refine Keeps.bind (sameOffers_of_idle idle_utcNow) fun now => Keeps.bind (Keeps.ensure _ _) fun _ => ?_
  refine Keeps.bind (sameOffers_of_idle (idle_append _)) fun _ => Keeps.bind (Keeps.modify fun s => rfl) fun _ => ?_
  exact Keeps.bind (sameOffers_of_idle (idle_append _)) fun _ => Keeps.pure _

/-- A restored offer is that of its node. -/
theorem restoredOffers_keyed {now : Int} {l : List Event} {nodes : List Uuid} {nodeId : Uuid} {offer : ResourceOfferV1}
    (h : (restoredOffers now l nodes).lookup nodeId = some offer) : offer.nodeId = nodeId ∧ nodeId ∈ nodes := by
  revert nodeId offer
  unfold restoredOffers
  -- each node of the list may bring its own offer
  refine List.foldlRecOn (motive := fun t : Table Uuid ResourceOfferV1 =>
    ∀ {n o}, t.lookup n = some o → o.nodeId = n ∧ n ∈ nodes) nodes _ (by simp) ?_
  intro t ht m hm n o ho
  split at ho
  · split at ho
    · rename_i hfresh
      rw [Table.lookup_insert'] at ho
      by_cases hn : n = m
      · rw [if_pos hn] at ho
        cases ho
        rw [hn]
        exact ⟨hfresh.1, hm⟩
      · rw [if_neg hn] at ho
        exact ht ho
    · exact ht ho
  · exact ht ho

/-! ## What a thread goes on to -/

theorem next_eq_some {P : Type} {r : Except HttpError (Option P)} {p : P} (h : next r = some p) : r = .ok (some p) := by
  cases r with
  | error e => cases h
  | ok o =>
    cases h
    rfl

/-- A pure answer is the next point. -/
theorem next_pure {P : Type} {o : Option P} {p : P} {d d' : Desk}
    (h : (pure o : Task (Option P)) d = (.ok (some p), d')) : o = some p :=
  (pure_ok h).1

/-- The points a thread can go on to, with what it has found at the one it leaves. -/
inductive Goes (d : Desk) : Point → Point → Prop
  | assist {use : Use} {sessionId : Uuid} : Goes d (.assist use sessionId) (.readSession use sessionId)
  | expired {use : Use} {sessionId : Uuid} : Goes d (.readSession use sessionId) (.dropExpired sessionId)
  | read {use : Use} {sessionId : Uuid} {current : RemoteDesktopSession} {now : Int}
      (stored : d.remoteDesktopSessions.lookup sessionId = some current) :
      Goes d (.readSession use sessionId) (.findOffer use sessionId current now)
  | fresh {use : Use} {sessionId : Uuid} {current : RemoteDesktopSession} {now : Int} :
      Goes d (.findOffer use sessionId current now) (.callWorker use sessionId current.lease)
  | expiring {use : Use} {sessionId : Uuid} {current : RemoteDesktopSession} {now : Int} {offer : ResourceOfferV1}
      (stored : d.offers.lookup current.lease.nodeId = some offer) :
      Goes d (.findOffer use sessionId current now) (.renew use sessionId current offer)
  | renewed {use : Use} {sessionId : Uuid} {current : RemoteDesktopSession} {offer : ResourceOfferV1}
      {renewed : RemoteDesktopLeaseV1} (node : renewed.nodeId = offer.nodeId) :
      Goes d (.renew use sessionId current offer) (.storeRenewed use sessionId current renewed)
  | stored {use : Use} {sessionId : Uuid} {current : RemoteDesktopSession} {renewed : RemoteDesktopLeaseV1} :
      Goes d (.storeRenewed use sessionId current renewed) (.callWorker use sessionId renewed)
  | called {use : Use} {sessionId : Uuid} {lease : RemoteDesktopLeaseV1} :
      Goes d (.callWorker use sessionId lease) (.markControl sessionId)
  | marked {sessionId : Uuid} : Goes d (.markControl sessionId) (.recordControl sessionId)
  | closed {sessionId : Uuid} {session : RemoteDesktopSession}
      (stored : d.remoteDesktopSessions.lookup sessionId = some session) :
      Goes d (.close sessionId) (.recordClose sessionId)
  | offered {offer : ResourceOfferV1} : Goes d (.registerOffer offer) (.readIdentity offer)
  | identified {offer : ResourceOfferV1} {identity : NodeIdentityV1} (enrolled : d.nodes.lookup offer.nodeId = some identity) :
      Goes d (.readIdentity offer) (.recordOffer offer)
  | recorded {offer : ResourceOfferV1} : Goes d (.recordOffer offer) (.storeOffer offer)
  | confirmed {nodeId : Uuid} : Goes d (.revoke nodeId true) (.awaitRevoke nodeId)
  | awaitStop : Goes d .awaitStop .awaitStop
  | awaitRevoke {nodeId : Uuid} : Goes d (.awaitRevoke nodeId) (.awaitRevoke nodeId)

/-- A thread goes on as `Goes` says. -/
theorem run_goes {answered : Bool} {d : Desk} {p q : Point} (h : next (p.run cfg x w answered d).1 = some q) :
    Goes d p q := by
  obtain ⟨d', hrun⟩ : ∃ d', p.run cfg x w answered d = (.ok (some q), d') := ⟨_, Prod.ext (next_eq_some h) rfl⟩
  clear h
  -- a thread that goes on has met no error, so every bind before its next point succeeded
  cases p with
  | assist use sessionId =>
    obtain ⟨u, d₁, _, hrun⟩ := bind_ok hrun
    cases next_pure hrun
    exact .assist
  | readSession use sessionId =>
    obtain ⟨now, d₁, hnow, hrun⟩ := bind_ok hrun
    obtain ⟨t, _, rfl⟩ := onHost_ok hnow
    rw [get_bind] at hrun
    cases hl : d.remoteDesktopSessions.lookup sessionId with
    | none =>
      simp only [hl] at hrun
      cases hrun
    | some current =>
      simp only [hl] at hrun
      split at hrun
      · cases next_pure hrun
        exact .expired
      · cases next_pure hrun
        exact .read hl
  | dropExpired sessionId => cases hrun
  | findOffer use sessionId current now =>
    obtain ⟨offer, d₁, hfind, hrun⟩ := bind_ok hrun
    obtain ⟨t, hoffer, rfl⟩ := onHost_ok hfind
    split at hrun
    · cases next_pure hrun
      exact .fresh
    · cases next_pure hrun
      exact .expiring (remoteOffer_ok hoffer)
  | renew use sessionId current offer =>
    obtain ⟨renewed, d₁, hmint, hrun⟩ := bind_ok hrun
    obtain ⟨t, hrenew, rfl⟩ := onHost_ok hmint
    cases next_pure hrun
    exact .renewed (renewLease_ok hrenew)
  | storeRenewed use sessionId current renewed =>
    obtain ⟨u, d₁, _, hrun⟩ := bind_ok hrun
    cases next_pure hrun
    exact .stored
  | callWorker use sessionId lease =>
    cases use with
    | frame =>
      obtain ⟨u, d₁, _, hrun⟩ := bind_ok hrun
      cases next_pure hrun
    | input batchIsValid =>
      obtain ⟨u, d₁, _, hrun⟩ := bind_ok hrun
      obtain ⟨u, d₂, _, hrun⟩ := bind_ok hrun
      obtain ⟨u, d₃, _, hrun⟩ := bind_ok hrun
      cases next_pure hrun
      exact .called
  | markControl sessionId =>
    change ((get >>= _ : Task (Option Point)) d) = _ at hrun
    rw [get_bind] at hrun
    cases hl : d.remoteDesktopSessions.lookup sessionId with
    | none =>
      simp only [hl] at hrun
      cases next_pure hrun
    | some session =>
      simp only [hl] at hrun
      obtain ⟨u, d₁, _, hrun⟩ := bind_ok hrun
      have hnext := next_pure hrun
      split at hnext
      · cases hnext
      · cases hnext
        exact .marked
  | recordControl sessionId =>
    obtain ⟨u, d₁, _, hrun⟩ := bind_ok hrun
    cases next_pure hrun
  | close sessionId =>
    change ((get >>= _ : Task (Option Point)) d) = _ at hrun
    rw [get_bind] at hrun
    cases hl : d.remoteDesktopSessions.lookup sessionId with
    | none =>
      simp only [hl] at hrun
      cases next_pure hrun
    | some session =>
      simp only [hl] at hrun
      obtain ⟨u, d₁, _, hrun⟩ := bind_ok hrun
      cases next_pure hrun
      exact .closed hl
  | recordClose sessionId =>
    obtain ⟨u, d₁, _, hrun⟩ := bind_ok hrun
    cases next_pure hrun
  | registerOffer offer =>
    obtain ⟨now, d₁, _, hrun⟩ := bind_ok hrun
    obtain ⟨u, d₂, _, hrun⟩ := bind_ok hrun
    cases next_pure hrun
    exact .offered
  | readIdentity offer =>
    change ((get >>= _ : Task (Option Point)) d) = _ at hrun
    rw [get_bind] at hrun
    cases hl : d.nodes.lookup offer.nodeId with
    | none =>
      simp only [hl] at hrun
      cases hrun
    | some identity =>
      simp only [hl] at hrun
      obtain ⟨u, d₁, _, hrun⟩ := bind_ok hrun
      cases next_pure hrun
      exact .identified hl
  | recordOffer offer =>
    obtain ⟨now, d₁, _, hrun⟩ := bind_ok hrun
    rw [get_bind] at hrun
    split at hrun
    · obtain ⟨u, d₂, _, hrun⟩ := bind_ok hrun
      obtain ⟨u, d₃, _, hrun⟩ := bind_ok hrun
      cases next_pure hrun
      exact .recorded
    · cases next_pure hrun
      exact .recorded
  | storeOffer offer =>
    obtain ⟨u, d₁, _, hrun⟩ := bind_ok hrun
    cases next_pure hrun
  | revoke nodeId confirmed =>
    obtain ⟨u, d₁, hconfirmed, hrun⟩ := bind_ok hrun
    obtain ⟨rfl, rfl⟩ := ensure_ok hconfirmed
    cases next_pure hrun
    exact .confirmed
  | awaitStop =>
    cases next_pure hrun
    exact .awaitStop
  | awaitRevoke nodeId =>
    cases next_pure hrun
    exact .awaitRevoke

/-! ## The stages of STOP and resume -/

/-- The write of the epoch marker that begins with the given file operation has its effect but reports a failure. -/
def markerSticks (w : World) (files : Nat) : Bool :=
  (w.fileFailure files).isNone && (w.fileFailure (files + 1)).any (·.2)

/-- The latch is set, unless the file could not be created. -/
theorem createKillLatch_cases (s : Host) : ∃ r latch n, createKillLatch w s = (r, { s with killLatch := latch, files := n }) ∧
    (latch = s.killLatch ∨ latch = true) ∧ (r = .ok () → latch = true) := by
  unfold createKillLatch
  rw [get_bind]
  split
  · rename_i hk
    exact ⟨.ok (), s.killLatch, s.files, rfl, Or.inl rfl, fun _ => hk⟩
  · rcases @fileOperation_cases w (fun s => { s with killLatch := true }) s with hf | ⟨e, hf | hf⟩
    · exact ⟨.ok (), true, _, hf, Or.inr rfl, fun _ => rfl⟩
    · exact ⟨.error e, true, _, hf, Or.inr rfl, fun _ => rfl⟩
    · refine ⟨.error e, s.killLatch, _, hf, Or.inl rfl, ?_⟩
      rintro ⟨⟩

/-- The epoch is advanced by one, or the ledger did not take it. -/
theorem advanceFencingEpoch_cases (s : Host) : (∃ e t, advanceFencingEpoch w s = (.error e, t) ∧ Idle s t) ∨
    advanceFencingEpoch w s = (.ok (s.fencingEpoch + 1), { s with
      ledger := s.ledger ++ [.epochAdvanced "controller" (s.fencingEpoch + 1)]
      appends := s.appends + 1
      fencingEpoch := s.fencingEpoch + 1 }) := by
  unfold advanceFencingEpoch
  rw [get_bind]
  cases hlt : decide (s.fencingEpoch + 1 < 2 ^ 63) with
  | false => exact Or.inl ⟨_, s, rfl, Idle.refl s⟩
  | true =>
    rw [ensure_true_bind]
    rcases ha : append w (.epochAdvanced "controller" (s.fencingEpoch + 1)) s with ⟨e | u, t⟩
    · rw [bind_of_error ha]
      obtain ⟨_, rfl⟩ := append_error ha
      exact Or.inl ⟨e, _, rfl, ⟨rfl, rfl, rfl, rfl, rfl⟩⟩
    · rw [bind_of_ok ha]
      obtain ⟨_, rfl⟩ := append_ok ha
      exact Or.inr rfl

/-- The marker names the epoch, or the write failed and left the old marker, an empty one or, if it sticks, the new
one. -/
theorem writeStopEpochMarker_cases (epoch : Nat) (s : Host) : ∃ r marker n,
    writeStopEpochMarker w epoch s = (r, { s with stopEpochMarker := marker, files := n }) ∧
    ((r = .ok () ∧ marker = some (some epoch)) ∨ ((∃ e, r = .error e) ∧ (marker = s.stopEpochMarker ∨ marker = some none ∨
      (markerSticks w s.files = true ∧ marker = some (some epoch))))) := by
  unfold writeStopEpochMarker
  rcases @fileOperation_cases w (fun s => { s with stopEpochMarker := some none }) s with hf | ⟨e, hf | hf⟩
  · rw [bind_of_ok hf]
    have hfirst : (w.fileFailure s.files).isNone = true := by
      unfold fileOperation at hf
      split at hf
      · rename_i hnone
        rw [hnone]
        rfl
      · cases hf
    rcases hg : w.fileFailure (s.files + 1) with _ | ⟨text, done⟩
    · exact ⟨.ok (), some (some epoch), s.files + 2, by simp only [fileOperation, hg], Or.inl ⟨rfl, rfl⟩⟩
    · cases done with
      | true =>
        refine ⟨.error (internalError text), some (some epoch), s.files + 2, by simp [fileOperation, hg], Or.inr ⟨⟨_, rfl⟩, ?_⟩⟩
        exact Or.inr (Or.inr ⟨by simp [markerSticks, hfirst, hg], rfl⟩)
      | false =>
        refine ⟨.error (internalError text), some none, s.files + 2, by simp [fileOperation, hg], Or.inr ⟨⟨_, rfl⟩, ?_⟩⟩
        exact Or.inr (Or.inl rfl)
  · rw [bind_of_error hf]
    exact ⟨.error e, some none, _, rfl, Or.inr ⟨⟨e, rfl⟩, Or.inr (Or.inl rfl)⟩⟩
  · rw [bind_of_error hf]
    exact ⟨.error e, s.stopEpochMarker, _, rfl, Or.inr ⟨⟨e, rfl⟩, Or.inl rfl⟩⟩

/-- Between `s` and `t` at most the marker was taken away, and the latch only after it. -/
structure Resuming (s t : Host) : Prop where
  offers : t.offers = s.offers
  nodes : t.nodes = s.nodes
  fencingEpoch : t.fencingEpoch = s.fencingEpoch
  marker : t.stopEpochMarker = s.stopEpochMarker ∨ t.stopEpochMarker = none
  latch : t.killLatch = s.killLatch ∨ (t.killLatch = false ∧ t.stopEpochMarker = none)

theorem Resuming.of_idle {s t u : Host} (h : Resuming s t) (hi : Idle t u) : Resuming s u := by
  refine ⟨hi.offers.trans h.offers, hi.nodes.trans h.nodes, hi.fencingEpoch.trans h.fencingEpoch, ?_, ?_⟩
  · rw [hi.stopEpochMarker]
    exact h.marker
  · rw [hi.killLatch, hi.stopEpochMarker]
    exact h.latch

theorem removeStopEpochMarker_cases (s : Host) : ∃ r marker n,
    removeStopEpochMarker w s = (r, { s with stopEpochMarker := marker, files := n }) ∧
    (marker = s.stopEpochMarker ∨ marker = none) ∧ (r = .ok () → marker = none) := by
  unfold removeStopEpochMarker
  rw [get_bind]
  split
  · rcases @fileOperation_cases w (fun s => { s with stopEpochMarker := none }) s with hf | ⟨e, hf | hf⟩
    · exact ⟨.ok (), none, _, hf, Or.inr rfl, fun _ => rfl⟩
    · exact ⟨.error e, none, _, hf, Or.inr rfl, fun _ => rfl⟩
    · refine ⟨.error e, s.stopEpochMarker, _, hf, Or.inl rfl, ?_⟩
      rintro ⟨⟩
  · rename_i hnone
    exact ⟨.ok (), s.stopEpochMarker, s.files, rfl, Or.inl rfl, fun _ => by simpa using hnone⟩

theorem removeKillLatch_cases (s : Host) : ∃ r latch n,
    removeKillLatch w s = (r, { s with killLatch := latch, files := n }) ∧
    (latch = s.killLatch ∨ latch = false) ∧ (r = .ok () → latch = false) := by
  unfold removeKillLatch
  rw [get_bind]
  split
  · rcases @fileOperation_cases w (fun s => { s with killLatch := false }) s with hf | ⟨e, hf | hf⟩
    · exact ⟨.ok (), false, _, hf, Or.inr rfl, fun _ => rfl⟩
    · exact ⟨.error e, false, _, hf, Or.inr rfl, fun _ => rfl⟩
    · refine ⟨.error e, s.killLatch, _, hf, Or.inl rfl, ?_⟩
      rintro ⟨⟩
  · rename_i hk
    exact ⟨.ok (), s.killLatch, s.files, rfl, Or.inl rfl, fun _ => by simpa using hk⟩

/-- `local_resume` takes the marker away, and the latch only once the marker is gone. -/
theorem resuming_localResumeGated (s : Host) : Resuming s (localResumeGated w s).2 := by
  unfold localResumeGated
  obtain ⟨r, marker, n, hrun, hmarker, hgone⟩ := @removeStopEpochMarker_cases w s
  cases r with
  | error e =>
    rw [bind_of_error hrun]
    exact ⟨rfl, rfl, rfl, hmarker, Or.inl rfl⟩
  | ok u =>
    rw [bind_of_ok hrun]
    obtain rfl := hgone rfl
    obtain ⟨r, latch, n', hrun', hlatch, _⟩ := @removeKillLatch_cases w { s with stopEpochMarker := none, files := n }
    have hboth : Resuming s { s with stopEpochMarker := none, killLatch := latch, files := n' } := by
      refine ⟨rfl, rfl, rfl, Or.inr rfl, ?_⟩
      rcases hlatch with h | h
      · exact Or.inl h
      · exact Or.inr ⟨h, rfl⟩
    cases r with
    | error e =>
      rw [bind_of_error hrun']
      exact hboth
    | ok u =>
      rw [bind_of_ok hrun']
      refine hboth.of_idle ?_
      exact (Keeps.bind (idle_append _) fun _ => Keeps.bind Keeps.get fun _ => Keeps.pure _ : Keeps Idle
        (append w .ownerResume >>= fun _ => get >>= fun s => pure s.fencingEpoch)) _

/-! ## The holder of the gate -/

/-- The offers and the nodes are the same. -/
def SameDevices (d d' : Desk) : Prop := d'.offers = d.offers ∧ d'.nodes = d.nodes

instance : Std.Refl SameDevices := ⟨fun _ => ⟨rfl, rfl⟩⟩

instance : IsTrans Desk SameDevices := ⟨fun _ _ _ h h' => ⟨h'.1.trans h.1, h'.2.trans h.2⟩⟩

theorem sameDevices_onHost {α : Type} {y : Request α} (h : ∀ s, (y s).2.offers = s.offers ∧ (y s).2.nodes = s.nodes) :
    Keeps SameDevices (onHost y) := fun d => h d.toHost

theorem sameDevices_of_idle {α : Type} {y : Request α} (h : Keeps Idle y) : Keeps SameDevices (onHost y) :=
  sameDevices_onHost fun s => ⟨(h s).offers, (h s).nodes⟩

/-- What a step with the gate does to the offers. -/
def Held.offersAfter (p : Held) (offers : Table Uuid ResourceOfferV1) : Table Uuid ResourceOfferV1 :=
  match p with
  | .forgetOffer nodeId => offers.erase nodeId
  | _ => offers

/-- What it does to the nodes. -/
def Held.nodesAfter (p : Held) (nodes : Table Uuid NodeIdentityV1) : Table Uuid NodeIdentityV1 :=
  match p with
  | .forgetIdentity nodeId => nodes.erase nodeId
  | _ => nodes

theorem sameDevices_stop : Keeps SameDevices (Held.run w .createLatch) ∧ Keeps SameDevices (Held.run w .advanceEpoch) ∧
    ∀ epoch, Keeps SameDevices (Held.run w (.writeMarker epoch)) := by
  refine ⟨?_, ?_, ?_⟩
  · refine Keeps.bind (sameDevices_onHost fun s => ?_) fun _ => Keeps.pure _
    obtain ⟨r, latch, n, hrun, -⟩ := @createKillLatch_cases w s
    rw [hrun]
    exact ⟨rfl, rfl⟩
  · refine Keeps.bind (sameDevices_onHost fun s => ?_) fun _ => Keeps.pure _
    rcases @advanceFencingEpoch_cases w s with ⟨e, t, hrun, hidle⟩ | hrun
    · rw [hrun]
      exact ⟨hidle.offers, hidle.nodes⟩
    · rw [hrun]
      exact ⟨rfl, rfl⟩
  · intro epoch
    refine Keeps.bind (sameDevices_onHost fun s => ?_) fun _ => Keeps.pure _
    obtain ⟨r, marker, n, hrun, -⟩ := @writeStopEpochMarker_cases w epoch s
    rw [hrun]
    exact ⟨rfl, rfl⟩

/-- Only a revocation touches the offers and the nodes under the gate. -/
theorem held_devices (p : Held) (d : Desk) :
    (p.run w d).2.offers = p.offersAfter d.offers ∧ (p.run w d).2.nodes = p.nodesAfter d.nodes := by
  cases p with
  | createLatch => exact sameDevices_stop.1 d
  | advanceEpoch => exact sameDevices_stop.2.1 d
  | writeMarker epoch => exact sameDevices_stop.2.2 epoch d
  | recordStop epoch =>
    exact (Keeps.bind (sameDevices_of_idle (idle_append _)) fun _ => Keeps.pure _ :
      Keeps SameDevices (Held.run w (.recordStop epoch))) d
  | findNode nodeId =>
    change ((get >>= _ : Task (Option Held)) d).2.offers = _ ∧ ((get >>= _ : Task (Option Held)) d).2.nodes = _
    rw [get_bind]
    cases d.nodes.lookup nodeId <;> exact ⟨rfl, rfl⟩
  | recordRevocation nodeId identity =>
    exact (Keeps.bind (sameDevices_of_idle idle_utcNow) fun _ => Keeps.bind (sameDevices_of_idle (idle_append _)) fun _ =>
      Keeps.pure _ : Keeps SameDevices (Held.run w (.recordRevocation nodeId identity))) d
  | scan nodeId =>
    exact (Keeps.bind (sameDevices_of_idle idle_refreshDiagnostics) fun _ => Keeps.pure _ :
      Keeps SameDevices (Held.run w (.scan nodeId))) d
  | _ => exact ⟨rfl, rfl⟩

/-- The facts of STOP are the same. -/
def SameStop (d d' : Desk) : Prop :=
  d'.killLatch = d.killLatch ∧ d'.stopEpochMarker = d.stopEpochMarker ∧ d'.fencingEpoch = d.fencingEpoch

instance : Std.Refl SameStop := ⟨fun _ => ⟨rfl, rfl, rfl⟩⟩

instance : IsTrans Desk SameStop := ⟨fun _ _ _ h h' => ⟨h'.1.trans h.1, h'.2.1.trans h.2.1, h'.2.2.trans h.2.2⟩⟩

theorem sameStop_of_idle {α : Type} {y : Request α} (h : Keeps Idle y) : Keeps SameStop (onHost y) := fun d =>
  ⟨(h d.toHost).killLatch, (h d.toHost).stopEpochMarker, (h d.toHost).fencingEpoch⟩

/-- Only the first effects of STOP touch its facts. -/
def Held.isStopping : Held → Bool
  | .createLatch => true
  | .advanceEpoch => true
  | .writeMarker _ => true
  | _ => false

theorem sameStop_held {p : Held} (hp : p.isStopping = false) : Keeps SameStop (p.run w) := by
  cases p with
  | recordStop epoch => exact Keeps.bind (sameStop_of_idle (idle_append _)) fun _ => Keeps.pure _
  | findNode nodeId =>
    refine Keeps.bind Keeps.get fun d => ?_
    cases d.nodes.lookup nodeId with
    | none => exact Keeps.fail _
    | some identity => exact Keeps.pure _
  | recordRevocation nodeId identity =>
    exact Keeps.bind (sameStop_of_idle idle_utcNow) fun _ => Keeps.bind (sameStop_of_idle (idle_append _)) fun _ => Keeps.pure _
  | scan nodeId => exact Keeps.bind (sameStop_of_idle idle_refreshDiagnostics) fun _ => Keeps.pure _
  | createLatch | advanceEpoch | writeMarker => cases hp
  | _ => exact fun _ => ⟨rfl, rfl, rfl⟩

end

end Rampage.Controller
