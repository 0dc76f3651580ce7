/-
The identities on a controller's record: those of the node table, and those a restart would read back from the ledger.
Only an enrolment puts one there, so what holds of the identities enrolled holds of all of them, through every run,
restarts and failed writes included.
-/
import Rampage.Controller.Binding

namespace Rampage.Controller

open Rampage.Protocol Rampage.Planner Rampage.Governor Rampage.Ledger Handler

/-! ## The nodes of a replay -/

/-- What an event does to the nodes of a replay. -/
def nodesEvent (t : Table Uuid NodeIdentityV1) : Event → Table Uuid NodeIdentityV1
  | .nodeEnrolled identity => t.insert identity.nodeId identity
  | .nodeRevoked nodeId _ _ => t.erase nodeId
  | _ => t

/-- The nodes a restart reads back from the ledger. -/
def recordedNodes (l : List Event) : Table Uuid NodeIdentityV1 := l.foldl nodesEvent ∅

theorem replay_recordedNodes (now : Int) (epoch : Nat) (l : List Event) : (replay now epoch l).nodes = recordedNodes l := by
  rw [replay_eq_foldl]
  have hstep : ∀ (l : List Event) (r : Replay), (l.foldl (replayEvent now epoch) r).nodes = l.foldl nodesEvent r.nodes := by
    intro l
    induction l with
    | nil => exact fun _ => rfl
    | cons e l ih =>
      intro r
      rw [List.foldl_cons, List.foldl_cons, ih]
      congr 1
      cases e with
      | inviteCreated inviteId expiresAt secretHash =>
        unfold replayEvent nodesEvent
        dsimp only
        split <;> rfl
      | _ => rfl
  exact hstep l .empty

@[simp] theorem recordedNodes_append (l es : List Event) : recordedNodes (l ++ es) = es.foldl nodesEvent (recordedNodes l) :=
  List.foldl_append

theorem foldl_nodesEvent_of_kinds : ∀ {es : List Event} {t : Table Uuid NodeIdentityV1},
    (∀ e ∈ es, e.kind ≠ .nodeEnrolled ∧ e.kind ≠ .nodeRevoked) → es.foldl nodesEvent t = t
  | [], _, _ => rfl
  | e :: es, t, h => by
    have he := h e (List.mem_cons_self ..)
    have hsame : nodesEvent t e = t := by
      cases e with
      | nodeEnrolled => exact absurd rfl he.1
      | nodeRevoked => exact absurd rfl he.2
      | _ => rfl
    rw [List.foldl_cons, hsame]
    exact foldl_nodesEvent_of_kinds fun e' he' => h e' (List.mem_cons_of_mem _ he')

/-! ## What holds of every identity -/

/-- `P` holds of the identities in the table and of those in the ledger. -/
structure Identities (P : NodeIdentityV1 → Prop) (s : Host) : Prop where
  stored : ∀ nodeId identity, s.nodes.lookup nodeId = some identity → P identity
  recorded : ∀ nodeId identity, (recordedNodes s.ledger).lookup nodeId = some identity → P identity

section

variable {P : NodeIdentityV1 → Prop} {cfg : Config} {w : World} {s t : Host}

theorem identities_initial (epoch : Nat) (head : String → Except String ArtifactRefV1) : Identities P (initial epoch head) :=
  ⟨fun _ _ h => by simp [initial] at h, fun _ _ h => by simp [initial, recordedNodes] at h⟩

/-- Events of other classes, and a table no identity entered. -/
theorem Identities.extend (h : Identities P s) {es : List Event} (hl : t.ledger = s.ledger ++ es)
    (hes : ∀ e ∈ es, e.kind ≠ .nodeEnrolled ∧ e.kind ≠ .nodeRevoked)
    (hn : ∀ nodeId identity, t.nodes.lookup nodeId = some identity → s.nodes.lookup nodeId = some identity) :
    Identities P t := by
  refine ⟨fun nodeId identity hi => h.stored nodeId identity (hn nodeId identity hi), ?_⟩
  rw [hl, recordedNodes_append, foldl_nodesEvent_of_kinds hes]
  exact h.recorded

theorem Identities.of_eq (h : Identities P s) (hn : t.nodes = s.nodes) (hl : t.ledger = s.ledger) : Identities P t :=
  h.extend (hl.trans (List.append_nil s.ledger).symm) (by simp) (by simp [hn])

/-- The record of an enrolment. -/
theorem Identities.append (h : Identities P s) {identity : NodeIdentityV1} (hi : P identity) :
    Identities P (Controller.append w (.nodeEnrolled identity) s).2 := by
  unfold Controller.append
  split
  · refine ⟨h.stored, fun nodeId i hlookup => ?_⟩
    rw [recordedNodes_append] at hlookup
    change AList.lookup nodeId ((recordedNodes s.ledger).insert identity.nodeId identity) = some i at hlookup
    rw [Table.lookup_insert'] at hlookup
    split at hlookup
    · cases hlookup
      exact hi
    · exact h.recorded nodeId i hlookup
  · exact h.of_eq rfl rfl

/-- An enrolment enters the identity it was asked to, if its request was verified. -/
theorem Identities.enroll (h : Identities P s) {request : EnrollmentRequestV1}
    (hi : verifyEnrollment cfg request = .ok () → P request.identity) : Identities P (enrollNode cfg w request s).2 := by
  rcases @enrollNode_state cfg w request s with ⟨-, hnodes, hledger⟩ | ⟨henters, hstate⟩
  · exact h.of_eq hnodes hledger
  · have hverify : verifyEnrollment cfg request = .ok () := by
      unfold entersTable at henters
      cases hv : verifyEnrollment cfg request with
      | error e => simp [hv] at henters
      | ok u => rfl
    rw [hstate]
    refine Identities.append ?_ (hi hverify)
    refine ⟨fun nodeId i hlookup => ?_, ?_⟩
    · change AList.lookup nodeId (s.nodes.insert request.identity.nodeId request.identity) = some i at hlookup
      rw [Table.lookup_insert'] at hlookup
      split at hlookup
      · cases hlookup
        exact hi hverify
      · exact h.stored nodeId i hlookup
    · show ∀ nodeId i, AList.lookup nodeId (recordedNodes (s.ledger ++ [.inviteConsumed request.inviteId
        request.identity.nodeId])) = some i → P i
      rw [recordedNodes_append]
      exact h.recorded

/-- A revocation takes the node out of the table and out of what a restart reads back. -/
theorem Identities.revoke (h : Identities P s) (nodeId : Uuid) (name key : String) :
    Identities P (forgetNode nodeId { s with
      ledger := s.ledger ++ [.nodeRevoked nodeId name key]
      reads := s.reads + 1
      appends := s.appends + 1 }) := by
  refine ⟨fun m identity hlookup => ?_, fun m identity hlookup => ?_⟩
  · change AList.lookup m (s.nodes.erase nodeId) = some identity at hlookup
    exact h.stored m identity (Table.lookup_of_erase hlookup)
  · change AList.lookup m (recordedNodes (s.ledger ++ [.nodeRevoked nodeId name key])) = some identity at hlookup
    rw [recordedNodes_append] at hlookup
    exact h.recorded m identity (Table.lookup_of_erase hlookup)

/-- A new invite. -/
theorem createInvite_ledger (s : Host) : ∃ es, (createInvite cfg w s).2.ledger = s.ledger ++ es ∧
    ∀ e ∈ es, e.kind ≠ .nodeEnrolled ∧ e.kind ≠ .nodeRevoked := by
  unfold createInvite
  cases cfg.localEnrollmentEnabled with
  | false => exact ⟨[], (List.append_nil _).symm, by simp⟩
  | true =>
    rw [ensure_true_bind]
    show ∃ es, ((Controller.append w _ >>= fun _ => utcNow w >>= _ : Request EnrollmentInvite) { s with
      invites := s.invites.insert (w.uuid s.uuids) ⟨cfg.hashSecret (w.text s.texts), w.clock s.reads + minutes 10⟩
      reads := s.reads + 1
      uuids := s.uuids + 1
      texts := s.texts + 1 }).2.ledger = s.ledger ++ es ∧ _
    rcases ha : Controller.append w _ _ with ⟨e | u, s₁⟩
    · rw [bind_of_error ha]
      obtain ⟨_, rfl⟩ := append_error ha
      exact ⟨[], (List.append_nil _).symm, by simp⟩
    · rw [bind_of_ok ha]
      obtain ⟨_, rfl⟩ := append_ok ha
      refine ⟨_, rfl, ?_⟩
      intro e he
      rw [List.mem_singleton.1 he]
      exact ⟨by simp [Event.kind], by simp [Event.kind]⟩

/-- Every step keeps what holds of the identities, if it holds of one that it enrols. -/
theorem identities_step (h : Identities P s) {op : Op}
    (henroll : ∀ request, op = .enrollNode request → verifyEnrollment cfg request = .ok () → P request.identity) :
    Identities P (step cfg w op s).2 := by
  have hchange := @step_change cfg w op s
  by_cases hcreate : op = .createInvite
  · subst hcreate
    obtain ⟨es, hes, hkinds⟩ := @createInvite_ledger cfg w s
    exact h.extend hes hkinds fun _ _ hi => (@createInvite_nodes cfg w s) ▸ hi
  by_cases hnode : ∃ request, op = .enrollNode request
  · obtain ⟨request, rfl⟩ := hnode
    exact h.enroll (henroll request rfl)
  -- what else is recorded neither enrols nor revokes
  have hpassive : ∀ {es : List Event}, (∀ e ∈ es, Passive e.kind) → ∀ e ∈ es, e.kind ≠ .nodeEnrolled ∧ e.kind ≠ .nodeRevoked := by
    intro es hes e he
    have hp := hes e he
    simp only [Passive, List.mem_cons, List.not_mem_nil, or_false, not_or] at hp
    exact ⟨hp.1, hp.2.1⟩
  generalize (step cfg w op s).2 = t at hchange ⊢
  generalize (step cfg w op s).1 = r at hchange
  cases hchange with
  | idle _ _ _ devices =>
    rcases devices with quiet | hop | hop
    · obtain ⟨es, hes, hK⟩ := quiet.events
      exact h.extend hes (hpassive hK) (by simp [quiet.nodes])
    · exact absurd hop hcreate
    · exact absurd hop hnode
  | halted halting =>
    obtain ⟨es, hes, hK⟩ := halting.events
    refine h.extend hes (fun e he => ?_) (by simp [halting.nodes])
    rcases hK e he with hk | hk | hk <;> rw [hk] <;> exact ⟨by decide, by decide⟩
  | admitted admission =>
    obtain ⟨es, hes, hK⟩ := admission.events
    refine h.extend hes (fun e he => ?_) (by simp [admission.nodes])
    rcases hK e he with (hk | hk | hk | hk) | hk | hk <;> rw [hk] <;> exact ⟨by decide, by decide⟩
  | @revoked nodeId _ _ name key quiet =>
    obtain ⟨es, hes, hK⟩ := quiet.events
    refine (h.revoke nodeId name key).extend hes (fun e he => ?_) (by simp [quiet.nodes])
    rw [hK e he]
    exact ⟨by decide, by decide⟩
  | claimed _ _ result =>
    subst result
    exact h.extend rfl (by simp [Event.kind]) fun _ _ hi => hi
  | claimLost _ _ result =>
    subst result
    exact h.of_eq rfl rfl
  | @receipted receipt a _ _ _ _ quiet =>
    obtain ⟨es, hes, hK⟩ := quiet.events
    refine @Identities.extend P _ _ h (.jobReceipted receipt :: es) ?_ ?_ (by simp [quiet.nodes, receipted, settleJob])
    · rw [hes]
      exact List.append_assoc s.ledger _ _
    · intro e he
      rcases List.mem_cons.1 he with rfl | he
      · exact ⟨by simp [Event.kind], by simp [Event.kind]⟩
      · rw [hK e he]
        exact ⟨by decide, by decide⟩
  | receiptLost _ _ _ result =>
    subst result
    exact h.of_eq rfl rfl
  | restarted result =>
    subst result
    have hnodes : (restart w s).2.nodes = recordedNodes s.ledger := replay_recordedNodes (w.clock s.reads) s.fencingEpoch s.ledger
    refine ⟨?_, h.recorded⟩
    rw [hnodes]
    exact h.recorded

/-! ## A revoked key -/

/-- The key is bound to this node id alone, in the table and on the ledger. -/
def BoundOnlyTo (nodeId : Uuid) (key : String) (s : Host) : Prop :=
  ∀ m identity, s.nodes.lookup m = some identity ∨ (recordedNodes s.ledger).lookup m = some identity →
    identity.publicKey = key → m = nodeId

/-- Once the revocation of the only node with a key is answered, no identity with the key is left. -/
theorem gone_of_revoked {nodeId : Uuid} {confirmed : Bool} {key : String} (hbound : BoundOnlyTo nodeId key s)
    (hrevoked : (revokeNode w nodeId confirmed s).1 = .ok ()) :
    Identities (fun i => i.publicKey ≠ key) (revokeNode w nodeId confirmed s).2 := by
  obtain ⟨hleaves, -⟩ := (revokeNode_ok nodeId confirmed s).1 hrevoked
  rcases @revokeNode_cases w nodeId confirmed s with hquiet | ⟨name, publicKey, hquiet⟩
  · -- the node is in the table before and not after
    have hnodes := hquiet.nodes
    rw [revokeNode_nodes, if_pos hleaves] at hnodes
    simp only [leavesTable, Bool.and_eq_true] at hleaves
    have hsome := hleaves.1.2
    rw [← hnodes, Table.lookup_erase', if_pos rfl] at hsome
    cases hsome
  · have hforgotten : Identities (fun i => i.publicKey ≠ key) (forgetNode nodeId { s with
        ledger := s.ledger ++ [.nodeRevoked nodeId name publicKey]
        reads := s.reads + 1
        appends := s.appends + 1 }) := by
      refine ⟨fun m identity hlookup hkey => ?_, fun m identity hlookup hkey => ?_⟩
      · change AList.lookup m (s.nodes.erase nodeId) = some identity at hlookup
        rw [hbound m identity (Or.inl (Table.lookup_of_erase hlookup)) hkey, Table.lookup_erase', if_pos rfl] at hlookup
        cases hlookup
      · change AList.lookup m (recordedNodes (s.ledger ++ [.nodeRevoked nodeId name publicKey])) = some identity at hlookup
        rw [recordedNodes_append] at hlookup
        change AList.lookup m ((recordedNodes s.ledger).erase nodeId) = some identity at hlookup
        rw [hbound m identity (Or.inr (Table.lookup_of_erase hlookup)) hkey, Table.lookup_erase', if_pos rfl] at hlookup
        cases hlookup
    obtain ⟨es, hes, hK⟩ := hquiet.events
    refine hforgotten.extend hes (fun e he => ?_) (by simp [hquiet.nodes])
    rw [hK e he]
    exact ⟨by decide, by decide⟩

end

end Rampage.Controller
