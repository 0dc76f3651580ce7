/-
Nodes and invites against a replay of the ledger. The replayed nodes are the stored ones, and the
invites a replay restores at some time are the stored ones that have not expired by then, as long
as no request with a wrong code takes an invite out of memory: that rejection is not recorded.
-/
import Rampage.Controller.Replayed

namespace Rampage.Controller

open Rampage.Protocol Rampage.Planner Rampage.Governor Rampage.Ledger

/-- An enrolment does not spend an invite that is still valid on a wrong code. -/
def sparesInvites (cfg : Config) (w : World) (s : Host) : Op → Bool
  | .enrollNode request =>
    !(verifyEnrollment cfg request matches .ok _) || (s.invites.lookup request.inviteId).all fun record =>
      decide (record.expiresAt ≤ w.clock s.reads) || record.secretHash == cfg.hashSecret request.enrollmentCode
  | _ => true

theorem sparesInvites_code {cfg : Config} {w : World} {s : Host} {request : EnrollmentRequestV1} {record : InviteRecord}
    (h : sparesInvites cfg w s (.enrollNode request) = true) (hv : verifyEnrollment cfg request = .ok ())
    (hr : s.invites.lookup request.inviteId = some record) :
    record.expiresAt ≤ w.clock s.reads ∨ record.secretHash = cfg.hashSecret request.enrollmentCode := by
  simp only [sparesInvites, hv, hr, Bool.not_true, Bool.false_or, Option.all_some, Bool.or_eq_true,
    decide_eq_true_eq, beq_iff_eq] at h
  exact h

section

variable {u : Int} {epoch : Nat}

/-- Events that touch neither nodes nor invites. -/
def DevicePassive (k : EventKind) : Prop :=
  k ∉ [EventKind.nodeEnrolled, .nodeRevoked, .inviteCreated, .inviteConsumed]

theorem devicePassive_of_passive {k : EventKind} (h : Passive k) : DevicePassive k := by
  simp only [Passive, DevicePassive, List.mem_cons, List.not_mem_nil, or_false, not_or] at *
  tauto

theorem foldl_replayEvent_devicePassive : ∀ {es : List Event} {r : Replay}, (∀ e ∈ es, DevicePassive e.kind) →
    (es.foldl (replayEvent u epoch) r).nodes = r.nodes ∧ (es.foldl (replayEvent u epoch) r).invites = r.invites
  | [], _, _ => ⟨rfl, rfl⟩
  | e :: es, r, h => by
    have hstep : (replayEvent u epoch r e).nodes = r.nodes ∧ (replayEvent u epoch r e).invites = r.invites := by
      have he := h e (List.mem_cons_self ..)
      cases e with
      | nodeEnrolled | nodeRevoked | inviteCreated | inviteConsumed => exact absurd (by simp [Event.kind]) he
      | _ => exact ⟨rfl, rfl⟩
    obtain ⟨hn, hi⟩ := foldl_replayEvent_devicePassive (r := replayEvent u epoch r e)
      fun e' he' => h e' (List.mem_cons_of_mem _ he')
    exact ⟨hn.trans hstep.1, hi.trans hstep.2⟩

end

/-- The stored nodes and unexpired invites are those of a replay. -/
structure DevicesMirrored (w : World) (s : Host) : Prop where
  nodes : ∀ u, (replay u s.fencingEpoch s.ledger).nodes = s.nodes
  invites : ∀ u, w.clock s.reads ≤ u → ∀ i, (replay u s.fencingEpoch s.ledger).invites.lookup i =
    (s.invites.lookup i).filter fun x => decide (u < x.expiresAt)
  lifetime : ∀ i x, s.invites.lookup i = some x → x.expiresAt ≤ w.clock s.reads + minutes 10

section

variable {cfg : Config} {w : World}

theorem devicesMirrored_initial (epoch : Nat) (head : String → Except String ArtifactRefV1) :
    DevicesMirrored w (initial epoch head) := by
  refine ⟨?_, ?_, ?_⟩
  · intro u
    show (replay u epoch []).nodes = ∅
    rw [replay_nil]
    rfl
  · intro u _ i
    show (replay u epoch []).invites.lookup i = ((∅ : Table Uuid InviteRecord).lookup i).filter _
    rw [replay_nil]
    simp [Replay.empty]
  · intro i x hx
    simp [initial] at hx

/-- A step that leaves nodes and invites alone. -/
theorem DevicesMirrored.extend {s t : Host} (es : List Event) (hclock : Monotone w.clock) (h : DevicesMirrored w s)
    (hl : t.ledger = s.ledger ++ es) (hes : ∀ e ∈ es, DevicePassive e.kind) (hr : s.reads ≤ t.reads)
    (he : t.fencingEpoch = s.fencingEpoch) (hn : t.nodes = s.nodes) (hi : t.invites = s.invites) :
    DevicesMirrored w t := by
  have hreplay : ∀ u, (replay u t.fencingEpoch t.ledger).nodes = (replay u s.fencingEpoch s.ledger).nodes ∧
      (replay u t.fencingEpoch t.ledger).invites = (replay u s.fencingEpoch s.ledger).invites := by
    intro u
    rw [hl, he, replay_append]
    exact foldl_replayEvent_devicePassive hes
  refine ⟨?_, ?_, ?_⟩
  · intro u
    rw [(hreplay u).1, hn]
    exact h.nodes u
  · intro u hu i
    rw [(hreplay u).2, hi]
    exact h.invites u ((hclock hr).trans hu) i
  · intro i x hx
    rw [hi] at hx
    have := h.lifetime i x hx
    have := hclock hr
    omega

theorem DevicesMirrored.create {s t : Host} {secretHash : String} (hclock : Monotone w.clock)
    (h : DevicesMirrored w s) (result : t = { s with
      invites := s.invites.insert (w.uuid s.uuids) ⟨secretHash, w.clock s.reads + minutes 10⟩
      ledger := s.ledger ++ [.inviteCreated (w.uuid s.uuids) (w.clock s.reads + minutes 10) secretHash]
      reads := s.reads + 2
      appends := s.appends + 1
      uuids := s.uuids + 1
      texts := s.texts + 1 }) : DevicesMirrored w t := by
  subst result
  have hreads : w.clock s.reads ≤ w.clock (s.reads + 2) := hclock (by omega)
  refine ⟨?_, ?_, ?_⟩
  · intro u
    show (replay u s.fencingEpoch (s.ledger ++ [_])).nodes = s.nodes
    rw [replay_snoc, ← h.nodes u]
    unfold replayEvent
    dsimp only
    split <;> rfl
  · intro u hu i
    show (replay u s.fencingEpoch (s.ledger ++ [_])).invites.lookup i = ((s.invites.insert _ _).lookup i).filter _
    rw [replay_snoc, Table.lookup_insert']
    have hold := h.invites u (hreads.trans hu) i
    unfold replayEvent
    dsimp only
    -- a replay after the invite has expired leaves it out
    by_cases hx : u < w.clock s.reads + minutes 10
    · rw [if_pos hx]
      show ((replay u s.fencingEpoch s.ledger).invites.insert _ _).lookup i = _
      rw [Table.lookup_insert']
      by_cases hi : i = w.uuid s.uuids
      · rw [if_pos hi, if_pos hi]
        simp [Option.filter, hx]
      · rw [if_neg hi, if_neg hi, hold]
    · rw [if_neg hx, hold]
      by_cases hi : i = w.uuid s.uuids
      · -- an older invite under this id has expired even earlier
        rw [if_pos hi]
        cases hlook : s.invites.lookup i with
        | none => simp [Option.filter, hx]
        | some x =>
          have := h.lifetime i x hlook
          have hxu : ¬ u < x.expiresAt := by omega
          simp [Option.filter, hx, hxu]
      · rw [if_neg hi]
  · intro i x hx
    show x.expiresAt ≤ w.clock (s.reads + 2) + minutes 10
    rw [show ({ s with invites := s.invites.insert (w.uuid s.uuids) ⟨secretHash, w.clock s.reads + minutes 10⟩ } :
      Host).invites = s.invites.insert (w.uuid s.uuids) ⟨secretHash, w.clock s.reads + minutes 10⟩ from rfl,
      Table.lookup_insert'] at hx
    by_cases hi : i = w.uuid s.uuids
    · rw [if_pos hi, Option.some.injEq] at hx
      rw [← hx]
      show w.clock s.reads + minutes 10 ≤ _
      omega
    · rw [if_neg hi] at hx
      have := h.lifetime i x hx
      omega

/-- Taking an invite out of memory and out of the replay, or one that has expired out of memory alone. -/
theorem DevicesMirrored.take {s : Host} {inviteId : Uuid} (h : DevicesMirrored w s) {u : Int}
    (hu : w.clock s.reads ≤ u) (i : Uuid) :
    AList.lookup i ((replay u s.fencingEpoch s.ledger).invites.erase inviteId) =
      (AList.lookup i (s.invites.erase inviteId)).filter fun x => decide (u < x.expiresAt) := by
  rw [Table.lookup_erase', Table.lookup_erase']
  by_cases hi : i = inviteId
  · rw [if_pos hi, if_pos hi]
    rfl
  · rw [if_neg hi, if_neg hi]
    exact h.invites u hu i

/-- A rejected enrolment that took out an invite which had expired. -/
theorem DevicesMirrored.reject {s t : Host} {inviteId : Uuid} {record : InviteRecord} (hclock : Monotone w.clock)
    (h : DevicesMirrored w s) (hr : s.invites.lookup inviteId = some record) (hx : record.expiresAt ≤ w.clock s.reads)
    (result : t = { s with invites := s.invites.erase inviteId, reads := s.reads + 1 }) : DevicesMirrored w t := by
  subst result
  have hreads : w.clock s.reads ≤ w.clock (s.reads + 1) := hclock (Nat.le_succ _)
  refine ⟨h.nodes, ?_, ?_⟩
  · intro u hu i
    have hus : w.clock s.reads ≤ u := hreads.trans hu
    have hgone : (replay u s.fencingEpoch s.ledger).invites.lookup inviteId = none := by
      rw [h.invites u hus, hr]
      have : ¬ u < record.expiresAt := by omega
      simp [Option.filter, this]
    show (replay u s.fencingEpoch s.ledger).invites.lookup i = (AList.lookup i (s.invites.erase inviteId)).filter _
    rw [← h.take hus, Table.lookup_erase']
    by_cases hi : i = inviteId
    · rw [if_pos hi, hi]
      exact hgone
    · rw [if_neg hi]
  · intro i x hi
    have := h.lifetime i x (Table.lookup_of_erase hi)
    show x.expiresAt ≤ w.clock (s.reads + 1) + minutes 10
    omega

/-- An accepted enrolment. -/
theorem DevicesMirrored.enroll {s t : Host} {inviteId : Uuid} {identity : NodeIdentityV1} (hclock : Monotone w.clock)
    (h : DevicesMirrored w s) (result : t = { s with
      invites := s.invites.erase inviteId
      nodes := s.nodes.insert identity.nodeId identity
      ledger := s.ledger ++ [.inviteConsumed inviteId identity.nodeId] ++ [.nodeEnrolled identity]
      reads := s.reads + 1
      appends := s.appends + 2 }) : DevicesMirrored w t := by
  subst result
  have hreads : w.clock s.reads ≤ w.clock (s.reads + 1) := hclock (Nat.le_succ _)
  refine ⟨?_, ?_, ?_⟩
  · intro u
    show (replay u s.fencingEpoch (s.ledger ++ [_] ++ [_])).nodes = s.nodes.insert identity.nodeId identity
    rw [replay_snoc, replay_snoc, ← h.nodes u]
    rfl
  · intro u hu i
    show (replay u s.fencingEpoch (s.ledger ++ [_] ++ [_])).invites.lookup i = _
    rw [replay_snoc, replay_snoc]
    exact h.take (hreads.trans hu) i
  · intro i x hi
    have := h.lifetime i x (Table.lookup_of_erase hi)
    show x.expiresAt ≤ w.clock (s.reads + 1) + minutes 10
    omega

/-- A revoked node. -/
theorem DevicesMirrored.revoke {s t : Host} {nodeId : Uuid} {name key : String} (hclock : Monotone w.clock)
    (h : DevicesMirrored w s) (quiet : Quiet Other (forgetNode nodeId { s with
      ledger := s.ledger ++ [.nodeRevoked nodeId name key]
      reads := s.reads + 1
      appends := s.appends + 1 }) t) : DevicesMirrored w t := by
  obtain ⟨es, hes, hK⟩ := quiet.events
  refine DevicesMirrored.extend es hclock ?_ hes ?_ quiet.later.reads quiet.fencingEpoch quiet.nodes quiet.invites
  · refine ⟨?_, ?_, ?_⟩
    · intro u
      show (replay u s.fencingEpoch (s.ledger ++ [_])).nodes = s.nodes.erase nodeId
      rw [replay_snoc, ← h.nodes u]
      rfl
    · intro u hu i
      show (replay u s.fencingEpoch (s.ledger ++ [_])).invites.lookup i = _
      rw [replay_snoc]
      exact h.invites u ((hclock (Nat.le_succ _)).trans hu) i
    · intro i x hi
      have := h.lifetime i x hi
      have : w.clock s.reads ≤ w.clock (s.reads + 1) := hclock (Nat.le_succ s.reads)
      show x.expiresAt ≤ w.clock (s.reads + 1) + minutes 10
      omega
  · intro e he
    rw [hK e he]
    simp [DevicePassive]

/-- Every step that meets the condition keeps nodes and invites, STOP, resume and restarts apart. -/
theorem DevicesMirrored.step (hok : ∀ n, w.appendFailure n = none) (hclock : Monotone w.clock) {s : Host} {op : Op}
    (h : DevicesMirrored w s) (hhalt : op.isHalting = false) (hrestart : op ≠ .restart)
    (hcond : sparesInvites cfg w s op = true) : DevicesMirrored w (step cfg w op s).2 := by
  have hchange := @step_change cfg w op s
  by_cases hcreate : op = .createInvite
  · subst hcreate
    rcases @createInvite_cases cfg w hok s with hsame | ⟨secretHash, hnew⟩
    · rw [show (Controller.step cfg w .createInvite s).2 = s from hsame]
      exact h
    · exact h.create hclock hnew
  by_cases henroll : ∃ request, op = .enrollNode request
  · obtain ⟨request, rfl⟩ := henroll
    rcases @enrollNode_cases cfg w hok request s with hsame | ⟨record, hv, hr, ⟨hno, hnew⟩ | hnew⟩
    · rw [show (Controller.step cfg w (.enrollNode request) s).2 = s from hsame]
      exact h
    · -- the condition leaves only an invite that had expired to be taken out for nothing
      have hx : record.expiresAt ≤ w.clock s.reads := by
        rcases sparesInvites_code hcond hv hr with hx | hcode
        · exact hx
        · exact not_lt.1 fun hlt => hno ⟨hlt, hcode⟩
      exact h.reject hclock hr hx hnew
    · exact h.enroll hclock hnew
  -- every other handler leaves the two tables alone, so what it can do decides
  generalize (Controller.step cfg w op s).2 = t at hchange ⊢
  generalize (Controller.step cfg w op s).1 = r at hchange
  cases hchange with
  | idle frame _ _ devices =>
    rcases devices with quiet | hop | hop
    · obtain ⟨es, hes, hK⟩ := quiet.events
      exact h.extend es hclock hes (fun e he => devicePassive_of_passive (hK e he)) quiet.later.reads quiet.fencingEpoch
        quiet.nodes quiet.invites
    · exact absurd hop hcreate
    · exact absurd hop henroll
  | halted _ _ _ halts =>
    rw [hhalt] at halts
    cases halts
  | admitted admission =>
    obtain ⟨es, hes, hK⟩ := admission.events
    refine h.extend es hclock hes ?_ admission.later.reads admission.fencingEpoch admission.nodes admission.invites
    intro e he
    rcases hK e he with (hk | hk | hk | hk) | hk | hk <;> rw [hk] <;> simp [DevicePassive]
  | revoked quiet => exact h.revoke hclock quiet
  | claimed _ _ result =>
    subst result
    exact h.extend _ hclock rfl (by simp [DevicePassive, Event.kind]) (Nat.le_succ _) rfl rfl rfl
  | claimLost _ append => exact absurd (hok _) append
  | @receipted receipt a _ _ _ _ quiet =>
    obtain ⟨es, hes, hK⟩ := quiet.events
    refine h.extend (.jobReceipted receipt :: es) hclock ?_ ?_ quiet.later.reads quiet.fencingEpoch quiet.nodes
      quiet.invites
    · rw [hes]
      exact List.append_assoc s.ledger _ _
    · intro e he
      rcases List.mem_cons.1 he with rfl | he
      · simp [DevicePassive, Event.kind]
      · rw [hK e he]
        simp [DevicePassive]
  | receiptLost _ _ append => exact absurd (hok _) append
  | restarted => exact absurd rfl hrestart

end

end Rampage.Controller
