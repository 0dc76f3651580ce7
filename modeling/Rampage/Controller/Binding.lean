/-
Which key a node id is bound to. `enroll_node` checks the invite and the device's own signature and then inserts the
identity, whatever the node id was bound to before; `revoke_node` forgets the node before it records its self-scan, and
answers with an error if that record fails. `binding_is_kept_iff` says in which runs a node id stays bound to its key
until its revocation is answered with success: those in which neither happens.
-/
import Rampage.Controller.Scenario

namespace Rampage.Controller

open Rampage.Protocol Rampage.Planner Rampage.Governor Rampage.Ledger Handler

/-- The key an enrolled node id is bound to. -/
def boundKey (s : AppState) (nodeId : Uuid) : Option String := (s.nodes.lookup nodeId).map (·.publicKey)

/-! ## What reaches the node table -/

/-- `enroll_node` reaches the node table: the request is signed, its invite is stored, has not expired and is opened
by the code, and the ledger takes the record of the consumed invite. -/
def entersTable (cfg : Config) (w : World) (s : Host) (request : EnrollmentRequestV1) : Bool :=
  (verifyEnrollment cfg request matches .ok _) &&
    (s.invites.lookup request.inviteId).any (fun record =>
      decide (w.clock s.reads < record.expiresAt) && record.secretHash == cfg.hashSecret request.enrollmentCode) &&
    (w.appendFailure s.appends).isNone

/-- `revoke_node` reaches the node table: it is confirmed, the node is enrolled and the ledger takes the revocation. -/
def leavesTable (w : World) (s : Host) (nodeId : Uuid) (confirmed : Bool) : Bool :=
  confirmed && (s.nodes.lookup nodeId).isSome && (w.appendFailure s.appends).isNone

/-- The ledger takes what a self-scan has to record, from the given append on. -/
def scanIsRecorded (w : World) (found : Diagnosis) (appends : Nat) : Bool :=
  (!found.constraintsChanged || (w.appendFailure appends).isNone) &&
    (!found.reportChanged || (w.appendFailure (if found.constraintsChanged then appends + 1 else appends)).isNone)

section

variable {cfg : Config} {w : World}

theorem verifyEnrollment_schema {request : EnrollmentRequestV1} (h : verifyEnrollment cfg request = .ok ()) :
    request.schema = "rampage.enrollment-request.v1" := by
  unfold verifyEnrollment at h
  split at h
  · cases h
  · rename_i hno
    simp only [not_or, not_not] at hno
    exact hno.1

/-- An append leaves the tables alone. -/
theorem append_nodes (e : Event) (s : Host) : (append w e s).2.nodes = s.nodes := by
  unfold append
  split <;> rfl

theorem createInvite_nodes (s : Host) : (createInvite cfg w s).2.nodes = s.nodes := by
  unfold createInvite
  cases cfg.localEnrollmentEnabled with
  | false => rfl
  | true =>
    rw [ensure_true_bind]
    show ((append w _ >>= fun _ => utcNow w >>= _ : Request EnrollmentInvite) { s with
      invites := s.invites.insert (w.uuid s.uuids) ⟨cfg.hashSecret (w.text s.texts), w.clock s.reads + minutes 10⟩
      reads := s.reads + 1
      uuids := s.uuids + 1
      texts := s.texts + 1 }).2.nodes = _
    rcases ha : append w _ _ with ⟨e | u, s₁⟩
    · rw [bind_of_error ha]
      obtain ⟨_, rfl⟩ := append_error ha
      rfl
    · rw [bind_of_ok ha]
      obtain ⟨_, rfl⟩ := append_ok ha
      rfl

/-- The last part of `enroll_node`, once the ledger has taken the consumed invite. -/
def enrolling (request : EnrollmentRequestV1) (s : Host) : Host :=
  { s with
    invites := s.invites.erase request.inviteId
    reads := s.reads + 1
    ledger := s.ledger ++ [.inviteConsumed request.inviteId request.identity.nodeId]
    appends := s.appends + 1
    nodes := s.nodes.insert request.identity.nodeId request.identity }

/-- `enroll_node` leaves the table and the ledger alone, or reaches the table and records the enrolment if the ledger
takes it. -/
theorem enrollNode_state (request : EnrollmentRequestV1) (s : Host) :
    (entersTable cfg w s request = false ∧ (enrollNode cfg w request s).2.nodes = s.nodes ∧
      (enrollNode cfg w request s).2.ledger = s.ledger) ∨
    (entersTable cfg w s request = true ∧
      (enrollNode cfg w request s).2 = (append w (.nodeEnrolled request.identity) (enrolling request s)).2) := by
  unfold enrollNode entersTable
  cases hverify : verifyEnrollment cfg request with
  | error d =>
    refine Or.inl ⟨rfl, ?_⟩
    cases request.schema == "rampage.enrollment-request.v1" <;> exact ⟨rfl, rfl⟩
  | ok u =>
    rw [verifyEnrollment_schema hverify, beq_self_eq_true, ensure_true_bind]
    cases hinvite : s.invites.lookup request.inviteId with
    | none =>
      have htake : takeInvite request.inviteId s =
          (.error { status := .unauthorized, error := "unknown or already consumed invite" }, s) := by
        simp only [takeInvite, hinvite]
      refine Or.inl ⟨rfl, ?_⟩
      show ((takeInvite request.inviteId >>= _ : Request (Uuid × Nat)) s).2.nodes = _ ∧
        ((takeInvite request.inviteId >>= _ : Request (Uuid × Nat)) s).2.ledger = _
      rw [bind_of_error htake]
      exact ⟨rfl, rfl⟩
    | some record =>
      have htake : takeInvite request.inviteId s = (.ok record, { s with invites := s.invites.erase request.inviteId }) := by
        simp only [takeInvite, hinvite]
      show (_ ∧ ((takeInvite request.inviteId >>= _ : Request (Uuid × Nat)) s).2.nodes = _ ∧
        ((takeInvite request.inviteId >>= _ : Request (Uuid × Nat)) s).2.ledger = _) ∨
        (_ ∧ ((takeInvite request.inviteId >>= _ : Request (Uuid × Nat)) s).2 = _)
      rw [bind_of_ok htake, utcNow_bind]
      cases hcode : decide (w.clock s.reads < record.expiresAt) &&
          record.secretHash == cfg.hashSecret request.enrollmentCode with
      | false =>
        rw [ensure_false_bind]
        exact Or.inl ⟨by simp [hcode], rfl, rfl⟩
      | true =>
        rw [ensure_true_bind]
        cases hf : w.appendFailure s.appends with
        | some text =>
          have herr : append w (.inviteConsumed request.inviteId request.identity.nodeId)
              { s with invites := s.invites.erase request.inviteId, reads := s.reads + 1 } = (.error (internalError text),
                { s with invites := s.invites.erase request.inviteId, reads := s.reads + 1, appends := s.appends + 1 }) := by
            simp only [append, hf]
          rw [bind_of_error herr]
          exact Or.inl ⟨by simp, rfl, rfl⟩
        | none =>
          refine Or.inr ⟨by simp [hcode], ?_⟩
          have hf' : w.appendFailure
              ({ s with invites := s.invites.erase request.inviteId, reads := s.reads + 1 } : Host).appends = none := hf
          rw [append_bind _ hf', modify_bind]
          -- whether or not the second event is taken, the answer changes nothing more
          rcases ha : append w (.nodeEnrolled request.identity) (enrolling request s) with ⟨e | u, s₁⟩
          · exact congrArg Prod.snd (bind_of_error ha)
          · exact congrArg Prod.snd (bind_of_ok ha)

/-- What `enroll_node` does to the node table. -/
theorem enrollNode_nodes (request : EnrollmentRequestV1) (s : Host) : (enrollNode cfg w request s).2.nodes =
    if entersTable cfg w s request then s.nodes.insert request.identity.nodeId request.identity else s.nodes := by
  rcases @enrollNode_state cfg w request s with ⟨hno, hnodes, _⟩ | ⟨henters, hstate⟩
  · rw [hnodes, hno]
    rfl
  · rw [hstate, henters, append_nodes]
    rfl

/-- A self-scan is answered if the ledger takes its records. -/
theorem refreshDiagnostics_ok (s : Host) : (refreshDiagnostics w s).1 = .ok () ↔
    scanIsRecorded w (w.diagnosis s.reads) s.appends = true := by
  unfold refreshDiagnostics scanIsRecorded
  rw [get_bind, utcNow_bind]
  generalize w.diagnosis s.reads = found
  cases hc : found.constraintsChanged with
  | false =>
    cases hr : found.reportChanged with
    | false => simp [applyConstraints, recordScan, hc, hr, pure, bind]
    | true =>
      cases hf : w.appendFailure s.appends <;>
        simp [applyConstraints, recordScan, hc, hr, hf, append, mapError, pure, bind]
  | true =>
    cases hf : w.appendFailure s.appends with
    | some text => simp [applyConstraints, hc, hf, append, mapError, bind]
    | none =>
      cases hr : found.reportChanged with
      | false => simp [applyConstraints, recordScan, hc, hr, hf, append, mapError, Handler.modify, pure, bind]
      | true =>
        cases hf' : w.appendFailure (s.appends + 1) <;>
          simp [applyConstraints, recordScan, hc, hr, hf, hf', append, mapError, Handler.modify, bind]

/-- A revocation that reaches the table forgets the node and scans. -/
theorem revokeNode_leaves {nodeId : Uuid} {confirmed : Bool} {s : Host} (h : leavesTable w s nodeId confirmed = true) :
    ∃ e, revokeNode w nodeId confirmed s = refreshDiagnostics w (forgetNode nodeId { s with
      ledger := s.ledger ++ [e]
      reads := s.reads + 1
      appends := s.appends + 1 }) := by
  simp only [leavesTable, Bool.and_eq_true, Option.isSome_iff_exists, Option.isNone_iff_eq_none] at h
  obtain ⟨⟨rfl, identity, hn⟩, hf⟩ := h
  refine ⟨.nodeRevoked nodeId identity.displayName identity.publicKey, ?_⟩
  unfold revokeNode
  rw [ensure_true_bind, get_bind]
  simp only [hn]
  rw [utcNow_bind]
  have happend : append w (.nodeRevoked nodeId identity.displayName identity.publicKey) { s with reads := s.reads + 1 } =
      (.ok (), { s with
        ledger := s.ledger ++ [.nodeRevoked nodeId identity.displayName identity.publicKey]
        reads := s.reads + 1
        appends := s.appends + 1 }) := by
    simp only [append, hf]
  rw [bind_of_ok happend]
  rfl

/-- Any other revocation is refused, and leaves the nodes alone. -/
theorem revokeNode_stays {nodeId : Uuid} {confirmed : Bool} {s : Host} (h : leavesTable w s nodeId confirmed = false) :
    (∃ e, (revokeNode w nodeId confirmed s).1 = .error e) ∧ (revokeNode w nodeId confirmed s).2.nodes = s.nodes := by
  unfold revokeNode
  cases confirmed with
  | false => exact ⟨⟨_, rfl⟩, rfl⟩
  | true =>
    rw [ensure_true_bind, get_bind]
    cases hn : s.nodes.lookup nodeId with
    | none => exact ⟨⟨_, rfl⟩, rfl⟩
    | some identity =>
      dsimp only
      rw [utcNow_bind]
      rcases ha : append w (.nodeRevoked nodeId identity.displayName identity.publicKey) { s with reads := s.reads + 1 }
        with ⟨e | u, s₁⟩
      · obtain ⟨_, rfl⟩ := append_error ha
        rw [bind_of_error ha]
        exact ⟨⟨e, rfl⟩, rfl⟩
      · obtain ⟨hf, _⟩ := append_ok ha
        have hf : w.appendFailure s.appends = none := hf
        simp [leavesTable, hn, hf] at h

theorem revokeNode_nodes (nodeId : Uuid) (confirmed : Bool) (s : Host) : (revokeNode w nodeId confirmed s).2.nodes =
    if leavesTable w s nodeId confirmed then s.nodes.erase nodeId else s.nodes := by
  cases h : leavesTable w s nodeId confirmed with
  | false => exact (revokeNode_stays h).2
  | true =>
    obtain ⟨e, he⟩ := revokeNode_leaves h
    rw [he, (quiet_refreshDiagnostics _).nodes]
    rfl

theorem revokeNode_ok (nodeId : Uuid) (confirmed : Bool) (s : Host) : (revokeNode w nodeId confirmed s).1 = .ok () ↔
    leavesTable w s nodeId confirmed = true ∧ scanIsRecorded w (w.diagnosis (s.reads + 1)) (s.appends + 1) = true := by
  cases h : leavesTable w s nodeId confirmed with
  | false =>
    obtain ⟨e, he⟩ := (revokeNode_stays h).1
    rw [he]
    simp
  | true =>
    obtain ⟨e, he⟩ := revokeNode_leaves h
    rw [he, refreshDiagnostics_ok]
    simp [forgetNode]

end

/-! ## Runs -/

/-- A revocation of the node that was answered with success. -/
def revokes (nodeId : Uuid) : Op × Reply → Bool
  | (.revokeNode m _, .revoked (.ok _)) => m == nodeId
  | _ => false

/-- Over a run from `s`, a bound node id keeps its key unless its revocation was answered with success. -/
def BindingKept (cfg : Config) (w : World) (s : Host) (ops : List Op) : Prop :=
  ∀ nodeId key, boundKey s.toAppState nodeId = some key →
    (∀ e ∈ (machine cfg w).trace ops s, revokes nodeId e = false) →
    boundKey ((machine cfg w).exec ops s).toAppState nodeId = some key

/-- An enrolment that reaches the table finds the node id free or bound to the key it brings, and a revocation that
reaches the table has its self-scan recorded. -/
def keepsBinding (cfg : Config) (w : World) (s : Host) : Op → Bool
  | .enrollNode request =>
    !entersTable cfg w s request ||
      (boundKey s.toAppState request.identity.nodeId).all (· == request.identity.publicKey)
  | .revokeNode nodeId confirmed =>
    !leavesTable w s nodeId confirmed || scanIsRecorded w (w.diagnosis (s.reads + 1)) (s.appends + 1)
  | _ => true

section

variable {cfg : Config} {w : World} {s : Host}

/-- Beside the two enrolment handlers and a restart, no step touches the node table. -/
theorem step_nodes {op : Op} (hrestart : op ≠ .restart) (henroll : ∀ request, op ≠ .enrollNode request)
    (hrevoke : ∀ nodeId confirmed, op ≠ .revokeNode nodeId confirmed) : (step cfg w op s).2.nodes = s.nodes := by
  have hchange := @step_change cfg w op s
  by_cases hcreate : op = .createInvite
  · subst hcreate
    exact createInvite_nodes s
  generalize (step cfg w op s).2 = t at hchange ⊢
  generalize (step cfg w op s).1 = r at hchange
  cases hchange with
  | idle _ _ _ devices =>
    rcases devices with quiet | hop | ⟨request, hop⟩
    · exact quiet.nodes
    · exact absurd hop hcreate
    · exact absurd hop (henroll request)
  | halted halting => exact halting.nodes
  | admitted admission => exact admission.nodes
  | @revoked nodeId confirmed => exact absurd rfl (hrevoke nodeId confirmed)
  | claimed _ _ result =>
    rw [result]
    rfl
  | claimLost _ _ result =>
    rw [result]
    rfl
  | receipted _ _ _ quiet => exact quiet.nodes
  | receiptLost _ _ _ result =>
    rw [result]
    rfl
  | restarted => exact absurd rfl hrestart

/-- A step that meets the condition keeps every binding it does not revoke. -/
theorem step_binding {op : Op} (hrestart : op ≠ .restart) (hc : keepsBinding cfg w s op = true) {nodeId : Uuid}
    {key : String} (hk : boundKey s.toAppState nodeId = some key)
    (hno : revokes nodeId (op, (step cfg w op s).1) = false) :
    boundKey (step cfg w op s).2.toAppState nodeId = some key := by
  by_cases henroll : ∃ request, op = .enrollNode request
  · obtain ⟨request, rfl⟩ := henroll
    show ((enrollNode cfg w request s).2.nodes.lookup nodeId).map _ = _
    rw [enrollNode_nodes]
    cases hin : entersTable cfg w s request with
    | false => exact hk
    | true =>
      rw [if_pos rfl, Table.lookup_insert']
      by_cases hn : nodeId = request.identity.nodeId
      · -- the identity that is replaced has the key of the new one
        rw [if_pos hn]
        subst hn
        have heq : key = request.identity.publicKey := by simpa [keepsBinding, hin, hk] using hc
        rw [heq]
        rfl
      · rw [if_neg hn]
        exact hk
  by_cases hrevoke : ∃ m confirmed, op = .revokeNode m confirmed
  · obtain ⟨m, confirmed, rfl⟩ := hrevoke
    show ((revokeNode w m confirmed s).2.nodes.lookup nodeId).map _ = _
    rw [revokeNode_nodes]
    cases hout : leavesTable w s m confirmed with
    | false => exact hk
    | true =>
      have hscan : scanIsRecorded w (w.diagnosis (s.reads + 1)) (s.appends + 1) = true := by
        simpa [keepsBinding, hout] using hc
      have hok := (revokeNode_ok m confirmed s).2 ⟨hout, hscan⟩
      have hno : revokes nodeId (.revokeNode m confirmed, .revoked (revokeNode w m confirmed s).1) = false := hno
      rw [hok] at hno
      have hne : nodeId ≠ m := by
        rintro rfl
        simp [revokes] at hno
      rw [if_pos rfl, Table.lookup_erase', if_neg hne]
      exact hk
  · rw [boundKey, step_nodes hrestart (fun request hop => henroll ⟨request, hop⟩)
      fun m confirmed hop => hrevoke ⟨m, confirmed, hop⟩]
    exact hk

/-- A step that does not meet the condition takes a node id from the key it was bound to. -/
theorem step_rebinds {op : Op} (hc : keepsBinding cfg w s op = false) : ¬ BindingKept cfg w s [op] := by
  intro hkept
  cases op with
  | enrollNode request =>
    simp only [keepsBinding, Bool.or_eq_false_iff, Bool.not_eq_false'] at hc
    obtain ⟨hin, hkey⟩ := hc
    obtain ⟨key, hk, hne⟩ : ∃ key, boundKey s.toAppState request.identity.nodeId = some key ∧
        key ≠ request.identity.publicKey := by
      cases hk : boundKey s.toAppState request.identity.nodeId with
      | none => simp [hk] at hkey
      | some key => exact ⟨key, rfl, by simpa [hk] using hkey⟩
    -- if the binding were kept, the table would still have the old key
    have hafter : boundKey (enrollNode cfg w request s).2.toAppState request.identity.nodeId = some key :=
      hkept _ key hk (by simp [Machine.trace, revokes])
    rw [boundKey, enrollNode_nodes, if_pos hin, Table.lookup_insert', if_pos rfl] at hafter
    exact hne (Option.some.inj hafter).symm
  | revokeNode nodeId confirmed =>
    simp only [keepsBinding, Bool.or_eq_false_iff, Bool.not_eq_false'] at hc
    obtain ⟨hout, hscan⟩ := hc
    obtain ⟨key, hk⟩ : ∃ key, boundKey s.toAppState nodeId = some key := by
      simp only [leavesTable, Bool.and_eq_true] at hout
      obtain ⟨identity, hn⟩ := Option.isSome_iff_exists.1 hout.1.2
      exact ⟨identity.publicKey, by rw [boundKey, hn]; rfl⟩
    have hno : revokes nodeId (.revokeNode nodeId confirmed, .revoked (revokeNode w nodeId confirmed s).1) = false := by
      rcases hr : (revokeNode w nodeId confirmed s).1 with e | u
      · rfl
      · have := ((revokeNode_ok (w := w) nodeId confirmed s).1 hr).2
        rw [hscan] at this
        cases this
    have hafter : boundKey (revokeNode w nodeId confirmed s).2.toAppState nodeId = some key :=
      hkept nodeId key hk fun e he => by
        rw [List.mem_singleton.1 he]
        exact hno
    rw [boundKey, revokeNode_nodes, if_pos hout, Table.lookup_erase', if_pos rfl] at hafter
    cases hafter
  | _ => cases hc

/-- A run whose steps meet the condition keeps every binding it does not revoke. -/
theorem run_binding : ∀ {ops : List Op} {s : Host}, .restart ∉ ops →
    (machine cfg w).Meets (fun s op => keepsBinding cfg w s op = true) ops s → BindingKept cfg w s ops
  | [], _, _, _ => fun _ _ hk _ => hk
  | op :: ops, s, hr, hm => by
    rw [List.mem_cons, not_or] at hr
    intro nodeId key hk hno
    refine run_binding hr.2 hm.2 nodeId key ?_ fun e he => hno e (List.mem_cons_of_mem _ he)
    exact step_binding (fun hop => hr.1 hop.symm) hm.1 hk (hno _ (List.mem_cons_self ..))

end

/-- Over every stretch of a run, a node id stays bound to its key until its revocation is answered with success, if and
only if every enrolment that reaches the node table finds the node id free or bound to the same key, and every
revocation that reaches it has its self-scan recorded. -/
theorem binding_is_kept_iff (cfg : Config) (w : World) (s : Host) (ops : List Op) (hr : .restart ∉ ops) :
    (∀ before during after, ops = before ++ during ++ after →
      BindingKept cfg w ((machine cfg w).exec before s) during) ↔
    (machine cfg w).Meets (fun s op => keepsBinding cfg w s op = true) ops s := by
  constructor
  · intro h
    induction ops generalizing s with
    | nil => trivial
    | cons op ops ih =>
      rw [List.mem_cons, not_or] at hr
      constructor
      · by_contra hc
        exact step_rebinds (Bool.eq_false_iff.2 hc) (h [] [op] ops rfl)
      · refine ih _ hr.2 fun before during after hops => ?_
        exact h (op :: before) during after (by rw [hops]; rfl)
  · rintro hm before during after rfl
    simp only [Machine.meets_append] at hm
    simp only [List.mem_append, not_or] at hr
    exact run_binding hr.1.2 hm.1.2

namespace Scenario

/-- Another device asks for the node id that is enrolled, with the second invite and a key of its own. -/
def rival : EnrollmentRequestV1 :=
  { enrollment with
    inviteId := 2
    identity := { identity with publicKey := "1111111111111111111111111111111111111111111111111111111111111111" } }

/-- The device enrols again, with the second invite. -/
def again : EnrollmentRequestV1 := { enrollment with inviteId := 2 }

end Scenario

/-- A device that enrols again with its own key keeps its binding. -/
theorem binding_is_kept_again :
    Op.restart ∉ ([.createInvite, .enrollNode Scenario.enrollment, .createInvite, .enrollNode Scenario.again] : List Op) ∧
    BindingKept Scenario.config Scenario.world
      ((machine Scenario.config Scenario.world).exec [.createInvite, .enrollNode Scenario.enrollment] Scenario.start)
      [.createInvite, .enrollNode Scenario.again] := by
  refine ⟨by simp, ?_⟩
  exact (binding_is_kept_iff Scenario.config Scenario.world Scenario.start
    [.createInvite, .enrollNode Scenario.enrollment, .createInvite, .enrollNode Scenario.again] (by simp)).2
    (by decide +kernel) [.createInvite, .enrollNode Scenario.enrollment] [.createInvite, .enrollNode Scenario.again] [] rfl

/-- A second invite lets another key take over an enrolled node id. -/
theorem second_invite_rebinds : ¬ ∀ (cfg : Config) (w : World) (epoch : Nat)
    (head : String → Except String ArtifactRefV1) (before during : List Op), .restart ∉ before ++ during →
    BindingKept cfg w ((machine cfg w).exec before (initial epoch head)) during := by
  intro h
  have hrun := h Scenario.config Scenario.world 0 (fun _ => .error "missing")
    [.createInvite, .enrollNode Scenario.enrollment] [.createInvite, .enrollNode Scenario.rival] (by simp)
    77 Scenario.identity.publicKey (by decide +kernel) (by decide +kernel)
  revert hrun
  decide +kernel

end Rampage.Controller
