/-
A complete session whose object was lost or damaged. Completion is a flag in the index, and all three
transfer operations have a shortcut for it: beginning and sending chunks change nothing, and commit
quarantines the damaged object and then refuses. So the transfer protocol never rebuilds the replica.
-/
import Rampage.Storage.Run
import Rampage.Storage.Scenario

namespace Rampage.Storage

open Rampage.Protocol

/-- The object is missing or corrupt in a way the store repairs. -/
def isDamaged (cas : CasStore) (digest : String) (s : Store) : Bool :=
  match AList.lookup digest s.objects, verifyObject cas digest s with
  | none, _ => true
  | some _, .error e => isRepairableObjectError e
  | some _, .ok _ => false

/-- The calls by which a sender transfers an artifact: begin, the chunks, and what follows is the commit. -/
def isTransferOf (sessionId : String) : Op → Bool
  | .begin _ spec => spec.sessionId == sessionId
  | .putChunk _ _ sid _ _ _ => sid == sessionId
  | _ => false

section

variable {cas : CasStore} {sessionId : String} {session : DurablePutSession} {s : Store}

theorem begin_complete (h : AList.lookup sessionId s.index.sessions = some session) (hc : session.state = .complete)
    {now : Int} {spec : ResumablePutSpec} (hs : spec.sessionId = sessionId) :
    (beginResumablePut cas now spec s).effects = [] := by
  subst hs
  unfold beginResumablePut
  split
  · rfl
  rename_i count _
  split
  · rfl
  · rfl
  · rename_i hb
    rcases beginLocked_ok hb with ⟨_, _, _, _, hb⟩ | ⟨existing, hl, _, ha, _⟩ | ⟨_, _, _, hb, _⟩
    · cases hb
    · rw [h] at hl
      cases hl
      rw [hc] at ha
      cases ha
    · cases hb
  · rename_i ix hb
    rcases beginLocked_ok hb with ⟨_, _, _, _, hb⟩ | ⟨_, _, _, _, _, _, hb⟩ | ⟨_, _, _, _, hwhich⟩
    · cases hb
    · cases hb
    · rcases hwhich with ⟨hn, _⟩ | ⟨existing, hl, _, ha, _⟩
      · rw [h] at hn
        cases hn
      · rw [h] at hl
        cases hl
        rw [hc] at ha
        cases ha

theorem putChunk_complete (h : AList.lookup sessionId s.index.sessions = some session) (hc : session.state = .complete)
    {now : Int} {nonce : Nonce} {i : Nat} {d : String} {p : Bytes} :
    (putResumableChunk cas now nonce sessionId i d p s).effects = [] := by
  have hlocked : putChunkLocked cas now sessionId i d p s = .ok .complete ∨
      ∃ e, putChunkLocked cas now sessionId i d p s = .error e := by
    unfold putChunkLocked
    split
    · rename_i e _
      exact Or.inr ⟨e, rfl⟩
    · rw [h]
      dsimp only
      rw [if_pos hc]
      exact Or.inl rfl
  unfold putResumableChunk
  rcases hlocked with hl | ⟨e, hl⟩ <;> rw [hl] <;> rfl

/-- Sending a complete session again changes nothing. -/
theorem exec_complete (h : AList.lookup sessionId s.index.sessions = some session) (hc : session.state = .complete) :
    ∀ {ops : List Op}, (∀ op ∈ ops, isTransferOf sessionId op = true) → (machine cas).exec ops s = s
  | [], _ => rfl
  | op :: ops, ho => by
    have hop : op.effects cas s = [] := by
      have := ho op (List.mem_cons_self ..)
      cases op with
      | begin now spec => exact begin_complete h hc (by simpa [isTransferOf] using this)
      | putChunk now nonce sid i d p =>
        have hs : sid = sessionId := by simpa [isTransferOf] using this
        subst hs
        exact putChunk_complete h hc
      | commit | acceptAuthority | put | restart => cases this
    show (machine cas).exec ops (storeEffects.applyAll (op.effects cas s) s) = s
    rw [hop]
    exact exec_complete h hc fun op hop => ho op (List.mem_cons_of_mem _ hop)

/-- Without an object in place, committing a complete session is refused. -/
theorem promoteTransfer_complete (hc : session.state = .complete) {now createdAt : Int} {t : Store} :
    promoteTransfer cas now createdAt sessionId session t = .fail .digestMismatch := by
  unfold promoteTransfer assemble
  rw [if_pos hc]

end

/-- However a sender transfers the artifact of a complete session whose object is lost or damaged, the commit
fails. -/
theorem complete_session_is_not_rebuilt (cas : CasStore) (s : Store) (sessionId : String) (session : DurablePutSession)
    (h : AList.lookup sessionId s.index.sessions = some session) (hc : session.state = .complete)
    (hd : isDamaged cas session.digest s = true) (ops : List Op) (ho : ∀ op ∈ ops, isTransferOf sessionId op = true)
    (now createdAt : Int) :
    let sent := (machine cas).exec ops s
    let after := storeEffects.applyAll (commitResumablePut cas now createdAt sessionId sent).effects sent
    (∀ artifact, (commitResumablePut cas now createdAt sessionId sent).result ≠ .ok artifact) ∧
      (isSessionId sessionId = true → isSha256Digest session.digest = true →
        (commitResumablePut cas now createdAt sessionId sent).result = .error .digestMismatch ∧
          get cas session.digest after = .error (.notFound session.digest)) := by
  intro sent after
  have hsent : sent = s := exec_complete h hc ho
  have hobject : ∀ t, AList.lookup session.digest t.objects = none → isSha256Digest session.digest = true →
      get cas session.digest t = .error (.notFound session.digest) := by
    intro t ht hdigest
    simp [get, readManifest, objectDir, hdigest, dirOf, ht, Dir.empty]
  -- the commit is refused at the session id, at the digest, or because the session is complete
  have hcommit : (∃ e, commitResumablePut cas now createdAt sessionId s = .fail e ∧
        (isSessionId sessionId = false ∨ isSha256Digest session.digest = false)) ∨
      (commitResumablePut cas now createdAt sessionId s = .fail .digestMismatch ∧ AList.lookup session.digest s.objects = none) ∨
      commitResumablePut cas now createdAt sessionId s =
        Plan.after [Effect.quarantine session.digest] (.fail .digestMismatch) := by
    unfold commitResumablePut transferDir objectDir
    cases hid : isSessionId sessionId with
    | false => exact Or.inl ⟨_, rfl, Or.inl rfl⟩
    | true =>
      cases hdig : isSha256Digest session.digest with
      | false =>
        refine Or.inl ⟨.invalidDigest, ?_, Or.inr rfl⟩
        simp [h, hdig]
      | true =>
        simp only [if_true, h, hdig]
        cases hobj : AList.lookup session.digest s.objects with
        | none =>
          refine Or.inr (Or.inl ⟨?_, rfl⟩)
          simp [promoteTransfer_complete hc]
        | some dir =>
          refine Or.inr (Or.inr ?_)
          simp only [isDamaged, hobj] at hd
          cases hv : verifyObject cas session.digest s with
          | ok c => simp [hv] at hd
          | error e =>
            have hrep : isRepairableObjectError e = true := by simpa [hv] using hd
            simp [hrep, promoteTransfer_complete hc]
  have hafter : after = storeEffects.applyAll (commitResumablePut cas now createdAt sessionId s).effects s := by
    show storeEffects.applyAll (commitResumablePut cas now createdAt sessionId sent).effects sent = _
    rw [hsent]
  rw [hsent, hafter]
  rcases hcommit with ⟨e, he, hbad⟩ | ⟨he, hnone⟩ | he
  · rw [he]
    refine ⟨fun artifact hr => (by cases hr), ?_⟩
    intro hid hdig
    rcases hbad with hbad | hbad
    · rw [hid] at hbad
      cases hbad
    · rw [hdig] at hbad
      cases hbad
  · rw [he]
    refine ⟨fun artifact hr => (by cases hr), fun _ hdig => ⟨rfl, ?_⟩⟩
    exact hobject s hnone hdig
  · rw [he]
    refine ⟨fun artifact hr => (by cases hr), fun _ hdig => ⟨rfl, ?_⟩⟩
    refine hobject _ ?_ hdig
    show AList.lookup session.digest (AList.erase session.digest s.objects) = none
    exact AList.lookup_erase _ _

/-! ## A run -/

section

open Scenario

/-- The sender's protocol without its commit. -/
def sending (epoch : Nat) (authorityNonce : String) : List Op :=
  [.begin 0 (spec epoch authorityNonce (millis 1000)), .putChunk 0 (nonce 0) session 0 (sha256Digest cas [1]) [1],
    .putChunk 0 (nonce 1) session 1 (sha256Digest cas [2]) [2]]

/-- The store after a first transfer was committed. -/
def committed : Store := (machine cas).exec (sending 1 "n1" ++ [.commit 0 0 session]) Store.empty

/-- The same store with the object lost. -/
def lost : Store := { committed with objects := AList.erase digest committed.objects }

/-- The row of the session that was committed. -/
def completeSession : DurablePutSession := { newSession (spec 1 "n1" (millis 1000)) 2 with state := .complete }

/-- The artifact was readable; without its object the session stays complete and its commit is refused. -/
theorem lost_store : get cas digest committed = .ok [1, 2] ∧
    AList.lookup session lost.index.sessions = some completeSession ∧ isDamaged cas digest lost = true ∧
    (commitResumablePut cas 0 0 session lost).result = .error .digestMismatch ∧
      get cas digest (storeEffects.applyAll (commitResumablePut cas 0 0 session lost).effects lost) =
        .error (.notFound digest) := by
  decide +kernel

theorem complete_session_is_not_rebuilt_lost :
    AList.lookup session lost.index.sessions = some completeSession ∧
      (commitResumablePut cas 0 0 session ((machine cas).exec (sending 1 "n2") lost)).result = .error .digestMismatch := by
  obtain ⟨-, hl, hdamaged, -⟩ := lost_store
  refine ⟨hl, ?_⟩
  exact ((complete_session_is_not_rebuilt cas lost session completeSession hl rfl hdamaged (sending 1 "n2")
    (by decide +kernel) 0 0).2 (by decide +kernel) (by decide +kernel)).1

/-- The artifact was stored and readable, its object is lost, and the protocol under a fresh lease ends with a
refused commit and no object. -/
theorem lost_replica_is_not_rebuilt :
    get cas digest committed = .ok [1, 2] ∧
      (AList.lookup session lost.index.sessions).map (·.state) = some .complete ∧ isDamaged cas digest lost = true ∧
      let sent := (machine cas).exec (sending 1 "n2") lost
      (commitResumablePut cas 0 0 session sent).result = .error .digestMismatch ∧
        get cas digest (storeEffects.applyAll (commitResumablePut cas 0 0 session sent).effects sent) =
          .error (.notFound digest) := by
  obtain ⟨hstored, hl, hdamaged, hcommit⟩ := lost_store
  -- the protocol changes nothing in a store whose session is complete
  have hsent : (machine cas).exec (sending 1 "n2") lost = lost := exec_complete hl rfl (by decide +kernel)
  refine ⟨hstored, by rw [hl]; rfl, hdamaged, ?_⟩
  intro sent
  have hsame : sent = lost := hsent
  rw [hsame]
  exact hcommit

end

end Rampage.Storage
