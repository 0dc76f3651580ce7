/-
What the operations do: for each, the effects it can have and what it has checked by then. The proofs about
runs use these cases and do not unfold the operations again.
-/
import Rampage.Storage.Layout
import Rampage.Storage.Run
import Rampage.Storage.Authority

namespace Rampage.Storage

open Rampage.Protocol

/-! ## Directories -/

theorem dirOf_insert (t : Table String Dir) (name name' : String) (d : Dir) :
    dirOf (AList.insert name d t) name' = if name' = name then d else dirOf t name' := by
  unfold dirOf
  rw [Table.lookup_insert']
  split <;> rfl

theorem dirOf_erase (t : Table String Dir) (name name' : String) :
    dirOf (AList.erase name t) name' = if name' = name then .empty else dirOf t name' := by
  unfold dirOf
  rw [Table.lookup_erase']
  split <;> rfl

@[simp] theorem transfer_commit (ix : Index) (s : Store) (sid : String) :
    (Effect.apply (.commit ix) s).transfer sid = s.transfer sid := rfl

@[simp] theorem transfer_createTransferDir (s : Store) (sid sid' : String) :
    (Effect.apply (.createTransferDir sid) s).transfer sid' = s.transfer sid' := by
  show dirOf (AList.insert sid (s.transfer sid) s.transfers) sid' = _
  rw [dirOf_insert]
  split
  · rename_i h
    rw [h]
  · rfl

theorem transfer_removeChunk (s : Store) (sid sid' : String) (i : Nat) :
    (Effect.apply (.removeChunk sid i) s).transfer sid' =
      if sid' = sid then { s.transfer sid with chunks := AList.erase i (s.transfer sid).chunks } else s.transfer sid' :=
  dirOf_insert _ _ _ _

theorem transfer_renameChunk (s : Store) (sid sid' : String) (i : Nat) (c : Bytes) :
    (Effect.apply (.renameChunk sid i c) s).transfer sid' =
      if sid' = sid then { s.transfer sid with chunks := AList.insert i c (s.transfer sid).chunks } else s.transfer sid' :=
  dirOf_insert _ _ _ _

theorem transfer_writeManifest (s : Store) (sid sid' : String) (m : Manifest) :
    (Effect.apply (.writeManifest sid m) s).transfer sid' =
      if sid' = sid then { s.transfer sid with manifest := some (.json m) } else s.transfer sid' :=
  dirOf_insert _ _ _ _

theorem transfer_promote (s : Store) (sid sid' digest : String) :
    (Effect.apply (.promote sid digest) s).transfer sid' = if sid' = sid then .empty else s.transfer sid' :=
  dirOf_erase _ _ _

/-- Verification depends on the objects only. -/
theorem verifyObject_congr {cas : CasStore} {s t : Store} (h : t.objects = s.objects) (digest : String) :
    verifyObject cas digest t = verifyObject cas digest s := by
  unfold verifyObject readManifest
  rw [h]

theorem get_congr {cas : CasStore} {s t : Store} (h : t.objects = s.objects) (digest : String) :
    get cas digest t = get cas digest s := by
  unfold get readManifest
  rw [h]

/-! ## Plans -/

theorem applyAll_after {α : Type} (l : List Effect) (p : Operation α) (s : Store) :
    storeEffects.applyAll (Plan.after l p).effects s = storeEffects.applyAll p.effects (storeEffects.applyAll l s) :=
  Effects.applyAll_append storeEffects l p.effects s

/-! ## Beginning a session -/

section

variable {cas : CasStore} {now : Int} {spec : ResumablePutSpec} {s : Store}

/-- What `begin_resumable_put` makes durable. -/
inductive BeginEffects (cas : CasStore) (now : Int) (spec : ResumablePutSpec) (s : Store) : List Effect → Prop
  | none : BeginEffects cas now spec s []
  | unchanged : BeginEffects cas now spec s [.createTransferDir spec.sessionId]
  | accepted {count : Nat} {session : DurablePutSession} {taken : Index} (arrive : beginArrive now spec = .ok count)
      (accept : acceptAuthorityInTransaction spec.authorityScope spec.fencingEpoch spec.authorityNonce
        (timestampMillis spec.expiresAt) (timestampMillis now) s.index = .ok taken)
      (row : (AList.lookup spec.sessionId s.index.sessions = none ∧ session = newSession spec count) ∨
        ∃ existing, AList.lookup spec.sessionId s.index.sessions = some existing ∧
          ensureSessionContract existing spec count = .ok () ∧ existing.state = .active ∧
          session = renewSession existing spec) :
      BeginEffects cas now spec s
        [.commit { taken with sessions := AList.insert spec.sessionId session taken.sessions },
          .createTransferDir spec.sessionId]

theorem begin_effects : BeginEffects cas now spec s (beginResumablePut cas now spec s).effects := by
  unfold beginResumablePut
  split
  · exact .none
  rename_i count harrive
  split
  · exact .none
  · exact .none
  · exact .unchanged
  · rename_i ix hb
    rcases beginLocked_ok hb with ⟨_, _, _, _, hb⟩ | ⟨_, _, _, _, _, _, hb⟩ | ⟨session, taken, haccept, hb, hrow⟩
    · cases hb
    · cases hb
    · cases hb
      exact .accepted harrive haccept hrow

/-- The authority on record changes nothing else in the index. -/
theorem accept_index {scope nonce : String} {epoch : Nat} {expiresAt nowMillis : Int} {ix ix' : Index}
    (h : acceptAuthorityInTransaction scope epoch nonce expiresAt nowMillis ix = .ok ix') :
    ix'.sessions = ix.sessions ∧ ix'.chunks = ix.chunks ∧ ix'.artifacts = ix.artifacts := by
  obtain ⟨_, _, rfl⟩ := acceptAuthorityInTransaction_ok h
  exact ⟨rfl, rfl, rfl⟩

/-! ## Storing a chunk -/

/-- What `put_resumable_chunk` has checked when it keeps or stores a chunk of `size` bytes of an active session. -/
structure Checked (cas : CasStore) (now : Int) (sid : String) (i : Nat) (d : String) (p : Bytes) (s : Store)
    (session : DurablePutSession) (size : Nat) : Prop where
  wellFormed : transferDir sid = .ok ()
  found : AList.lookup sid s.index.sessions = some session
  active : session.state = .active
  unexpired : timestampMillis now < session.expiresAtMillis
  current : ensureEpochIsCurrent session.authorityScope session.fencingEpoch s.index = .ok ()
  countBound : session.chunkCount < 2 ^ 32
  inRange : i < session.chunkCount
  expected : expectedChunkSize session.sizeBytes session.chunkSize i = .ok size
  length : p.length = size
  digest : sha256Digest cas p = d

variable {sid : String} {i : Nat} {d : String} {p : Bytes}

/-- The checks passed: the chunk is kept or stored, according to its row and file. -/
theorem putChunkLocked_of_checked {session : DurablePutSession} {size : Nat}
    (h : Checked cas now sid i d p s session size) : putChunkLocked cas now sid i d p s =
      match AList.lookup (sid, i) s.index.chunks with
      | none => .ok (.stored size)
      | some row =>
        if row.plaintextSize ≠ size ∨ row.plaintextDigest ≠ sha256Digest cas p then .error .transferConflict
        else (chunkIsStored cas row (AList.lookup i (s.transfer sid).chunks)).map fun stored =>
          if stored then .kept else .stored size := by
  have hne : session.state ≠ .complete := by
    rw [h.active]
    exact SessionState.noConfusion
  unfold putChunkLocked
  rw [h.wellFormed]
  dsimp only
  rw [h.found]
  dsimp only
  rw [if_neg hne, if_neg (not_le.2 h.unexpired), h.current]
  dsimp only
  rw [if_neg (Nat.not_le.2 h.countBound), if_neg (Nat.not_le.2 h.inRange), h.expected]
  dsimp only
  refine (if_neg (not_not.2 h.length)).trans ((if_neg (not_not.2 h.digest)).trans ?_)
  cases AList.lookup (sid, i) s.index.chunks <;> rfl

/-- Otherwise the call is refused, or the session is complete. -/
theorem putChunkLocked_cases : (∃ e, putChunkLocked cas now sid i d p s = .error e) ∨
    (putChunkLocked cas now sid i d p s = .ok .complete ∧
      ∃ session, AList.lookup sid s.index.sessions = some session ∧ session.state = .complete) ∨
    ∃ session size, Checked cas now sid i d p s session size := by
  unfold putChunkLocked
  split
  · rename_i e _
    exact Or.inl ⟨e, rfl⟩
  rename_i hdir
  split
  · exact Or.inl ⟨_, rfl⟩
  rename_i session hsession
  split
  · rename_i hcomplete
    exact Or.inr (Or.inl ⟨rfl, session, hsession, hcomplete⟩)
  rename_i hactive
  split
  · exact Or.inl ⟨_, rfl⟩
  rename_i hexp
  split
  · rename_i e _
    exact Or.inl ⟨e, rfl⟩
  rename_i hcurrent
  split
  · exact Or.inl ⟨_, rfl⟩
  rename_i hbound
  split
  · exact Or.inl ⟨_, rfl⟩
  rename_i hrange
  split
  · rename_i e _
    exact Or.inl ⟨e, rfl⟩
  rename_i size hsize
  split
  · exact Or.inl ⟨_, rfl⟩
  rename_i hlen
  split
  · exact Or.inl ⟨_, rfl⟩
  rename_i hdig
  refine Or.inr (Or.inr ⟨session, size, hdir, hsession, SessionState.eq_active_of_ne hactive, not_le.1 hexp, hcurrent,
    Nat.not_le.1 hbound, Nat.not_le.1 hrange, hsize, not_not.1 hlen, not_not.1 hdig⟩)

/-- What `put_resumable_chunk` does: it is refused, the session is complete, the chunk is there already, or it is
stored. -/
theorem putChunk_cases {nonce : Nonce} : (∃ e, putResumableChunk cas now nonce sid i d p s = .fail e) ∨
    ((∃ session, AList.lookup sid s.index.sessions = some session ∧ session.state = .complete) ∧
      putResumableChunk cas now nonce sid i d p s = thenStatus [] sid s) ∨
    ∃ session size, Checked cas now sid i d p s session size ∧
      ((∃ row, AList.lookup (sid, i) s.index.chunks = some row ∧ row.plaintextDigest = sha256Digest cas p ∧
          putResumableChunk cas now nonce sid i d p s = thenStatus [] sid s) ∨
        ((∀ row, AList.lookup (sid, i) s.index.chunks = some row → row.plaintextDigest = sha256Digest cas p ∧
            chunkIsStored cas row (AList.lookup i (s.transfer sid).chunks) = .ok false) ∧
          putResumableChunk cas now nonce sid i d p s = thenStatus (storeChunk cas nonce sid i p size s) sid s)) := by
  unfold putResumableChunk
  rcases @putChunkLocked_cases cas now s sid i d p with ⟨e, he⟩ | ⟨hc, hcomplete⟩ | ⟨session, size, h⟩
  · rw [he]
    exact Or.inl ⟨e, rfl⟩
  · rw [hc]
    exact Or.inr (Or.inl ⟨hcomplete, rfl⟩)
  have heq := putChunkLocked_of_checked h
  cases hrow : AList.lookup (sid, i) s.index.chunks with
  | none =>
    rw [hrow] at heq
    rw [heq]
    exact Or.inr (Or.inr ⟨session, size, h, Or.inr ⟨fun row hr => (by cases hr), rfl⟩⟩)
  | some row =>
    rw [hrow] at heq
    dsimp only at heq
    split at heq
    · rw [heq]
      exact Or.inl ⟨_, rfl⟩
    rename_i hsame
    push Not at hsame
    cases hst : chunkIsStored cas row (AList.lookup i (s.transfer sid).chunks) with
    | error e =>
      rw [heq, hst]
      exact Or.inl ⟨e, rfl⟩
    | ok stored =>
      rw [heq, hst]
      cases stored with
      | true => exact Or.inr (Or.inr ⟨session, size, h, Or.inl ⟨row, rfl, hsame.2, rfl⟩⟩)
      | false =>
        refine Or.inr (Or.inr ⟨session, size, h, Or.inr ⟨?_, rfl⟩⟩)
        intro row' hr
        cases hr
        exact ⟨hsame.2, hst⟩

/-- The status of a session that is stored. -/
theorem status_ok {session : DurablePutSession} (hid : isSessionId sid = true)
    (hs : AList.lookup sid s.index.sessions = some session) (hc : session.chunkCount < 2 ^ 32) :
    ∃ st, resumablePutStatus sid s = .ok st ∧ (st.complete = true ↔ session.state = .complete) := by
  unfold resumablePutStatus transferDir
  rw [if_pos hid]
  dsimp only
  rw [hs]
  dsimp only
  rw [if_neg (Nat.not_le.2 hc)]
  exact ⟨_, rfl, decide_eq_true_iff⟩

theorem mem_storeChunk {nonce : Nonce} {size : Nat} {e : Effect} (h : e ∈ storeChunk cas nonce sid i p size s) :
    e = .createTransferDir sid ∨ e = .removeChunk sid i ∨ e = .renameChunk sid i (cas.encrypt nonce p) ∨
      e = .commit { s.index with chunks := AList.insert (sid, i) (chunkRow cas nonce p size) s.index.chunks } := by
  simp only [storeChunk, List.mem_append, List.mem_cons, List.not_mem_nil, or_false] at h
  rcases h with (rfl | h) | rfl | rfl
  · exact Or.inl rfl
  · split at h
    · exact Or.inr (Or.inl (List.mem_singleton.1 h))
    · cases h
  · exact Or.inr (Or.inr (Or.inl rfl))
  · exact Or.inr (Or.inr (Or.inr rfl))

/-- The store after a chunk was stored. -/
structure ChunkStored (cas : CasStore) (nonce : Nonce) (sid : String) (i : Nat) (p : Bytes) (size : Nat)
    (s t : Store) : Prop where
  objects : t.objects = s.objects
  index : t.index = { s.index with chunks := AList.insert (sid, i) (chunkRow cas nonce p size) s.index.chunks }
  manifest : ∀ sid', (t.transfer sid').manifest = (s.transfer sid').manifest
  file : ∀ sid' j, AList.lookup j (t.transfer sid').chunks =
    if sid' = sid ∧ j = i then some (cas.encrypt nonce p) else AList.lookup j (s.transfer sid').chunks

theorem chunkStored_storeChunk (cas : CasStore) (nonce : Nonce) (sid : String) (i : Nat) (p : Bytes) (size : Nat)
    (s : Store) : ChunkStored cas nonce sid i p size s (storeEffects.applyAll (storeChunk cas nonce sid i p size s) s) := by
  -- the file is renamed into place, after the old one was removed if there was one
  have renamed : ∀ t : Store, t.objects = s.objects → (∀ sid', (t.transfer sid').manifest = (s.transfer sid').manifest) →
      (∀ sid' j, ¬ (sid' = sid ∧ j = i) →
        AList.lookup j (t.transfer sid').chunks = AList.lookup j (s.transfer sid').chunks) →
      ∀ ix : Index, ix = { s.index with chunks := AList.insert (sid, i) (chunkRow cas nonce p size) s.index.chunks } →
      ChunkStored cas nonce sid i p size s
        (Effect.apply (.commit ix) (Effect.apply (.renameChunk sid i (cas.encrypt nonce p)) t)) := by
    intro t hobjects hmanifest hfile ix hix
    refine ⟨hobjects, hix, ?_, ?_⟩
    · intro sid'
      rw [transfer_commit, transfer_renameChunk]
      split
      · rename_i h
        rw [h]
        exact hmanifest sid
      · exact hmanifest sid'
    · intro sid' j
      rw [transfer_commit, transfer_renameChunk]
      by_cases hs : sid' = sid
      · subst hs
        rw [if_pos rfl]
        dsimp only
        rw [Table.lookup_insert']
        by_cases hj : j = i
        · rw [if_pos hj, if_pos ⟨rfl, hj⟩]
        · have hne : ¬ (sid' = sid' ∧ j = i) := fun h => hj h.2
          rw [if_neg hj, if_neg hne]
          exact hfile sid' j hne
      · have hne : ¬ (sid' = sid ∧ j = i) := fun h => hs h.1
        rw [if_neg hs, if_neg hne]
        exact hfile sid' j hne
  unfold storeChunk
  split
  · refine renamed (Effect.apply (.removeChunk sid i) (Effect.apply (.createTransferDir sid) s)) rfl ?_ ?_ _ rfl
    · intro sid'
      rw [transfer_removeChunk]
      split
      · rename_i h
        rw [h, transfer_createTransferDir]
      · rw [transfer_createTransferDir]
    · intro sid' j hne
      rw [transfer_removeChunk]
      split
      · rename_i h
        subst h
        dsimp only
        rw [transfer_createTransferDir, Table.lookup_erase', if_neg fun hj => hne ⟨rfl, hj⟩]
      · rw [transfer_createTransferDir]
  · refine renamed (Effect.apply (.createTransferDir sid) s) rfl ?_ ?_ _ rfl
    · intro sid'
      rw [transfer_createTransferDir]
    · intro sid' j _
      rw [transfer_createTransferDir]

end

/-! ## Committing -/

section

variable {cas : CasStore} {now createdAt : Int} {sid : String} {session : DurablePutSession} {s : Store}

/-- The row of the session as it is completed. -/
def completedIndex (sid : String) (session : DurablePutSession) (ix : Index) : Index :=
  { ix with sessions := AList.insert sid { session with state := .complete } ix.sessions }

theorem settle_cases (c : ArtifactContract) : (∃ e, settle sid session c s = .fail e) ∨
    ∃ ix, ensureArtifactContract c session.sizeBytes session.mediaType session.storageClass
        session.requiredReplicas = .ok () ∧
      indexArtifactInTransaction c.artifact c.requiredReplicas s.index = .ok ix ∧
      settle sid session c s = ⟨[Effect.commit (completedIndex sid session ix)], .ok c.artifact⟩ := by
  unfold settle
  split
  · rename_i e _
    exact Or.inl ⟨e, rfl⟩
  rename_i hcontract
  split
  · rename_i e _
    exact Or.inl ⟨e, rfl⟩
  rename_i ix hix
  exact Or.inr ⟨ix, hcontract, hix, rfl⟩

theorem settle_of_ok {c : ArtifactContract} {ix : Index} (hcontract : ensureArtifactContract c session.sizeBytes session.mediaType
    session.storageClass session.requiredReplicas = .ok ())
    (hix : indexArtifactInTransaction c.artifact c.requiredReplicas s.index = .ok ix) :
    settle sid session c s = ⟨[Effect.commit (completedIndex sid session ix)], .ok c.artifact⟩ := by
  unfold settle
  rw [hcontract]
  dsimp only
  rw [hix]
  rfl

/-- The effects and the state of a promotion. -/
def promotion (sid digest : String) (written : List Effect) : List Effect := written ++ [.promote sid digest]

theorem promoteTransfer_cases : (∃ e, promoteTransfer cas now createdAt sid session s = .fail e) ∨
    ∃ m written, assemble cas now createdAt sid session s = .ok m ∧ writeManifest cas sid session m s = .ok written ∧
      let promoted := storeEffects.applyAll (promotion sid session.digest written) s
      (∃ e, verifyObject cas session.digest promoted = .error e ∧
        promoteTransfer cas now createdAt sid session s = ⟨promotion sid session.digest written, .error e⟩) ∨
      ∃ c, verifyObject cas session.digest promoted = .ok c ∧
        promoteTransfer cas now createdAt sid session s =
          (settle sid session c promoted).after (promotion sid session.digest written) := by
  unfold promoteTransfer
  split
  · rename_i e _
    exact Or.inl ⟨e, rfl⟩
  rename_i m hm
  split
  · rename_i e _
    exact Or.inl ⟨e, rfl⟩
  rename_i written hw
  refine Or.inr ⟨m, written, hm, hw, ?_⟩
  dsimp only
  split
  · rename_i e he
    exact Or.inl ⟨e, he, rfl⟩
  · rename_i c hc
    exact Or.inr ⟨c, hc, rfl⟩

/-- Where a commit goes: it is refused, it settles on the object that is in place, or it promotes the transfer,
after quarantining an object that is corrupt. -/
theorem commit_cases : (∃ e, commitResumablePut cas now createdAt sid s = .fail e) ∨
    ∃ session, AList.lookup sid s.index.sessions = some session ∧ isSessionId sid = true ∧
      isSha256Digest session.digest = true ∧
      ((∃ c, verifyObject cas session.digest s = .ok c ∧
          commitResumablePut cas now createdAt sid s = settle sid session c s) ∨
        (AList.lookup session.digest s.objects = none ∧
          commitResumablePut cas now createdAt sid s = promoteTransfer cas now createdAt sid session s) ∨
        ∃ e, verifyObject cas session.digest s = .error e ∧ isRepairableObjectError e = true ∧
          commitResumablePut cas now createdAt sid s =
            (promoteTransfer cas now createdAt sid session (Effect.apply (.quarantine session.digest) s)).after
              [Effect.quarantine session.digest]) := by
  unfold commitResumablePut transferDir objectDir
  split
  · rename_i e _
    exact Or.inl ⟨e, rfl⟩
  rename_i hid
  have hid' : isSessionId sid = true := by
    by_contra hn
    rw [if_neg hn] at hid
    cases hid
  split
  · exact Or.inl ⟨_, rfl⟩
  rename_i session hsession
  split
  · rename_i e _
    exact Or.inl ⟨e, rfl⟩
  rename_i hdig
  have hdig' : isSha256Digest session.digest = true := by
    by_contra hn
    rw [if_neg hn] at hdig
    cases hdig
  split
  · split
    · rename_i c hc
      exact Or.inr ⟨session, hsession, hid', hdig', Or.inl ⟨c, hc, rfl⟩⟩
    · rename_i e he
      split
      · rename_i hrep
        exact Or.inr ⟨session, hsession, hid', hdig', Or.inr (Or.inr ⟨e, he, hrep, rfl⟩)⟩
      · exact Or.inl ⟨e, rfl⟩
  · rename_i hnone
    refine Or.inr ⟨session, hsession, hid', hdig', Or.inr (Or.inl ⟨?_, rfl⟩)⟩
    simpa using hnone

theorem writeManifest_effects {sid : String} {session : DurablePutSession} {m : Manifest} {t : Store} {l : List Effect}
    (h : writeManifest cas sid session m t = .ok l) : l = [] ∨ l = [.writeManifest sid m] := by
  unfold writeManifest at h
  split at h
  · exact Or.inr (Except.ok.inj h).symm
  split at h
  · cases h
  split at h
  · cases h
  split at h
  · exact Or.inl (Except.ok.inj h).symm
  · cases h

/-- A promotion leaves the index as it is. -/
theorem index_promotion {sid digest : String} {session : DurablePutSession} {m : Manifest} {t : Store} {l : List Effect}
    (h : writeManifest cas sid session m t = .ok l) :
    (storeEffects.applyAll (promotion sid digest l) t).index = t.index := by
  rcases writeManifest_effects h with rfl | rfl <;> rfl

theorem mem_settle_effects {c : ArtifactContract} {e : Effect} (he : e ∈ (settle sid session c s).effects) :
    ∃ ix, indexArtifactInTransaction c.artifact c.requiredReplicas s.index = .ok ix ∧
      e = .commit (completedIndex sid session ix) := by
  rcases @settle_cases sid session s c with ⟨e', heq⟩ | ⟨ix, _, hix, heq⟩
  · rw [heq] at he
    cases he
  · rw [heq] at he
    exact ⟨ix, hix, List.mem_singleton.1 he⟩

/-- The effects of a promotion: the manifest is written, the transfer renamed, and the session completed. -/
theorem mem_promoteTransfer_effects {e : Effect} (he : e ∈ (promoteTransfer cas now createdAt sid session s).effects) :
    (∃ m, e = .writeManifest sid m) ∨ e = .promote sid session.digest ∨
      ∃ artifact replicas ix, indexArtifactInTransaction artifact replicas s.index = .ok ix ∧
        e = .commit (completedIndex sid session ix) := by
  rcases @promoteTransfer_cases cas now createdAt sid session s with ⟨e', heq⟩ | ⟨m, written, _, hw, hdone⟩
  · rw [heq] at he
    cases he
  have hpromotion : e ∈ promotion sid session.digest written → (∃ m, e = .writeManifest sid m) ∨ e = .promote sid session.digest := by
    intro hmem
    rcases writeManifest_effects hw with rfl | rfl
    · exact Or.inr (List.mem_singleton.1 hmem)
    · rcases List.mem_cons.1 hmem with rfl | hmem
      · exact Or.inl ⟨m, rfl⟩
      · exact Or.inr (List.mem_singleton.1 hmem)
  rcases hdone with ⟨e', _, heq⟩ | ⟨c, _, heq⟩
  · rw [heq] at he
    exact (hpromotion he).imp_right Or.inl
  · rw [heq] at he
    rcases List.mem_append.1 he with he | he
    · exact (hpromotion he).imp_right Or.inl
    · -- the promotion comes first and leaves the index alone
      obtain ⟨ix, hix, hcommit⟩ := mem_settle_effects he
      rw [index_promotion hw] at hix
      exact Or.inr (Or.inr ⟨_, _, ix, hix, hcommit⟩)

/-- The effects of a commit: those of a promotion, and a corrupt object is taken away before it. -/
theorem mem_commit_effects {e : Effect} (he : e ∈ (commitResumablePut cas now createdAt sid s).effects) :
    ∃ session, AList.lookup sid s.index.sessions = some session ∧
      (e = .quarantine session.digest ∨ (∃ m, e = .writeManifest sid m) ∨ e = .promote sid session.digest ∨
        ∃ artifact replicas ix, indexArtifactInTransaction artifact replicas s.index = .ok ix ∧
          e = .commit (completedIndex sid session ix)) := by
  rcases @commit_cases cas now createdAt sid s with ⟨e', heq⟩ | ⟨session, hs, _, _, hcases⟩
  · rw [heq] at he
    cases he
  refine ⟨session, hs, ?_⟩
  rcases hcases with ⟨c, _, heq⟩ | ⟨_, heq⟩ | ⟨e', _, _, heq⟩
  · rw [heq] at he
    obtain ⟨ix, hix, hcommit⟩ := mem_settle_effects he
    exact Or.inr (Or.inr (Or.inr ⟨_, _, ix, hix, hcommit⟩))
  · rw [heq] at he
    exact Or.inr (mem_promoteTransfer_effects he)
  · rw [heq] at he
    rcases List.mem_append.1 he with he | he
    · exact Or.inl (List.mem_singleton.1 he)
    · exact Or.inr (mem_promoteTransfer_effects (s := Effect.apply (.quarantine session.digest) s) he)

end

/-! ## Putting at once -/

section

variable {cas : CasStore} {createdAt : Int} {nonces : Nat → Nonce} {plaintext : Bytes} {options : PutOptions} {s : Store}

theorem mem_indexObject_effects {c : ArtifactContract} {e : Effect} (he : e ∈ (indexObject plaintext options c s).effects) :
    ∃ ix, indexArtifactInTransaction c.artifact options.requiredReplicas s.index = .ok ix ∧ e = .commit ix := by
  unfold indexObject at he
  split at he
  · cases he
  split at he
  · cases he
  · rename_i ix hix
    exact ⟨ix, hix, List.mem_singleton.1 he⟩

theorem mem_publishArtifact_effects {e : Effect} (he : e ∈ (publishArtifact cas createdAt nonces plaintext options s).effects) :
    e = .publish (sha256Digest cas plaintext) (stage cas createdAt nonces plaintext options) ∨
      ∃ artifact replicas ix, indexArtifactInTransaction artifact replicas s.index = .ok ix ∧ e = .commit ix := by
  unfold publishArtifact at he
  split at he
  · cases he
  dsimp only at he
  split at he
  · exact Or.inl (List.mem_singleton.1 he)
  · rcases List.mem_cons.1 he with rfl | he
    · exact Or.inl rfl
    · obtain ⟨ix, hix, hcommit⟩ := mem_indexObject_effects he
      exact Or.inr ⟨_, _, ix, hix, hcommit⟩

/-- The effects of a put: a corrupt object is taken away, the staged one renamed, and the artifact indexed. -/
theorem mem_put_effects {e : Effect} (he : e ∈ (put cas createdAt nonces plaintext options s).effects) :
    e = .quarantine (sha256Digest cas plaintext) ∨
      e = .publish (sha256Digest cas plaintext) (stage cas createdAt nonces plaintext options) ∨
      ∃ artifact replicas ix, indexArtifactInTransaction artifact replicas s.index = .ok ix ∧ e = .commit ix := by
  unfold put at he
  split at he
  · cases he
  split at he
  · split at he
    · obtain ⟨ix, hix, hcommit⟩ := mem_indexObject_effects he
      exact Or.inr (Or.inr ⟨_, _, ix, hix, hcommit⟩)
    split at he
    · rcases List.mem_cons.1 he with rfl | he
      · exact Or.inl rfl
      · exact Or.inr (mem_publishArtifact_effects (s := Effect.apply (.quarantine _) s) he)
    · cases he
  · exact Or.inr (mem_publishArtifact_effects he)

end

end Rampage.Storage
