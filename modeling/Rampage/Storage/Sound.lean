/-
The invariant of the index and the transfer files. Every session row is a valid contract, every chunk row
was written for a chunk of its session with the size the layout gives, and every transfer file holds bytes
from a given set. It is kept by every effect of every operation, so it holds after every run, also when
operations crash in the middle and chunk files are lost or replaced.
-/
import Rampage.Storage.Effects

namespace Rampage.Storage

open Rampage.Protocol

/-! ## Valid sessions -/

/-- The contract of a session row, as `begin_resumable_put` admits it. -/
structure SessionValid (sid : String) (session : DurablePutSession) : Prop where
  id : isSessionId sid = true
  digest : isSha256Digest session.digest = true
  size_le : session.sizeBytes ≤ maxArtifactTransferBytes
  chunkSize_le : session.chunkSize ≤ defaultChunkSize
  count : chunkCount session.sizeBytes session.chunkSize = .ok session.chunkCount
  mediaType : isBoundedAscii 255 session.mediaType = true
  replicas : session.requiredReplicas ≠ 0
  «protected» : ¬ (session.storageClass = .«protected» ∧ session.requiredReplicas < 2)

theorem SessionValid.layout {sid : String} {session : DurablePutSession} (h : SessionValid sid session) :
    Layout session.sizeBytes session.chunkSize session.chunkCount := layout_of_chunkCount h.count

/-- What a request has passed before the lock. -/
theorem beginArrive_valid {now : Int} {spec : ResumablePutSpec} {count : Nat} (h : beginArrive now spec = .ok count) :
    SessionValid spec.sessionId (newSession spec count) := by
  unfold beginArrive at h
  split at h
  · cases h
  rename_i hspec
  split at h
  · cases h
  rename_i hdir
  split at h
  · cases h
  split at h
  · cases h
  split at h
  · cases h
  unfold validateResumableSpec at hspec
  split at hspec
  · cases hspec
  rename_i hfields
  split at hspec
  · cases hspec
  rename_i hid
  unfold objectDir at hdir
  split at hdir
  · rename_i hdigest
    simp only [Bool.or_eq_true, Bool.not_eq_true', beq_iff_eq, decide_eq_true_eq, Bool.and_eq_true, not_or] at hfields
    obtain ⟨⟨⟨⟨⟨⟨⟨⟨⟨_, _⟩, _⟩, hmedia⟩, _⟩, hsize⟩, _⟩, hchunk⟩, hrep⟩, hprot⟩ := hfields
    exact ⟨by simpa using hid, hdigest, Nat.not_lt.1 hsize, Nat.not_lt.1 hchunk, h, (by simpa using hmedia : isBoundedAscii 255 spec.mediaType = true), hrep, hprot⟩
  · cases hdir

/-- A renewed session has the contract it had. -/
theorem sessionValid_renew {sid : String} {session : DurablePutSession} (h : SessionValid sid session)
    (spec : ResumablePutSpec) : SessionValid sid (renewSession session spec) :=
  ⟨h.id, h.digest, h.size_le, h.chunkSize_le, h.count, h.mediaType, h.replicas, h.«protected»⟩

theorem sessionValid_complete {sid : String} {session : DurablePutSession} (h : SessionValid sid session) :
    SessionValid sid { session with state := .complete } :=
  ⟨h.id, h.digest, h.size_le, h.chunkSize_le, h.count, h.mediaType, h.replicas, h.«protected»⟩

/-! ## The invariant -/

/-- The row was written for chunk `i` of the session, for a payload whose bytes are in `S`. -/
structure RowMade (cas : CasStore) (S : Set Bytes) (session : DurablePutSession) (i : Nat) (row : ChunkRow)
    (n : Nonce) (p : Bytes) : Prop where
  inRange : i < session.chunkCount
  length : p.length = sizeAt session.sizeBytes session.chunkSize i
  row : row = chunkRow cas n p p.length
  plaintext : p ∈ S
  ciphertext : cas.encrypt n p ∈ S

/-- The index: valid sessions, and rows made for them. -/
structure IndexSound (cas : CasStore) (S : Set Bytes) (ix : Index) : Prop where
  sessions : ∀ sid session, AList.lookup sid ix.sessions = some session → SessionValid sid session
  rows : ∀ sid i row, AList.lookup (sid, i) ix.chunks = some row →
    ∃ session n p, AList.lookup sid ix.sessions = some session ∧ RowMade cas S session i row n p

/-- The index is sound and the transfer files hold bytes from `S`. -/
structure Sound (cas : CasStore) (S : Set Bytes) (s : Store) : Prop where
  index : IndexSound cas S s.index
  files : ∀ sid j f, AList.lookup j (s.transfer sid).chunks = some f → f ∈ S

/-- Effects that keep the invariant by themselves. -/
def Effect.IsSound (cas : CasStore) (S : Set Bytes) : Effect → Prop
  | .commit ix => IndexSound cas S ix
  | .renameChunk _ _ c => c ∈ S
  | _ => True

section

variable {cas : CasStore} {S : Set Bytes} {s : Store}

theorem sound_empty : Sound cas S Store.empty := by
  refine ⟨⟨?_, ?_⟩, ?_⟩
  · intro sid session h
    cases h
  · intro sid i row h
    cases h
  · intro sid j f h
    cases h

theorem Sound.of_files {t : Store} (h : Sound cas S s) (hi : t.index = s.index)
    (hf : ∀ sid j f, AList.lookup j (t.transfer sid).chunks = some f →
      AList.lookup j (s.transfer sid).chunks = some f ∨ f ∈ S) : Sound cas S t := by
  refine ⟨hi ▸ h.index, ?_⟩
  intro sid j f hj
  rcases hf sid j f hj with hold | hnew
  · exact h.files sid j f hold
  · exact hnew

theorem sound_effect (e : Effect) (s : Store) (he : e.IsSound cas S) (h : Sound cas S s) :
    Sound cas S (storeEffects.apply e s) ∧ ∀ j, Sound cas S (storeEffects.cut e j s) := by
  -- files are sound if each was there before or is among those being written
  have same : ∀ sid j f, AList.lookup j (s.transfer sid).chunks = some f →
      AList.lookup j (s.transfer sid).chunks = some f ∨ f ∈ S := fun _ _ _ => Or.inl
  cases e with
  | commit ix => exact ⟨⟨he, h.files⟩, fun _ => h⟩
  | createTransferDir sid =>
    refine ⟨h.of_files rfl ?_, fun _ => h⟩
    intro sid' j f hj
    rw [show (storeEffects.apply (Effect.createTransferDir sid) s).transfer sid' = s.transfer sid' from
      transfer_createTransferDir s sid sid'] at hj
    exact Or.inl hj
  | removeChunk sid i =>
    refine ⟨h.of_files rfl ?_, fun _ => h⟩
    intro sid' j f hj
    rw [show (storeEffects.apply (Effect.removeChunk sid i) s).transfer sid' = _ from transfer_removeChunk s sid sid' i] at hj
    split at hj
    · rename_i hs
      rw [hs]
      exact Or.inl (Table.lookup_of_erase hj)
    · exact Or.inl hj
  | renameChunk sid i c =>
    refine ⟨h.of_files rfl ?_, fun _ => h⟩
    intro sid' j f hj
    rw [show (storeEffects.apply (Effect.renameChunk sid i c) s).transfer sid' = _ from transfer_renameChunk s sid sid' i c] at hj
    split at hj
    · rename_i hs
      rw [hs]
      rw [Table.lookup_insert'] at hj
      split at hj
      · cases hj
        exact Or.inr he
      · exact Or.inl hj
    · exact Or.inl hj
  | writeManifest sid m =>
    refine ⟨h.of_files rfl ?_, fun n => h.of_files rfl ?_⟩
    · intro sid' j f hj
      rw [show (storeEffects.apply (Effect.writeManifest sid m) s).transfer sid' = _ from transfer_writeManifest s sid sid' m] at hj
      split at hj
      · rename_i hs
        rw [hs]
        exact Or.inl hj
      · exact Or.inl hj
    · intro sid' j f hj
      rw [show (storeEffects.cut (Effect.writeManifest sid m) n s).transfer sid' = _ from dirOf_insert _ _ _ _] at hj
      split at hj
      · rename_i hs
        rw [hs]
        exact Or.inl hj
      · exact Or.inl hj
  | promote sid digest =>
    refine ⟨h.of_files rfl ?_, fun _ => h⟩
    intro sid' j f hj
    rw [show (storeEffects.apply (Effect.promote sid digest) s).transfer sid' = _ from transfer_promote s sid sid' digest] at hj
    split at hj
    · cases hj
    · exact Or.inl hj
  | publish digest dir => exact ⟨h.of_files rfl same, fun _ => h⟩
  | quarantine digest => exact ⟨h.of_files rfl same, fun _ => h⟩

/-! ## Indexes the operations commit -/

/-- A change of other tables keeps the index sound. -/
theorem IndexSound.of_eq {ix ix' : Index} (h : IndexSound cas S ix) (hs : ix'.sessions = ix.sessions)
    (hc : ix'.chunks = ix.chunks) : IndexSound cas S ix' := by
  refine ⟨?_, ?_⟩
  · rw [hs]
    exact h.sessions
  · rw [hs, hc]
    exact h.rows

/-- A session row may be replaced by a valid one of the same layout, or inserted. -/
theorem IndexSound.insert_session {ix : Index} (h : IndexSound cas S ix) {sid : String} {session : DurablePutSession}
    (hv : SessionValid sid session)
    (hsame : ∀ existing, AList.lookup sid ix.sessions = some existing → session.sizeBytes = existing.sizeBytes ∧
      session.chunkSize = existing.chunkSize ∧ session.chunkCount = existing.chunkCount) :
    IndexSound cas S { ix with sessions := AList.insert sid session ix.sessions } := by
  refine ⟨?_, ?_⟩
  · intro sid' session' hl
    dsimp only at hl
    rw [Table.lookup_insert'] at hl
    split at hl
    · rename_i heq
      cases hl
      rw [heq]
      exact hv
    · exact h.sessions sid' session' hl
  · intro sid' i row hl
    obtain ⟨existing, n, p, he, hmade⟩ := h.rows sid' i row hl
    dsimp only
    by_cases heq : sid' = sid
    · subst heq
      obtain ⟨h1, h2, h3⟩ := hsame existing he
      refine ⟨session, n, p, by rw [Table.lookup_insert', if_pos rfl], ?_⟩
      exact ⟨by rw [h3]; exact hmade.inRange, by rw [h1, h2]; exact hmade.length, hmade.row, hmade.plaintext, hmade.ciphertext⟩
    · exact ⟨existing, n, p, by rw [Table.lookup_insert', if_neg heq]; exact he, hmade⟩

theorem IndexSound.insert_chunk {ix : Index} (h : IndexSound cas S ix) {sid : String} {i : Nat} {row : ChunkRow}
    {session : DurablePutSession} {n : Nonce} {p : Bytes} (hs : AList.lookup sid ix.sessions = some session)
    (hm : RowMade cas S session i row n p) :
    IndexSound cas S { ix with chunks := AList.insert (sid, i) row ix.chunks } := by
  refine ⟨h.sessions, ?_⟩
  intro sid' i' row' hl
  dsimp only at hl
  rw [Table.lookup_insert'] at hl
  split at hl
  · rename_i heq
    cases hl
    cases heq
    exact ⟨session, n, p, hs, hm⟩
  · exact h.rows sid' i' row' hl

theorem indexArtifact_index {artifact : ArtifactRefV1} {replicas : Nat} {ix ix' : Index}
    (h : indexArtifactInTransaction artifact replicas ix = .ok ix') :
    ix'.sessions = ix.sessions ∧ ix'.chunks = ix.chunks := by
  unfold indexArtifactInTransaction at h
  split at h
  · cases h
    exact ⟨rfl, rfl⟩
  · split at h
    · cases h
    · cases h
      exact ⟨rfl, rfl⟩

/-! ## Every operation -/

theorem sound_begin {now : Int} {spec : ResumablePutSpec} (h : IndexSound cas S s.index) :
    ∀ e ∈ (beginResumablePut cas now spec s).effects, e.IsSound cas S := by
  have hcases := @begin_effects cas now spec s
  revert hcases
  generalize (beginResumablePut cas now spec s).effects = effects
  intro hcases
  cases hcases with
  | none =>
    intro e he
    cases he
  | unchanged =>
    intro e he
    rw [List.mem_singleton.1 he]
    trivial
  | accepted arrive accept row =>
    rename_i count session taken
    obtain ⟨hsessions, hchunks, _⟩ := accept_index accept
    have htaken : IndexSound cas S taken := h.of_eq hsessions hchunks
    intro e he
    rcases List.mem_cons.1 he with rfl | he
    · rcases row with ⟨hnone, rfl⟩ | ⟨existing, hex, _, _, rfl⟩
      · refine htaken.insert_session (beginArrive_valid arrive) ?_
        intro existing hex
        rw [hsessions, hnone] at hex
        cases hex
      · refine htaken.insert_session (sessionValid_renew (h.sessions _ _ hex) spec) ?_
        intro existing' hex'
        rw [hsessions, hex] at hex'
        cases hex'
        exact ⟨rfl, rfl, rfl⟩
    · rw [List.mem_singleton.1 he]
      trivial

theorem rowMade_of_checked {now : Int} {nonce : Nonce} {sid : String} {i : Nat} {d : String} {p : Bytes}
    {session : DurablePutSession} {size : Nat} (h : IndexSound cas S s.index)
    (hc : Checked cas now sid i d p s session size) (hp : p ∈ S) (he : cas.encrypt nonce p ∈ S) :
    RowMade cas S session i (chunkRow cas nonce p size) nonce p := by
  have hv := h.sessions _ _ hc.found
  have hsize : size = sizeAt session.sizeBytes session.chunkSize i := by
    have := hc.expected
    rw [expectedChunkSize_eq hv.count hc.inRange] at this
    exact (Except.ok.inj this).symm
  exact ⟨hc.inRange, hc.length.trans hsize, by rw [hc.length], hp, he⟩

theorem sound_putChunk {now : Int} {nonce : Nonce} {sid : String} {i : Nat} {d : String} {p : Bytes}
    (h : IndexSound cas S s.index) (hp : p ∈ S) (hc : cas.encrypt nonce p ∈ S) :
    ∀ e ∈ (putResumableChunk cas now nonce sid i d p s).effects, e.IsSound cas S := by
  have hnone : ∀ {plan : Operation ResumablePutStatus}, plan.effects = [] → ∀ e ∈ plan.effects, Effect.IsSound cas S e := by
    intro plan hplan e he
    rw [hplan] at he
    cases he
  rcases @putChunk_cases cas now s sid i d p nonce with ⟨e, heq⟩ | ⟨_, heq⟩ | ⟨session, size, hchecked, hwhich⟩
  · rw [heq]
    exact hnone rfl
  · rw [heq]
    exact hnone rfl
  rcases hwhich with ⟨_, _, _, heq⟩ | ⟨_, heq⟩
  · rw [heq]
    exact hnone rfl
  · rw [heq]
    intro e he
    rcases mem_storeChunk he with rfl | rfl | rfl | rfl
    · trivial
    · trivial
    · exact hc
    · exact h.insert_chunk hchecked.found (rowMade_of_checked h hchecked hp hc)

theorem sound_commit {now createdAt : Int} {sid : String} (h : IndexSound cas S s.index) :
    ∀ e ∈ (commitResumablePut cas now createdAt sid s).effects, e.IsSound cas S := by
  intro e he
  obtain ⟨session, hs, rfl | ⟨m, rfl⟩ | rfl | ⟨artifact, replicas, ix, hix, rfl⟩⟩ := mem_commit_effects he
  · trivial
  · trivial
  · trivial
  · obtain ⟨hsessions, hchunks⟩ := indexArtifact_index hix
    refine (h.of_eq hsessions hchunks).insert_session (sessionValid_complete (h.sessions _ _ hs)) ?_
    intro existing hex
    rw [hsessions, hs] at hex
    cases hex
    exact ⟨rfl, rfl, rfl⟩

theorem sound_put {createdAt : Int} {nonces : Nat → Nonce} {plaintext : Bytes} {options : PutOptions}
    (h : IndexSound cas S s.index) : ∀ e ∈ (put cas createdAt nonces plaintext options s).effects, e.IsSound cas S := by
  intro e he
  rcases mem_put_effects he with rfl | rfl | ⟨artifact, replicas, ix, hix, rfl⟩
  · trivial
  · trivial
  · obtain ⟨hsessions, hchunks⟩ := indexArtifact_index hix
    exact h.of_eq hsessions hchunks

end

/-- The byte strings a call brings in: the payload of a chunk and its ciphertext. -/
def Op.bytes (cas : CasStore) : Op → List Bytes
  | .putChunk _ nonce _ _ _ p => [p, cas.encrypt nonce p]
  | _ => []

/-- Every effect of a call keeps the invariant. -/
theorem sound_op {cas : CasStore} {S : Set Bytes} {s : Store} (h : Sound cas S s) (op : Op)
    (hb : ∀ b ∈ op.bytes cas, b ∈ S) : storeEffects.Keep (Sound cas S) (op.effects cas s) s := by
  refine Effects.keep_of_forall sound_effect ?_ s
  cases op with
  | begin now spec => exact sound_begin h.index
  | putChunk now nonce sid i d p =>
    exact sound_putChunk h.index (hb _ (by simp [Op.bytes])) (hb _ (by simp [Op.bytes]))
  | commit now createdAt sid => exact sound_commit h.index
  | acceptAuthority now scope epoch nonce expiresAt =>
    unfold Op.effects acceptAuthority
    dsimp only
    split
    · intro e he
      cases he
    split
    · intro e he
      cases he
    · rename_i ix hix
      obtain ⟨hsessions, hchunks, _⟩ := accept_index hix
      intro e he
      rw [List.mem_singleton.1 he]
      exact h.index.of_eq hsessions hchunks
  | put createdAt nonces plaintext options => exact sound_put h.index
  | restart =>
    intro e he
    cases he

theorem sound_step {cas : CasStore} {S : Set Bytes} {s : Store} (h : Sound cas S s) (op : Op)
    (hb : ∀ b ∈ op.bytes cas, b ∈ S) : Sound cas S (step cas op s).2 := (sound_op h op hb).applyAll h

end Rampage.Storage
