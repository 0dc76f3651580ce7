/-
Interrupted transfers. A run may be cut by a crash inside any call, and the files of a transfer may be lost or
overwritten, its chunks and its `manifest.json`. A session that is still active is finished by sending every chunk again and committing, if what the
run has left behind is what the artifact's own chunks would leave (`Resumable`); a `manifest.json` of an earlier
attempt is the case that goes wrong, since a chunk that is sent again gets a fresh nonce.
-/
import Rampage.Storage.Uploaded

namespace Rampage.Storage

open Rampage.Protocol

/-! ## Runs with faults -/

/-- A file of a transfer, with what is left of it: nothing, or another content. -/
inductive Damage
  | chunk (index : Nat) (content : Option Bytes)
  | manifest (content : Option Document)

/-- A call that ends, a call in which the process dies, or a file of a transfer that is lost or overwritten. -/
inductive Event
  | call (op : Op)
  | crash (op : Op) (done : Nat) (cut : Option Nat)
  | damage (sessionId : String) (what : Damage)

/-- The transfer directory after the damage. A file that is not there stays away. -/
def Damage.apply (dir : Dir) : Damage → Dir
  | .chunk i content =>
    if (AList.lookup i dir.chunks).isNone then dir
    else
      match content with
      | none => { dir with chunks := AList.erase i dir.chunks }
      | some b => { dir with chunks := AList.insert i b dir.chunks }
  | .manifest content => if dir.manifest.isNone then dir else { dir with manifest := content }

/-- The byte strings that damage brings in as chunks. -/
def Damage.bytes : Damage → List Bytes
  | .chunk _ content => content.toList
  | .manifest _ => []

/-- A transfer that has a directory is damaged. -/
def damageTransfer (sid : String) (what : Damage) (s : Store) : Store :=
  match AList.lookup sid s.transfers with
  | none => s
  | some dir => { s with transfers := AList.insert sid (what.apply dir) s.transfers }

section

variable (cas : CasStore)

/-- What happens to the files. -/
def Event.apply : Event → Store → Store
  | .call op, s => storeEffects.applyAll (op.effects cas s) s
  | .crash op done cut, s => storeEffects.crash (op.effects cas s) done cut s
  | .damage sid what, s => damageTransfer sid what s

/-- The byte strings an event brings in. -/
def Event.bytes : Event → List Bytes
  | .call op => op.bytes cas
  | .crash op _ _ => op.bytes cas
  | .damage _ what => what.bytes

/-- A store with faults. -/
def faulty : Machine Store Event Unit := ⟨fun e s => ((), e.apply cas s)⟩

end

section

variable {cas : CasStore} {S : Set Bytes} {s t : Store}

/-- The index and the objects are as they were. -/
theorem damageTransfer_rest (sid : String) (what : Damage) (s : Store) :
    (damageTransfer sid what s).index = s.index ∧ (damageTransfer sid what s).objects = s.objects := by
  unfold damageTransfer
  split
  · exact ⟨rfl, rfl⟩
  · exact ⟨rfl, rfl⟩

/-- A chunk of a damaged directory was there before, or is what the damage brought in. -/
theorem chunk_of_damage {what : Damage} {dir : Dir} {j : Nat} {f : Bytes} (h : AList.lookup j (what.apply dir).chunks = some f) :
    AList.lookup j dir.chunks = some f ∨ f ∈ what.bytes := by
  cases what with
  | manifest content =>
    left
    unfold Damage.apply at h
    dsimp only at h
    split at h
    · exact h
    · exact h
  | chunk i content =>
    unfold Damage.apply at h
    dsimp only at h
    split at h
    · exact Or.inl h
    cases content with
    | none => exact Or.inl (Table.lookup_of_erase h)
    | some b =>
      dsimp only at h
      rw [Table.lookup_insert'] at h
      split at h
      · cases h
        exact Or.inr (List.mem_singleton.2 rfl)
      · exact Or.inl h

theorem sound_damage (h : Sound cas S s) (sid : String) (what : Damage) (hb : ∀ b ∈ what.bytes, b ∈ S) :
    Sound cas S (damageTransfer sid what s) := by
  unfold damageTransfer
  split
  · exact h
  rename_i dir hdir
  refine h.of_files rfl ?_
  intro sid' j f hj
  change AList.lookup j (dirOf (AList.insert sid _ s.transfers) sid').chunks = some f at hj
  rw [dirOf_insert] at hj
  split at hj
  · rename_i heq
    rcases chunk_of_damage hj with hold | hnew
    · left
      rw [heq, Store.transfer, dirOf, hdir]
      exact hold
    · exact Or.inr (hb f hnew)
  · exact Or.inl hj

/-- The invariant of the index and the transfer files survives every fault. -/
theorem sound_event (h : Sound cas S s) (e : Event) (hb : ∀ b ∈ e.bytes cas, b ∈ S) : Sound cas S (e.apply cas s) := by
  cases e with
  | call op => exact (sound_op h op hb).applyAll h
  | crash op done cut => exact (sound_op h op hb).crash h done cut
  | damage sid what => exact sound_damage h sid what hb

theorem sound_faulty (events : List Event) (hb : ∀ e ∈ events, ∀ b ∈ e.bytes cas, b ∈ S) :
    Sound cas S ((faulty cas).exec events Store.empty) := by
  induction events using List.reverseRecOn with
  | nil => exact sound_empty
  | append_singleton events e ih =>
    rw [Machine.exec_append]
    refine sound_event (ih fun e' he' => hb e' (List.mem_append_left _ he')) e ?_
    exact hb e (List.mem_append_right _ (List.mem_singleton.2 rfl))

end

/-! ## Sending again -/

/-- The chunks of the artifact sent again, in any order and any number of times: for each call the clock reading,
the nonce and the index. -/
def resend (cas : CasStore) (sid : String) (chunkSize : Nat) (artifact : Bytes) (calls : List (Int × Nonce × Nat)) : List Op :=
  calls.map fun c => .putChunk c.1 c.2.1 sid c.2.2 (sha256Digest cas (chunkAt chunkSize artifact c.2.2))
    (chunkAt chunkSize artifact c.2.2)

/-- The chunk of the artifact is stored, with its row. -/
def InPlace (cas : CasStore) (sid : String) (chunkSize : Nat) (artifact : Bytes) (s : Store) (i : Nat) : Prop :=
  ∃ n, AList.lookup (sid, i) s.index.chunks =
      some (chunkRow cas n (chunkAt chunkSize artifact i) (chunkAt chunkSize artifact i).length) ∧
    AList.lookup i (s.transfer sid).chunks = some (cas.encrypt n (chunkAt chunkSize artifact i))

/-- A manifest left by an earlier attempt is usable: it is the one of the rows, and no chunk needs to be stored again. -/
structure Reusable (cas : CasStore) (sid : String) (session : DurablePutSession) (s : Store) (m : Manifest) : Prop where
  bounded : cas.manifestSize m ≤ maxManifestBytes
  valid : validateManifest session.digest m = .ok ()
  agrees : m.agrees (rowsManifest sid session 0 s.index) = true
  intact : ∀ i, i < session.chunkCount → ∃ row f, AList.lookup (sid, i) s.index.chunks = some row ∧
    AList.lookup i (s.transfer sid).chunks = some f ∧ sha256Hex cas f = row.ciphertextDigest

/-- Every manifest of the session's artifact in its chunks is within the bound. -/
def ManifestFits (cas : CasStore) (session : DurablePutSession) : Prop :=
  ∀ m : Manifest, validateManifest session.digest m = .ok () → m.plaintextSize = session.sizeBytes →
    m.mediaType = session.mediaType → m.chunks.length = session.chunkCount → cas.manifestSize m ≤ maxManifestBytes

/-- What the run has left of the session does not stand in the way of the artifact. -/
structure Resumable (cas : CasStore) (sid : String) (session : DurablePutSession) (artifact : Bytes) (s : Store) : Prop where
  /-- No other payload was accepted at any index. -/
  rows : ∀ i row, AList.lookup (sid, i) s.index.chunks = some row →
    row.plaintextDigest = sha256Digest cas (chunkAt session.chunkSize artifact i)
  /-- No chunk file was replaced by one over the bound. -/
  files : ∀ i row f, AList.lookup (sid, i) s.index.chunks = some row → AList.lookup i (s.transfer sid).chunks = some f →
    f.length ≤ maxEncryptedChunkBytes
  /-- The index has no other metadata for the content address. -/
  indexed : ∀ row, AList.lookup session.digest s.index.artifacts = some row → row = sessionArtifact session
  /-- The object is there with the session's metadata, or is absent or corrupt and the transfer can take its place. -/
  object : (∃ c, verifyObject cas session.digest s = .ok c ∧ ensureArtifactContract c session.sizeBytes session.mediaType
      session.storageClass session.requiredReplicas = .ok ()) ∨
    ((AList.lookup session.digest s.objects = none ∨
        ∃ e, verifyObject cas session.digest s = .error e ∧ isRepairableObjectError e = true) ∧
      (((s.transfer sid).manifest = none ∧ ManifestFits cas session) ∨
        ∃ m, (s.transfer sid).manifest = some (.json m) ∧ Reusable cas sid session s m))

section

variable {cas : CasStore} {S : Set Bytes} {sid : String} {session : DurablePutSession} {artifact : Bytes} {s t : Store}
  {sent : List Nat}

/-- The session is active and current and the artifact is the one it was begun for; SHA-256 does not collide on the
byte strings `S`, which hold its chunks. -/
structure Wanted (cas : CasStore) (S : Set Bytes) (session : DurablePutSession) (artifact : Bytes) (s : Store) : Prop where
  collisionFree : Set.InjOn cas.sha256 S
  digest : sha256Digest cas artifact = session.digest
  size : artifact.length = session.sizeBytes
  chunks : ∀ i, i < session.chunkCount → chunkAt session.chunkSize artifact i ∈ S
  active : session.state = .active
  current : ensureEpochIsCurrent session.authorityScope session.fencingEpoch s.index = .ok ()

/-- Where the chunks are being sent again, from the state `s` on: the calls so far have put the chunks `sent` in
place and changed nothing but rows and files of the session. -/
structure Resuming (cas : CasStore) (S : Set Bytes) (sid : String) (session : DurablePutSession) (artifact : Bytes)
    (s : Store) (sent : List Nat) (t : Store) : Prop where
  sound : Sound cas S t
  found : AList.lookup sid t.index.sessions = some session
  fences : t.index.fences = s.index.fences
  artifacts : t.index.artifacts = s.index.artifacts
  objects : t.objects = s.objects
  manifest : (t.transfer sid).manifest = (s.transfer sid).manifest
  rows : ∀ i row, AList.lookup (sid, i) t.index.chunks = some row →
    row.plaintextDigest = sha256Digest cas (chunkAt session.chunkSize artifact i)
  files : ∀ i row f, AList.lookup (sid, i) t.index.chunks = some row → AList.lookup i (t.transfer sid).chunks = some f →
    f.length ≤ maxEncryptedChunkBytes
  placed : ∀ i ∈ sent, InPlace cas sid session.chunkSize artifact t i
  /-- Where every chunk was in place nothing changes. -/
  kept : (∀ i, i < session.chunkCount → InPlace cas sid session.chunkSize artifact s i) → t = s

/-- A row of the session is one of the artifact's chunk. -/
theorem row_of_artifact (hcol : Set.InjOn cas.sha256 S) (hix : IndexSound cas S t.index)
    (hs : AList.lookup sid t.index.sessions = some session) {i : Nat} {row : ChunkRow}
    (hrow : AList.lookup (sid, i) t.index.chunks = some row)
    (hd : row.plaintextDigest = sha256Digest cas (chunkAt session.chunkSize artifact i))
    (hmem : ∀ i, i < session.chunkCount → chunkAt session.chunkSize artifact i ∈ S) :
    ∃ n, RowMade cas S session i row n (chunkAt session.chunkSize artifact i) := by
  obtain ⟨session', n, p, hs', hmade⟩ := hix.rows sid i row hrow
  rw [hs] at hs'
  cases hs'
  have hsha : sha256Digest cas p = sha256Digest cas (chunkAt session.chunkSize artifact i) := by
    rw [← hd, hmade.row]
    rfl
  obtain rfl : p = chunkAt session.chunkSize artifact i :=
    hcol hmade.plaintext (hmem i hmade.inRange) (sha256Digest_inj.1 hsha)
  exact ⟨n, hmade⟩

/-- A row of the artifact's chunk whose file has the ciphertext digest of the row. -/
theorem inPlace_of_intact (hcol : Set.InjOn cas.sha256 S) (h : Sound cas S t) {i : Nat} {row : ChunkRow} {n : Nonce} {f : Bytes}
    (hrow : AList.lookup (sid, i) t.index.chunks = some row)
    (hmade : RowMade cas S session i row n (chunkAt session.chunkSize artifact i))
    (hfile : AList.lookup i (t.transfer sid).chunks = some f) (hsha : sha256Hex cas f = row.ciphertextDigest) :
    InPlace cas sid session.chunkSize artifact t i := by
  refine ⟨n, by rw [hrow, hmade.row], ?_⟩
  rw [hfile]
  have heq : sha256Hex cas f = sha256Hex cas (cas.encrypt n (chunkAt session.chunkSize artifact i)) := by
    rw [hsha, hmade.row]
    rfl
  exact congrArg some (hcol (h.files sid i f hfile) hmade.ciphertext (sha256Hex_inj.1 heq))

/-- What one chunk sent again does: it is in place already and nothing happens, or it is stored. -/
theorem resend_chunk (h : Resuming cas S sid session artifact s sent t) (hw : Wanted cas S session artifact s)
    {now : Int} {nonce : Nonce} {i : Nat} (hnow : timestampMillis now < session.expiresAtMillis) (hi : i < session.chunkCount) :
    let p := chunkAt session.chunkSize artifact i
    (InPlace cas sid session.chunkSize artifact t i ∧
        putResumableChunk cas now nonce sid i (sha256Digest cas p) p t = thenStatus [] sid t) ∨
      (¬ InPlace cas sid session.chunkSize artifact t i ∧
        putResumableChunk cas now nonce sid i (sha256Digest cas p) p t = thenStatus (storeChunk cas nonce sid i p p.length t) sid t) := by
  intro p
  have hv := h.sound.index.sessions _ _ h.found
  have hlen : p.length = sizeAt session.sizeBytes session.chunkSize i := by
    rw [← hw.size]
    exact length_chunkAt _ _ _
  have hcurrent' : ensureEpochIsCurrent session.authorityScope session.fencingEpoch t.index = .ok () := by
    rw [← hw.current]
    unfold ensureEpochIsCurrent
    rw [h.fences]
  have hchecked : Checked cas now sid i (sha256Digest cas p) p t session p.length := by
    refine ⟨?_, h.found, hw.active, hnow, hcurrent', hv.layout.count_lt, hi, ?_, rfl, rfl⟩
    · unfold transferDir
      rw [if_pos hv.id]
    · rw [hlen]
      exact expectedChunkSize_eq hv.count hi
  have hlocked := putChunkLocked_of_checked hchecked
  unfold putResumableChunk
  cases hrow : AList.lookup (sid, i) t.index.chunks with
  | none =>
    right
    rw [hrow] at hlocked
    rw [hlocked]
    refine ⟨?_, rfl⟩
    rintro ⟨n, hn, _⟩
    rw [hrow] at hn
    cases hn
  | some row =>
    obtain ⟨n, hmade⟩ := row_of_artifact hw.collisionFree h.sound.index h.found hrow (h.rows i row hrow) hw.chunks
    have hsame : ¬ (row.plaintextSize ≠ p.length ∨ row.plaintextDigest ≠ sha256Digest cas p) := by
      rw [hmade.row]
      simp [chunkRow, p]
    rw [hrow] at hlocked
    dsimp only at hlocked
    rw [if_neg hsame] at hlocked
    -- the file decides: it is the row's, or it is absent or another
    cases hfile : AList.lookup i (t.transfer sid).chunks with
    | none =>
      right
      rw [hlocked, hfile]
      refine ⟨?_, rfl⟩
      rintro ⟨_, _, hf⟩
      rw [hfile] at hf
      cases hf
    | some f =>
      have hread : readRegularFileBounded (some f) maxEncryptedChunkBytes = .ok f := if_neg (Nat.not_lt.2 (h.files i row f hrow hfile))
      rw [hlocked, hfile]
      unfold chunkIsStored
      dsimp only
      rw [hread]
      by_cases hsha : sha256Hex cas f = row.ciphertextDigest
      · left
        refine ⟨inPlace_of_intact hw.collisionFree h.sound hrow hmade hfile hsha, ?_⟩
        simp [Except.map, hsha]
      · right
        refine ⟨?_, by simp [Except.map, hsha]⟩
        rintro ⟨n', hrow', hfile'⟩
        rw [hrow] at hrow'
        rw [hfile] at hfile'
        cases hrow'
        cases hfile'
        exact hsha rfl

/-- A chunk that is stored leaves the session ready for the others. -/
theorem Resuming.stored (h : Resuming cas S sid session artifact s sent t) {nonce : Nonce} {i : Nat}
    (hi : i < session.chunkCount) (hnew : ¬ InPlace cas sid session.chunkSize artifact t i) {u : Store}
    (hsound : Sound cas S u)
    (hu : ChunkStored cas nonce sid i (chunkAt session.chunkSize artifact i) (chunkAt session.chunkSize artifact i).length t u) :
    Resuming cas S sid session artifact s (i :: sent) u := by
  have hv := h.sound.index.sessions _ _ h.found
  -- the chunk gets its row and its file, the others keep theirs
  have hrows : ∀ j, AList.lookup (sid, j) u.index.chunks =
      if j = i then some (chunkRow cas nonce (chunkAt session.chunkSize artifact i) (chunkAt session.chunkSize artifact i).length)
      else AList.lookup (sid, j) t.index.chunks := by
    intro j
    rw [hu.index]
    dsimp only
    rw [Table.lookup_insert']
    by_cases hj : j = i
    · rw [if_pos (by rw [hj]), if_pos hj]
    · rw [if_neg fun heq => hj (congrArg Prod.snd heq), if_neg hj]
  have hplaced : InPlace cas sid session.chunkSize artifact u i := by
    refine ⟨nonce, ?_, ?_⟩
    · rw [hrows, if_pos rfl]
    · rw [hu.file, if_pos ⟨rfl, rfl⟩]
  refine ⟨hsound, ?_, ?_, ?_, hu.objects.trans h.objects, (hu.manifest sid).trans h.manifest, ?_, ?_, ?_, ?_⟩
  · rw [hu.index]
    exact h.found
  · rw [hu.index]
    exact h.fences
  · rw [hu.index]
    exact h.artifacts
  · intro j row hj
    rw [hrows] at hj
    split at hj
    · rename_i heq
      cases hj
      rw [heq]
      rfl
    · exact h.rows j row hj
  · intro j row f hj hf
    rw [hrows] at hj
    rw [hu.file] at hf
    split at hj
    · rename_i heq
      rw [if_pos ⟨rfl, heq⟩] at hf
      cases hf
      -- with its tag a chunk is small enough to be read back
      have hlen : (chunkAt session.chunkSize artifact i).length ≤ session.chunkSize := by
        rw [length_chunkAt]
        exact sizeAt_le
      have := hv.chunkSize_le
      rw [cas.encrypt_length]
      unfold maxEncryptedChunkBytes
      omega
    · rename_i hne
      rw [if_neg fun heq => hne heq.2] at hf
      exact h.files j row f hj hf
  · intro j hj
    by_cases heq : j = i
    · rw [heq]
      exact hplaced
    · obtain ⟨n, hrow, hfile⟩ := h.placed j ((List.mem_cons.1 hj).resolve_left heq)
      refine ⟨n, ?_, ?_⟩
      · rw [hrows, if_neg heq]
        exact hrow
      · rw [hu.file, if_neg fun h => heq h.2]
        exact hfile
  · intro hall
    exact absurd (h.kept hall ▸ hall i hi) hnew

/-- Every chunk sent again is answered with a status. -/
theorem Resuming.step (h : Resuming cas S sid session artifact s sent t) (hw : Wanted cas S session artifact s)
    {now : Int} {nonce : Nonce} {i : Nat} (hnow : timestampMillis now < session.expiresAtMillis) (hi : i < session.chunkCount)
    (hcipher : cas.encrypt nonce (chunkAt session.chunkSize artifact i) ∈ S) :
    let put := putResumableChunk cas now nonce sid i (sha256Digest cas (chunkAt session.chunkSize artifact i))
      (chunkAt session.chunkSize artifact i) t
    (∃ st, put.result = .ok st) ∧ Resuming cas S sid session artifact s (i :: sent) (storeEffects.applyAll put.effects t) := by
  have hv := h.sound.index.sessions _ _ h.found
  have hbytes : ∀ b ∈ (Op.putChunk now nonce sid i (sha256Digest cas (chunkAt session.chunkSize artifact i))
      (chunkAt session.chunkSize artifact i)).bytes cas, b ∈ S := by
    intro b hb
    rcases List.mem_cons.1 hb with rfl | hb
    · exact hw.chunks i hi
    · rw [List.mem_singleton.1 hb]
      exact hcipher
  have hsound := sound_step h.sound _ hbytes
  intro put
  -- the chunk is in place, or it is stored anew
  rcases @resend_chunk cas S sid session artifact s t sent h hw now nonce i hnow hi with ⟨hplaced, heq⟩ | ⟨hnew, heq⟩
  · have hput : put = thenStatus [] sid t := heq
    rw [hput]
    obtain ⟨st, hst, _⟩ := status_ok (s := t) hv.id h.found hv.layout.count_lt
    refine ⟨⟨st, hst⟩, h.sound, h.found, h.fences, h.artifacts, h.objects, h.manifest, h.rows, h.files, ?_, h.kept⟩
    intro j hj
    rcases List.mem_cons.1 hj with rfl | hj
    · exact hplaced
    · exact h.placed j hj
  · have hput : put = thenStatus (storeChunk cas nonce sid i (chunkAt session.chunkSize artifact i)
        (chunkAt session.chunkSize artifact i).length t) sid t := heq
    have hu := chunkStored_storeChunk cas nonce sid i (chunkAt session.chunkSize artifact i)
      (chunkAt session.chunkSize artifact i).length t
    have hnext : Resuming cas S sid session artifact s (i :: sent) (storeEffects.applyAll put.effects t) :=
      h.stored hi hnew hsound (by rw [hput]; exact hu)
    refine ⟨?_, hnext⟩
    have hv' := hnext.sound.index.sessions _ _ hnext.found
    obtain ⟨st, hst, _⟩ := status_ok hv'.id hnext.found hv'.layout.count_lt
    refine ⟨st, ?_⟩
    rw [hput] at hst ⊢
    exact hst

/-- All the chunks that are sent again are answered, and are in place afterwards. -/
theorem Resuming.run (hw : Wanted cas S session artifact s) : ∀ {calls : List (Int × Nonce × Nat)} {sent : List Nat} {t : Store},
    Resuming cas S sid session artifact s sent t →
    (∀ c ∈ calls, timestampMillis c.1 < session.expiresAtMillis ∧ c.2.2 < session.chunkCount ∧
      cas.encrypt c.2.1 (chunkAt session.chunkSize artifact c.2.2) ∈ S) →
    (∀ e ∈ (machine cas).trace (resend cas sid session.chunkSize artifact calls) t, ∃ st, e.2 = .status (.ok st)) ∧
      ∃ sent', (∀ c ∈ calls, c.2.2 ∈ sent') ∧ sent ⊆ sent' ∧ Resuming cas S sid session artifact s sent'
        ((machine cas).exec (resend cas sid session.chunkSize artifact calls) t)
  | [], sent, t, h, _ => by
    refine ⟨fun e he => (by cases he), sent, fun c hc => (by cases hc), fun _ => id, h⟩
  | (now, nonce, i) :: calls, sent, t, h, hcalls => by
    obtain ⟨hnow, hi, hcipher⟩ := hcalls _ (List.mem_cons_self ..)
    obtain ⟨⟨st, hst⟩, hnext⟩ := h.step hw hnow hi hcipher
    obtain ⟨hreplies, sent', hsent, hsub, hdone⟩ := Resuming.run hw hnext fun c hc => hcalls c (List.mem_cons_of_mem _ hc)
    refine ⟨?_, sent', ?_, fun j hj => hsub (List.mem_cons_of_mem _ hj), hdone⟩
    · intro e he
      rcases List.mem_cons.1 he with rfl | he
      · exact ⟨st, congrArg Reply.status hst⟩
      · exact hreplies e he
    · intro c hc
      rcases List.mem_cons.1 hc with rfl | hc
      · exact hsub (List.mem_cons_self ..)
      · exact hsent c hc

/-! ## Committing after that -/

/-- With every chunk in place the rows count up from 0. -/
theorem chunkRowsOf_complete (hix : IndexSound cas S t.index) (hs : AList.lookup sid t.index.sessions = some session)
    (hall : ∀ i, i < session.chunkCount → InPlace cas sid session.chunkSize artifact t i) :
    (chunkRowsOf sid t.index).map Prod.fst = List.range session.chunkCount := by
  have hsorted : ((chunkRowsOf sid t.index).map Prod.fst).Pairwise (· < ·) := by
    rw [List.pairwise_map]
    exact strictly_sorted_chunkRowsOf sid t.index
  refine List.Subset.antisymm_of_sortedLT ?_ ?_ hsorted.sortedLT List.pairwise_lt_range.sortedLT
  · intro i hi
    obtain ⟨⟨j, row⟩, hmem, rfl⟩ := List.mem_map.1 hi
    obtain ⟨session', n, p, hs', hmade⟩ := hix.rows sid j row (mem_chunkRowsOf.1 hmem)
    rw [hs] at hs'
    cases hs'
    exact List.mem_range.2 hmade.inRange
  · intro i hi
    obtain ⟨n, hrow, _⟩ := hall i (List.mem_range.1 hi)
    exact List.mem_map.2 ⟨(i, _), mem_chunkRowsOf.2 hrow, rfl⟩

/-- With every chunk in place a commit has the artifact. -/
theorem assembly_of_inPlace (hix : IndexSound cas S t.index) (hs : AList.lookup sid t.index.sessions = some session)
    (hd : sha256Digest cas artifact = session.digest) (hsize : artifact.length = session.sizeBytes)
    (hall : ∀ i, i < session.chunkCount → InPlace cas sid session.chunkSize artifact t i) :
    Assembly cas sid session t ((List.range session.chunkCount).map (chunkAt session.chunkSize artifact)) := by
  have hv := hix.sessions _ _ hs
  have hindices := chunkRowsOf_complete hix hs hall
  have hflat := hv.layout.flatten_chunks hsize
  refine ⟨?_, ?_, ?_, by rw [hflat, hd], by rw [hflat, hsize]⟩
  · rw [← List.length_map (f := Prod.fst), hindices, List.length_range]
  · intro k r hk
    have hk' : ((chunkRowsOf sid t.index).map Prod.fst)[k]? = some r.1 := by
      rw [List.getElem?_map, hk]
      rfl
    rw [hindices] at hk'
    obtain ⟨_, heq⟩ := List.getElem?_eq_some_iff.1 hk'
    rw [List.getElem_range] at heq
    exact heq.symm
  · rw [← hindices, List.map_map, List.forall₂_map_right_iff, List.forall₂_same]
    rintro ⟨i, row⟩ hmem
    have hrow := mem_chunkRowsOf.1 hmem
    obtain ⟨session', n, p, hs', hmade⟩ := hix.rows sid i row hrow
    rw [hs] at hs'
    cases hs'
    obtain ⟨n', hrow', hfile⟩ := hall i hmade.inRange
    rw [hrow] at hrow'
    cases hrow'
    have hlen : (chunkAt session.chunkSize artifact i).length = sizeAt session.sizeBytes session.chunkSize i := by
      rw [length_chunkAt, hsize]
    exact openRow_made (S := Set.univ) hv ⟨hmade.inRange, hlen, rfl, Set.mem_univ _, Set.mem_univ _⟩ hfile

/-- The object that verifies with some metadata is of their contract. -/
theorem contract_of_verifyObject {digest mediaType : String} {size replicas : Nat} {storageClass : StorageClass}
    {c : ArtifactContract} (hv : verifyObject cas digest t = .ok c)
    (hc : ensureArtifactContract c size mediaType storageClass replicas = .ok ()) :
    c = ⟨⟨"rampage.artifact-ref.v1", digest, size, mediaType, storageClass, true⟩, replicas⟩ := by
  obtain ⟨m, -, -, -, -, -, rfl⟩ := verifyObject_ok hv
  unfold ensureArtifactContract at hc
  split at hc
  · cases hc
  rename_i hsame
  push Not at hsame
  obtain ⟨rfl, rfl, rfl, rfl⟩ := hsame
  rfl

/-- The object that verifies with the session's metadata has the session's contract. -/
theorem eq_sessionContract {c : ArtifactContract} (hv : verifyObject cas session.digest t = .ok c)
    (hc : ensureArtifactContract c session.sizeBytes session.mediaType session.storageClass session.requiredReplicas = .ok ()) :
    c = sessionContract session := contract_of_verifyObject hv hc

/-- The manifest of the transfer is written, or the one that is there is used. -/
theorem writeManifest_ok (createdAt : Int)
    (h : (t.transfer sid).manifest = none ∨ ∃ m, (t.transfer sid).manifest = some (.json m) ∧
      cas.manifestSize m ≤ maxManifestBytes ∧ validateManifest session.digest m = .ok () ∧
      m.agrees (rowsManifest sid session 0 t.index) = true) :
    ∃ written, writeManifest cas sid session (rowsManifest sid session createdAt t.index) t = .ok written ∧
      (written ≠ [] → (t.transfer sid).manifest = none) := by
  unfold writeManifest
  rcases h with hnone | ⟨m, hm, hbound, hvalid, hagrees⟩
  · rw [hnone]
    exact ⟨_, rfl, fun _ => rfl⟩
  · rw [hm]
    dsimp only
    have hread : readDocument cas (.json m) = .ok m := if_neg (Nat.not_lt.2 hbound)
    -- the time stamp is not compared
    have hagrees' : m.agrees (rowsManifest sid session createdAt t.index) = true := hagrees
    rw [hread]
    dsimp only
    rw [hvalid]
    dsimp only
    rw [if_pos hagrees']
    exact ⟨[], rfl, fun h => absurd rfl h⟩

/-- A transfer whose chunks are all in place is promoted and settled. -/
theorem promoteTransfer_of_inPlace (hix : IndexSound cas S t.index) (hs : AList.lookup sid t.index.sessions = some session)
    (hd : sha256Digest cas artifact = session.digest) (hsize : artifact.length = session.sizeBytes)
    (hall : ∀ i, i < session.chunkCount → InPlace cas sid session.chunkSize artifact t i) {now createdAt : Int}
    (hactive : session.state = .active) (hnow : timestampMillis now < session.expiresAtMillis)
    (hcurrent : ensureEpochIsCurrent session.authorityScope session.fencingEpoch t.index = .ok ())
    (hindexed : ∀ row, AList.lookup session.digest t.index.artifacts = some row → row = sessionArtifact session)
    (hmanifest : ((t.transfer sid).manifest = none ∧ ManifestFits cas session) ∨
      ∃ m, (t.transfer sid).manifest = some (.json m) ∧ cas.manifestSize m ≤ maxManifestBytes ∧
        validateManifest session.digest m = .ok () ∧ m.agrees (rowsManifest sid session 0 t.index) = true) :
    (promoteTransfer cas now createdAt sid session t).result = .ok (sessionContract session).artifact := by
  have hv := hix.sessions _ _ hs
  -- the rows and files put the artifact together
  have hassembly := assembly_of_inPlace hix hs hd hsize hall
  have hassemble : assemble cas now createdAt sid session t = .ok (rowsManifest sid session createdAt t.index) :=
    assemble_of_assembly hv hactive hnow hcurrent hassembly
  obtain ⟨written, hwritten, hnew⟩ := @writeManifest_ok cas sid session t createdAt (hmanifest.imp And.left id)
  have hverify : verifyObject cas session.digest (storeEffects.applyAll (promotion sid session.digest written) t) =
      .ok (sessionContract session) := by
    rcases verifyObject_promoted hix hs hassembly rfl hwritten with hok | ⟨_, hw, hbig⟩
    · exact hok
    · -- only a manifest that was just written could be over the bound
      exfalso
      have hnone : (t.transfer sid).manifest = none := hnew (by rw [hw]; exact List.cons_ne_nil _ _)
      rcases hmanifest with ⟨_, hfits⟩ | ⟨m, hm, _⟩
      · refine Nat.not_le.2 hbig (hfits _ (validateManifest_rows hix hs hassembly) rfl rfl ?_)
        show ((chunkRowsOf sid t.index).map rowRecord).length = _
        rw [List.length_map, hassembly.rows]
      · rw [hnone] at hm
        cases hm
  have hindex : (storeEffects.applyAll (promotion sid session.digest written) t).index = t.index := index_promotion hwritten
  obtain ⟨ix, _, hsettle⟩ := @settle_sessionContract sid (storeEffects.applyAll (promotion sid session.digest written) t) session
    (by rw [hindex]; exact hindexed)
  unfold promoteTransfer
  rw [hassemble]
  dsimp only
  rw [hwritten]
  dsimp only
  split
  · rename_i e he
    cases hverify.symm.trans he
  · rename_i committed hc
    cases hverify.symm.trans hc
    show (settle sid session (sessionContract session)
      (storeEffects.applyAll (promotion sid session.digest written) t)).result = _
    rw [hsettle]

/-- The epoch of a session is current in any index with the same fences. -/
theorem ensureEpochIsCurrent_congr {ix ix' : Index} (h : ix'.fences = ix.fences) (scope : String) (epoch : Nat) :
    ensureEpochIsCurrent scope epoch ix' = ensureEpochIsCurrent scope epoch ix := by
  unfold ensureEpochIsCurrent
  rw [h]

/-- After every chunk was sent again the commit succeeds. -/
theorem Resuming.commit (h : Resuming cas S sid session artifact s sent t) (hw : Wanted cas S session artifact s)
    (hr : Resumable cas sid session artifact s) (hsent : ∀ i, i < session.chunkCount → i ∈ sent) {now createdAt : Int}
    (hnow : timestampMillis now < session.expiresAtMillis) (hs : AList.lookup sid s.index.sessions = some session)
    (hix : Sound cas S s) :
    (commitResumablePut cas now createdAt sid t).result = .ok (sessionContract session).artifact := by
  have hv := h.sound.index.sessions _ _ h.found
  have hall : ∀ i, i < session.chunkCount → InPlace cas sid session.chunkSize artifact t i := fun i hi => h.placed i (hsent i hi)
  have hindexed : ∀ row, AList.lookup session.digest t.index.artifacts = some row → row = sessionArtifact session := by
    rw [h.artifacts]
    exact hr.indexed
  have hcurrent := (ensureEpochIsCurrent_congr h.fences session.authorityScope session.fencingEpoch).trans hw.current
  have hverify : verifyObject cas session.digest t = verifyObject cas session.digest s := verifyObject_congr h.objects _
  -- the manifest that is there is the one of the rows, which are as they were
  have hmanifest : ∀ m, (s.transfer sid).manifest = some (.json m) → Reusable cas sid session s m →
      m.agrees (rowsManifest sid session 0 t.index) = true := by
    intro m hm hreuse
    have hplaced : ∀ i, i < session.chunkCount → InPlace cas sid session.chunkSize artifact s i := by
      intro i hi
      obtain ⟨row, f, hrow, hfile, hsha⟩ := hreuse.intact i hi
      obtain ⟨n, hmade⟩ := row_of_artifact hw.collisionFree hix.index hs hrow (hr.rows i row hrow) hw.chunks
      exact inPlace_of_intact hw.collisionFree hix hrow hmade hfile hsha
    rw [h.kept hplaced]
    exact hreuse.agrees
  have promoted : ((s.transfer sid).manifest = none ∧ ManifestFits cas session) ∨
        (∃ m, (s.transfer sid).manifest = some (.json m) ∧ Reusable cas sid session s m) →
      ∀ u : Store, u.index = t.index → u.transfers = t.transfers →
        (promoteTransfer cas now createdAt sid session u).result = .ok (sessionContract session).artifact := by
    intro hleft u hui hut
    have htransfer : u.transfer sid = t.transfer sid := congrArg (fun ts => dirOf ts sid) hut
    refine @promoteTransfer_of_inPlace cas S sid session artifact u ?_ ?_ hw.digest hw.size ?_ now createdAt hw.active hnow ?_ ?_ ?_
    · rw [hui]
      exact h.sound.index
    · rw [hui]
      exact h.found
    · intro i hi
      obtain ⟨n, hrow, hfile⟩ := hall i hi
      exact ⟨n, by rw [hui]; exact hrow, by rw [htransfer]; exact hfile⟩
    · rw [hui]
      exact hcurrent
    · rw [hui]
      exact hindexed
    · rw [htransfer, h.manifest, hui]
      rcases hleft with hnone | ⟨m, hm, hreuse⟩
      · exact Or.inl hnone
      · exact Or.inr ⟨m, hm, hreuse.bounded, hreuse.valid, hmanifest m hm hreuse⟩
  rw [commit_eq hv h.found, hverify, h.objects]
  rcases hr.object with ⟨c, hc, hcontract⟩ | ⟨habsent, hleft⟩
  · -- the object is there: the commit only settles
    obtain rfl := eq_sessionContract hc hcontract
    obtain ⟨ix, _, hsettle⟩ := @settle_sessionContract sid t session hindexed
    rw [if_pos (isSome_of_verifyObject hc), hc]
    dsimp only
    rw [hsettle]
  · rcases habsent with hnone | ⟨e, he, hrep⟩
    · rw [hnone]
      exact promoted hleft t rfl rfl
    · split
      · rw [he]
        dsimp only
        rw [if_pos hrep]
        exact promoted hleft (Effect.apply (.quarantine session.digest) t) rfl rfl
      · exact promoted hleft t rfl rfl

end

/-! ## The theorem -/

/-- However a run was interrupted and whichever files of transfers were lost or damaged: where the session is active,
unexpired and current and what is left of it is `Resumable`, sending every chunk of the artifact again, in any order,
and committing succeeds. -/
theorem interrupted_transfer_can_be_finished (cas : CasStore) (S : Set Bytes) (hcol : Set.InjOn cas.sha256 S)
    (events : List Event) (hb : ∀ e ∈ events, ∀ b ∈ e.bytes cas, b ∈ S) (sid : String) (session : DurablePutSession)
    (artifact : Bytes) :
    let s := (faulty cas).exec events Store.empty
    AList.lookup sid s.index.sessions = some session → session.state = .active →
      ensureEpochIsCurrent session.authorityScope session.fencingEpoch s.index = .ok () →
      sha256Digest cas artifact = session.digest → artifact.length = session.sizeBytes →
      Resumable cas sid session artifact s → ∀ calls : List (Int × Nonce × Nat),
        (∀ c ∈ calls, timestampMillis c.1 < session.expiresAtMillis ∧ c.2.2 < session.chunkCount) →
        (∀ i, i < session.chunkCount → ∃ c ∈ calls, c.2.2 = i) →
        (∀ op ∈ resend cas sid session.chunkSize artifact calls, ∀ b ∈ op.bytes cas, b ∈ S) → ∀ now createdAt,
          timestampMillis now < session.expiresAtMillis →
          (∀ e ∈ (machine cas).trace (resend cas sid session.chunkSize artifact calls) s, ∃ st, e.2 = .status (.ok st)) ∧
            (commitResumablePut cas now createdAt sid
              ((machine cas).exec (resend cas sid session.chunkSize artifact calls) s)).result =
                .ok (sessionContract session).artifact := by
  intro s hs hactive hcurrent hdigest hsize hr calls hcalls hcover hbytes now createdAt hnow
  have hsound : Sound cas S s := sound_faulty events hb
  -- the chunks and their ciphertexts are among the byte strings of the calls
  have hcall : ∀ c ∈ calls, chunkAt session.chunkSize artifact c.2.2 ∈ S ∧
      cas.encrypt c.2.1 (chunkAt session.chunkSize artifact c.2.2) ∈ S := by
    intro c hc
    have hop := hbytes _ (List.mem_map.2 ⟨c, hc, rfl⟩)
    exact ⟨hop _ (by simp [Op.bytes]), hop _ (by simp [Op.bytes])⟩
  have hw : Wanted cas S session artifact s := by
    refine ⟨hcol, hdigest, hsize, ?_, hactive, hcurrent⟩
    intro i hi
    obtain ⟨c, hc, rfl⟩ := hcover i hi
    exact (hcall c hc).1
  have hstart : Resuming cas S sid session artifact s [] s :=
    ⟨hsound, hs, rfl, rfl, rfl, rfl, hr.rows, hr.files, fun i hi => (by cases hi), fun _ => rfl⟩
  obtain ⟨hreplies, sent, hsent, _, hdone⟩ := hstart.run hw
    fun c hc => ⟨(hcalls c hc).1, (hcalls c hc).2, (hcall c hc).2⟩
  refine ⟨hreplies, hdone.commit hw hr ?_ hnow hs hsound⟩
  intro i hi
  obtain ⟨c, hc, rfl⟩ := hcover i hi
  exact hsent c hc

section

open Scenario

/-- A transfer is sent, and the process dies in the commit: before the manifest is written, or just after it. Then
the first chunk file is lost. -/
def interrupted (done : Nat) : List Event :=
  [.call (.begin 0 (spec 1 "n1" (millis 1000))),
    .call (.putChunk 0 (nonce 0) Scenario.session 0 (sha256Digest cas [1]) [1]),
    .call (.putChunk 0 (nonce 1) Scenario.session 1 (sha256Digest cas [2]) [2]),
    .crash (.commit 0 0 Scenario.session) done none, .damage Scenario.session (.chunk 0 none)]

/-- Both chunks, the first under a fresh nonce. -/
def again : List (Int × Nonce × Nat) := [(0, nonce 2, 0), (0, nonce 1, 1)]

/-- The chunks and the ciphertexts that occur. -/
def occurring : List Bytes :=
  [[1], [2], cas.encrypt (nonce 0) [1], cas.encrypt (nonce 1) [2], cas.encrypt (nonce 2) [1]]

/-- The store where the process died before the manifest was written. -/
theorem interrupted_state :
    let s := (faulty cas).exec (interrupted 0) Store.empty
    AList.lookup Scenario.session s.index.sessions = some (newSession (spec 1 "n1" (millis 1000)) 2) ∧
      ensureEpochIsCurrent "governor" 1 s.index = .ok () ∧
      (∀ e ∈ s.index.chunks.entries, e.2.plaintextDigest = sha256Digest cas (chunkAt 1 [1, 2] e.1.2)) ∧
      (∀ e ∈ (s.transfer Scenario.session).chunks.entries, e.2.length ≤ maxEncryptedChunkBytes) ∧
      AList.lookup Scenario.digest s.index.artifacts = none ∧ AList.lookup Scenario.digest s.objects = none ∧
      (s.transfer Scenario.session).manifest = none := by
  decide +kernel

theorem resumable_interrupted : Resumable cas Scenario.session (newSession (spec 1 "n1" (millis 1000)) 2) [1, 2]
    ((faulty cas).exec (interrupted 0) Store.empty) := by
  obtain ⟨_, _, hrows, hfiles, hindexed, hobject, hmanifest⟩ := interrupted_state
  refine ⟨?_, ?_, ?_, ?_⟩
  · intro i row hrow
    exact hrows _ ((Table.mem_lookup _ _ _).1 hrow)
  · intro i row f _ hf
    exact hfiles _ ((Table.mem_lookup _ _ _).1 hf)
  · intro row hrow
    exact absurd (hindexed.symm.trans hrow) (by simp)
  · refine Or.inr ⟨Or.inl hobject, Or.inl ⟨hmanifest, ?_⟩⟩
    intro m _ _ _ hlen
    show 512 + 256 * m.chunks.length ≤ maxManifestBytes
    rw [hlen]
    decide

/-- A commit that died before it wrote the manifest is finished, though a chunk was lost. -/
theorem interrupted_transfer_can_be_finished_lost :
    let s := (faulty cas).exec (interrupted 0) Store.empty
    AList.lookup Scenario.session s.index.sessions = some (newSession (spec 1 "n1" (millis 1000)) 2) ∧
      (commitResumablePut cas 0 0 Scenario.session
        ((machine cas).exec (resend cas Scenario.session 1 [1, 2] again) s)).result =
          .ok (sessionContract (newSession (spec 1 "n1" (millis 1000)) 2)).artifact := by
  have hcol : Set.InjOn cas.sha256 {b | b ∈ occurring} := by
    have hdistinct : ∀ a ∈ occurring, ∀ b ∈ occurring, cas.sha256 a = cas.sha256 b → a = b := by decide +kernel
    intro a ha b hb
    exact hdistinct a ha b hb
  have hb : ∀ e ∈ interrupted 0, ∀ b ∈ e.bytes cas, b ∈ occurring := by decide +kernel
  have hcalls : ∀ c ∈ again, timestampMillis c.1 < 1000 ∧ c.2.2 < 2 := by decide +kernel
  have hcover : ∀ i, i < 2 → ∃ c ∈ again, c.2.2 = i := by decide +kernel
  have hsent : ∀ op ∈ resend cas Scenario.session 1 [1, 2] again, ∀ b ∈ op.bytes cas, b ∈ occurring := by decide +kernel
  obtain ⟨hs, hcurrent, _⟩ := interrupted_state
  refine ⟨hs, ?_⟩
  exact (interrupted_transfer_can_be_finished cas {b | b ∈ occurring} hcol (interrupted 0) hb Scenario.session
    (newSession (spec 1 "n1" (millis 1000)) 2) [1, 2] hs rfl hcurrent (by decide +kernel) rfl
    resumable_interrupted again hcalls hcover hsent 0 0 (by decide +kernel)).2

/-- The process died in the commit after `manifest.json` was written, and the first chunk was lost: every chunk is
taken again, and the commit is refused because the manifest has the old ciphertext of the first chunk. -/
theorem interrupted_commit_cannot_be_finished :
    let s := (faulty cas).exec (interrupted 1) Store.empty
    AList.lookup Scenario.session s.index.sessions = some (newSession (spec 1 "n1" (millis 1000)) 2) ∧
      ensureEpochIsCurrent "governor" 1 s.index = .ok () ∧ sha256Digest cas [1, 2] = Scenario.digest ∧
      (((machine cas).trace (resend cas Scenario.session 1 [1, 2] again) s).map fun e =>
        match e.2 with | .status (.ok st) => some st.missingChunks | _ => none) = [some [], some []] ∧
      (commitResumablePut cas 0 0 Scenario.session
        ((machine cas).exec (resend cas Scenario.session 1 [1, 2] again) s)).result = .error .transferConflict := by
  decide +kernel

end

end Rampage.Storage
