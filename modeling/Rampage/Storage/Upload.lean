/-
Resumable uploads over whole runs. `Stored` relates the history of a run to the three places a session lives
in: its row, its chunk rows and its files. It gives `resumable_upload_is_correct`: a commit that succeeds has
every index accepted and stores exactly the accepted payloads; while the session is active an accepted payload
stays, any other is refused and the same one is taken again.
-/
import Rampage.Storage.Contents

namespace Rampage.Storage

open Rampage.Protocol

/-! ## History -/

/-- The chunk was accepted while the session was active. -/
def WasAccepted (tr : List (Op × Reply)) (sid : String) (i : Nat) (p : Bytes) : Prop :=
  ∃ now nonce d st, (Op.putChunk now nonce sid i d p, Reply.status (.ok st)) ∈ tr ∧ st.complete = false

/-- A commit of the session failed because its manifest is over the bound. -/
def Oversized (tr : List (Op × Reply)) (sid : String) : Prop :=
  ∃ now createdAt, (Op.commit now createdAt sid, Reply.artifact (.error .invalidManifest)) ∈ tr

/-- The payload of a chunk call. -/
def Op.payload : Op → Option Bytes
  | .putChunk _ _ _ _ _ p => some p
  | _ => none

theorem WasAccepted.append {tr tr' : List (Op × Reply)} {sid : String} {i : Nat} {p : Bytes} (h : WasAccepted tr sid i p) :
    WasAccepted (tr ++ tr') sid i p := by
  obtain ⟨now, nonce, d, st, hmem, hst⟩ := h
  exact ⟨now, nonce, d, st, List.mem_append_left _ hmem, hst⟩

theorem Oversized.append {tr tr' : List (Op × Reply)} {sid : String} (h : Oversized tr sid) : Oversized (tr ++ tr') sid := by
  obtain ⟨now, createdAt, hmem⟩ := h
  exact ⟨now, createdAt, List.mem_append_left _ hmem⟩

/-- What is accepted after one more call was accepted before or by that call. -/
theorem wasAccepted_snoc {tr : List (Op × Reply)} {op : Op} {r : Reply} {sid : String} {i : Nat} {p : Bytes}
    (h : WasAccepted (tr ++ [(op, r)]) sid i p) : WasAccepted tr sid i p ∨
      ∃ now nonce d st, op = .putChunk now nonce sid i d p ∧ r = .status (.ok st) ∧ st.complete = false := by
  obtain ⟨now, nonce, d, st, hmem, hst⟩ := h
  rcases List.mem_append.1 hmem with hmem | hmem
  · exact Or.inl ⟨now, nonce, d, st, hmem, hst⟩
  · cases List.mem_singleton.1 hmem
    exact Or.inr ⟨now, nonce, d, st, rfl, rfl, hst⟩

/-! ## The invariant -/

/-- The row of `artifacts` for a session. -/
def sessionArtifact (session : DurablePutSession) : ArtifactRow :=
  ⟨session.sizeBytes, session.mediaType, session.storageClass, session.requiredReplicas⟩

/-- Two session rows with one contract. -/
structure SameContract (a b : DurablePutSession) : Prop where
  digest : a.digest = b.digest
  chunkCount : a.chunkCount = b.chunkCount
  artifact : sessionArtifact a = sessionArtifact b

/-- The history of a run and what is stored of the session `sid` with content address `digest`. -/
structure Stored (cas : CasStore) (sid digest : String) (tr : List (Op × Reply)) (s : Store) : Prop where
  /-- No other session has the content address. -/
  sole : ∀ sid' session, AList.lookup sid' s.index.sessions = some session → session.digest = digest → sid' = sid
  /-- Every row is of an accepted payload, and the file in its place is that payload's. -/
  rows : ∀ i row, AList.lookup (sid, i) s.index.chunks = some row → ∃ n p, row = chunkRow cas n p p.length ∧
    WasAccepted tr sid i p ∧ ∀ f, AList.lookup i (s.transfer sid).chunks = some f → f = cas.encrypt n p
  /-- Every accepted payload has a row with its digest. -/
  recorded : ∀ i p, WasAccepted tr sid i p → ∃ row, AList.lookup (sid, i) s.index.chunks = some row ∧
    row.plaintextDigest = sha256Digest cas p
  clean : (s.transfer sid).manifest = none
  /-- An object under the content address holds the accepted payloads. -/
  object : ∀ dir, AList.lookup digest s.objects = some dir → ∃ session m ps,
    AList.lookup sid s.index.sessions = some session ∧ session.digest = digest ∧ Holds cas dir m ps ∧
      ps.length = session.chunkCount ∧ ∀ (i : Nat) (p : Bytes), ps[i]? = some p → WasAccepted tr sid i p
  /-- An index row for the content address is the session's. -/
  artifact : ∀ row, AList.lookup digest s.index.artifacts = some row → ∃ session,
    AList.lookup sid s.index.sessions = some session ∧ session.digest = digest ∧ row = sessionArtifact session

/-- The files of the active session are in place, unless a commit has moved them away. -/
def Placed (sid digest : String) (tr : List (Op × Reply)) (s : Store) : Prop :=
  ∀ session, AList.lookup sid s.index.sessions = some session → session.digest = digest → session.state = .active →
    (∀ i row, AList.lookup (sid, i) s.index.chunks = some row → (AList.lookup i (s.transfer sid).chunks).isSome = true) ∨
      Oversized tr sid

/-- What the invariant looks at is the same in both states, up to the lease and the state of the session. -/
structure Elsewhere (sid digest : String) (s t : Store) : Prop where
  kept : ∀ session, AList.lookup sid s.index.sessions = some session →
    ∃ session', AList.lookup sid t.index.sessions = some session' ∧ SameContract session' session
  rows : ∀ i, AList.lookup (sid, i) t.index.chunks = AList.lookup (sid, i) s.index.chunks
  manifest : (t.transfer sid).manifest = (s.transfer sid).manifest
  files : ∀ j, AList.lookup j (t.transfer sid).chunks = AList.lookup j (s.transfer sid).chunks
  object : AList.lookup digest t.objects = AList.lookup digest s.objects
  artifact : AList.lookup digest t.index.artifacts = AList.lookup digest s.index.artifacts
  sole : (∀ sid' session, AList.lookup sid' s.index.sessions = some session → session.digest = digest → sid' = sid) →
    ∀ sid' session, AList.lookup sid' t.index.sessions = some session → session.digest = digest → sid' = sid

/-- The session is as it was: new with no rows yet, or with the contract and state it had. -/
def SessionKept (sid : String) (s t : Store) : Prop :=
  ∀ session, AList.lookup sid t.index.sessions = some session →
    (∀ i, AList.lookup (sid, i) s.index.chunks = none) ∨
      ∃ session', AList.lookup sid s.index.sessions = some session' ∧ session'.digest = session.digest ∧
        session'.state = session.state

section

variable {cas : CasStore} {sid digest : String} {tr : List (Op × Reply)} {s t : Store}

theorem Stored.elsewhere (h : Stored cas sid digest tr s) (he : Elsewhere sid digest s t) : Stored cas sid digest tr t := by
  refine ⟨he.sole h.sole, ?_, ?_, he.manifest.trans h.clean, ?_, ?_⟩
  · intro i row hrow
    rw [he.rows] at hrow
    obtain ⟨n, p, hn, hacc, hfile⟩ := h.rows i row hrow
    refine ⟨n, p, hn, hacc, ?_⟩
    intro f hf
    rw [he.files] at hf
    exact hfile f hf
  · intro i p hacc
    rw [he.rows]
    exact h.recorded i p hacc
  · intro dir hdir
    rw [he.object] at hdir
    obtain ⟨session, m, ps, hs, hd, hholds, hlen, hacc⟩ := h.object dir hdir
    obtain ⟨session', hs', hsame⟩ := he.kept session hs
    exact ⟨session', m, ps, hs', hsame.digest.trans hd, hholds, hlen.trans hsame.chunkCount.symm, hacc⟩
  · intro row hrow
    rw [he.artifact] at hrow
    obtain ⟨session, hs, hd, hr⟩ := h.artifact row hrow
    obtain ⟨session', hs', hsame⟩ := he.kept session hs
    exact ⟨session', hs', hsame.digest.trans hd, hr.trans hsame.artifact.symm⟩

theorem Placed.elsewhere (h : Placed sid digest tr s) (he : Elsewhere sid digest s t) (hs : SessionKept sid s t) :
    Placed sid digest tr t := by
  intro session hsession hd hactive
  rcases hs session hsession with hnone | ⟨session', hs', hdigest, hstate⟩
  · left
    intro i row hrow
    rw [he.rows, hnone] at hrow
    cases hrow
  rcases h session' hs' (hdigest.trans hd) (hstate.trans hactive) with hplaced | hover
  · left
    intro i row hrow
    rw [he.rows] at hrow
    rw [he.files]
    exact hplaced i row hrow
  · exact Or.inr hover

/-- The history grows by a call that accepts no new payload. -/
theorem Stored.snoc (h : Stored cas sid digest tr s) {e : Op × Reply}
    (hr : ∀ i p, WasAccepted (tr ++ [e]) sid i p → ∃ row, AList.lookup (sid, i) s.index.chunks = some row ∧
      row.plaintextDigest = sha256Digest cas p) : Stored cas sid digest (tr ++ [e]) s := by
  refine ⟨h.sole, ?_, hr, h.clean, ?_, h.artifact⟩
  · intro i row hrow
    obtain ⟨n, p, hn, hacc, hfile⟩ := h.rows i row hrow
    exact ⟨n, p, hn, hacc.append, hfile⟩
  · intro dir hdir
    obtain ⟨session, m, ps, hs, hd, hholds, hlen, hacc⟩ := h.object dir hdir
    exact ⟨session, m, ps, hs, hd, hholds, hlen, fun i p hp => (hacc i p hp).append⟩

theorem Placed.snoc (h : Placed sid digest tr s) (e : Op × Reply) : Placed sid digest (tr ++ [e]) s := by
  intro session hs hd hactive
  rcases h session hs hd hactive with hplaced | hover
  · exact Or.inl hplaced
  · exact Or.inr hover.append

/-- A call that is not a chunk of the session accepts none. -/
theorem Stored.snoc_other (h : Stored cas sid digest tr s) {op : Op} {r : Reply}
    (hop : ∀ now nonce i d p st, op = .putChunk now nonce sid i d p → r = .status (.ok st) → st.complete = true) :
    Stored cas sid digest (tr ++ [(op, r)]) s := by
  refine h.snoc ?_
  intro i p hacc
  rcases wasAccepted_snoc hacc with hold | ⟨now, nonce, d, st, hop', hr, hst⟩
  · exact h.recorded i p hold
  · rw [hop now nonce i d p st hop' hr] at hst
    cases hst

/-! ## Effects -/

theorem Elsewhere.refl (sid digest : String) (s : Store) : Elsewhere sid digest s s :=
  ⟨fun session h => ⟨session, h, ⟨rfl, rfl, rfl⟩⟩, fun _ => rfl, rfl, fun _ => rfl, rfl, rfl, id⟩

theorem Elsewhere.trans {u : Store} (h : Elsewhere sid digest s t) (h' : Elsewhere sid digest t u) : Elsewhere sid digest s u := by
  refine ⟨?_, fun i => (h'.rows i).trans (h.rows i), h'.manifest.trans h.manifest, fun j => (h'.files j).trans (h.files j),
    h'.object.trans h.object, h'.artifact.trans h.artifact, fun hs => h'.sole (h.sole hs)⟩
  intro session hs
  obtain ⟨session', hs', hsame⟩ := h.kept session hs
  obtain ⟨session'', hs'', hsame'⟩ := h'.kept session' hs'
  exact ⟨session'', hs'', ⟨hsame'.digest.trans hsame.digest, hsame'.chunkCount.trans hsame.chunkCount,
    hsame'.artifact.trans hsame.artifact⟩⟩

/-- A session row is renewed, completed or inserted: its contract stays, and it does not take the content address. -/
theorem elsewhere_session {ix : Index} {sid' : String} {session : DurablePutSession}
    (h1 : ix.sessions = AList.insert sid' session s.index.sessions) (h2 : ix.chunks = s.index.chunks)
    (h3 : AList.lookup digest ix.artifacts = AList.lookup digest s.index.artifacts)
    (hcontract : ∀ existing, AList.lookup sid' s.index.sessions = some existing → SameContract session existing)
    (hsole : AList.lookup sid' s.index.sessions = none → session.digest = digest → sid' = sid) :
    Elsewhere sid digest s (Effect.apply (.commit ix) s) := by
  have hlookup : ∀ name, AList.lookup name (Effect.apply (.commit ix) s).index.sessions =
      if name = sid' then some session else AList.lookup name s.index.sessions := by
    intro name
    show AList.lookup name ix.sessions = _
    rw [h1, Table.lookup_insert']
  refine ⟨?_, ?_, rfl, fun _ => rfl, rfl, ?_, ?_⟩
  · intro existing hs
    rw [hlookup]
    split
    · rename_i heq
      subst heq
      exact ⟨session, rfl, hcontract existing hs⟩
    · exact ⟨existing, hs, ⟨rfl, rfl, rfl⟩⟩
  · intro i
    rw [← h2]
    rfl
  · exact h3
  · intro hsole' name found hs hd
    rw [hlookup] at hs
    split at hs
    · rename_i heq
      cases hs
      cases hex : AList.lookup sid' s.index.sessions with
      | none => exact heq.trans (hsole hex hd)
      | some existing => exact heq.trans (hsole' sid' existing hex ((hcontract existing hex).digest.symm.trans hd))
    · exact hsole' name found hs hd

theorem elsewhere_chunkStored {nonce : Nonce} {sid' : String} {i : Nat} {p : Bytes} {size : Nat} (hne : sid' ≠ sid)
    (h : ChunkStored cas nonce sid' i p size s t) : Elsewhere sid digest s t := by
  have hkey : ∀ j : Nat, ((sid, j) : String × Nat) ≠ (sid', i) := fun j heq => hne (congrArg Prod.fst heq).symm
  refine ⟨?_, ?_, h.manifest sid, ?_, by rw [h.objects], by rw [h.index], ?_⟩
  · intro session hs
    refine ⟨session, ?_, ⟨rfl, rfl, rfl⟩⟩
    rw [h.index]
    exact hs
  · intro j
    rw [h.index]
    dsimp only
    rw [Table.lookup_insert', if_neg (hkey j)]
  · intro j
    rw [h.file, if_neg fun heq => hne heq.1.symm]
  · intro hsole name session hs
    rw [h.index] at hs
    exact hsole name session hs

end

end Rampage.Storage
