/-
Committing an upload. The remaining calls keep the invariant of `Upload`, and with it
`resumable_upload_is_correct` holds after every run of a store in which no other operation writes the content
address: what a commit stores is exactly what was accepted.
-/
import Rampage.Storage.Scenario
import Rampage.Storage.Upload

namespace Rampage.Storage

open Rampage.Protocol

section

variable {cas : CasStore} {sid digest : String} {tr : List (Op × Reply)} {s t : Store} {session : DurablePutSession}

/-! ## Indexing an artifact -/

/-- An artifact that was indexed has its row, and no other row changed. -/
theorem indexArtifact_ok {artifact : ArtifactRefV1} {replicas : Nat} {ix ix' : Index}
    (h : indexArtifactInTransaction artifact replicas ix = .ok ix') :
    ix'.sessions = ix.sessions ∧ ix'.chunks = ix.chunks ∧
      ∀ d, AList.lookup d ix'.artifacts =
        if d = artifact.digest then some ⟨artifact.sizeBytes, artifact.mediaType, artifact.storageClass, replicas⟩
        else AList.lookup d ix.artifacts := by
  obtain ⟨hsessions, hchunks⟩ := indexArtifact_index h
  refine ⟨hsessions, hchunks, ?_⟩
  intro d
  unfold indexArtifactInTransaction at h
  split at h
  · cases h
    exact Table.lookup_insert' _ _ _ _
  · rename_i row hrow
    split at h
    · cases h
    rename_i hsame
    cases h
    push Not at hsame
    obtain ⟨h1, h2, h3, h4⟩ := hsame
    by_cases hd : d = artifact.digest
    · rw [if_pos hd, hd, hrow, ← h1, ← h2, ← h3, ← h4]
    · rw [if_neg hd]

theorem verifyObject_digest {c : ArtifactContract} (h : verifyObject cas digest s = .ok c) : c.artifact.digest = digest := by
  unfold verifyObject at h
  split at h
  · cases h
  split at h
  · cases h
  split at h
  · cases h
  · cases h
    rfl

theorem ensureArtifactContract_ok {c : ArtifactContract} (h : ensureArtifactContract c session.sizeBytes session.mediaType
    session.storageClass session.requiredReplicas = .ok ()) :
    (⟨c.artifact.sizeBytes, c.artifact.mediaType, c.artifact.storageClass, c.requiredReplicas⟩ : ArtifactRow) =
      sessionArtifact session := by
  unfold ensureArtifactContract at h
  split at h
  · cases h
  rename_i hsame
  push Not at hsame
  obtain ⟨h1, h2, h3, h4⟩ := hsame
  rw [h1, h2, h3, h4]
  rfl

/-- An artifact is indexed unless another row is there. -/
theorem indexArtifact_cases (artifact : ArtifactRefV1) (replicas : Nat) (ix : Index) :
    (∃ row, AList.lookup artifact.digest ix.artifacts = some row ∧
        row ≠ ⟨artifact.sizeBytes, artifact.mediaType, artifact.storageClass, replicas⟩ ∧
        indexArtifactInTransaction artifact replicas ix = .error .artifactConflict) ∨
      ((∀ row, AList.lookup artifact.digest ix.artifacts = some row →
          row = ⟨artifact.sizeBytes, artifact.mediaType, artifact.storageClass, replicas⟩) ∧
        ∃ ix', indexArtifactInTransaction artifact replicas ix = .ok ix') := by
  unfold indexArtifactInTransaction
  rcases hrow : AList.lookup artifact.digest ix.artifacts with _ | row
  · exact Or.inr ⟨fun row hr => (by cases hr), _, rfl⟩
  · dsimp only
    split
    · rename_i hne
      refine Or.inl ⟨row, rfl, fun heq => ?_, rfl⟩
      rw [heq] at hne
      simp at hne
    · rename_i hsame
      push Not at hsame
      obtain ⟨h1, h2, h3, h4⟩ := hsame
      refine Or.inr ⟨fun row' hr => ?_, _, rfl⟩
      cases hr
      rcases row with ⟨size, media, cls, count⟩
      dsimp only at h1 h2 h3 h4
      rw [h1, h2, h3, h4]

/-- A verified object of the session's contract settles, if the index has no other row for it. -/
theorem settle_sessionContract
    (hrow : ∀ row, AList.lookup session.digest s.index.artifacts = some row → row = sessionArtifact session) :
    ∃ ix, indexArtifactInTransaction (sessionContract session).artifact session.requiredReplicas s.index = .ok ix ∧
      settle sid session (sessionContract session) s =
        ⟨[Effect.commit (completedIndex sid session ix)], .ok (sessionContract session).artifact⟩ := by
  have hcontract : ensureArtifactContract (sessionContract session) session.sizeBytes session.mediaType
      session.storageClass session.requiredReplicas = .ok () := by
    simp [ensureArtifactContract, sessionContract]
  rcases indexArtifact_cases (sessionContract session).artifact session.requiredReplicas s.index with
    ⟨row, hother, hne, -⟩ | ⟨-, ix, hix⟩
  · exact absurd (hrow row hother) hne
  · exact ⟨ix, hix, settle_of_ok hcontract hix⟩

/-! ## Effects of a commit -/

theorem sameContract_complete (session : DurablePutSession) :
    SameContract { session with state := .complete } session := ⟨rfl, rfl, rfl⟩

/-- The session is completed and its artifact indexed. -/
theorem Stored.settle (h : Stored cas sid digest tr s) {c : ArtifactContract} {ix : Index}
    (hs : AList.lookup sid s.index.sessions = some session) (hd : c.artifact.digest = session.digest)
    (hc : ensureArtifactContract c session.sizeBytes session.mediaType session.storageClass session.requiredReplicas = .ok ())
    (hix : indexArtifactInTransaction c.artifact c.requiredReplicas s.index = .ok ix) :
    Stored cas sid digest tr (Effect.apply (.commit (completedIndex sid session ix)) s) := by
  obtain ⟨hsessions, hchunks, hartifacts⟩ := indexArtifact_ok hix
  have hcontract : ∀ existing, AList.lookup sid s.index.sessions = some existing →
      SameContract { session with state := .complete } existing := by
    intro existing hex
    rw [hs] at hex
    cases hex
    exact sameContract_complete session
  -- first the session, with the artifacts as they were
  have hmid : Stored cas sid digest tr (Effect.apply (.commit (completedIndex sid session s.index)) s) := by
    refine h.elsewhere (elsewhere_session rfl rfl rfl hcontract ?_)
    intro hnone
    rw [hs] at hnone
    cases hnone
  have hlookup : AList.lookup sid (completedIndex sid session ix).sessions = some { session with state := .complete } := by
    show AList.lookup sid (AList.insert sid _ ix.sessions) = _
    rw [Table.lookup_insert', if_pos rfl]
  have hsame : (completedIndex sid session ix).sessions = (completedIndex sid session s.index).sessions := by
    show AList.insert sid _ ix.sessions = AList.insert sid _ s.index.sessions
    rw [hsessions]
  refine ⟨?_, ?_, ?_, hmid.clean, ?_, ?_⟩
  · intro sid' session' hl
    exact hmid.sole sid' session' (by rw [← hl]; exact congrArg (AList.lookup sid') hsame.symm)
  · intro i row hl
    exact hmid.rows i row (by rw [← hl]; exact congrArg (AList.lookup (sid, i)) hchunks.symm)
  · intro i p hacc
    obtain ⟨row, hr, hdig⟩ := hmid.recorded i p hacc
    exact ⟨row, by rw [← hr]; exact congrArg (AList.lookup (sid, i)) hchunks, hdig⟩
  · intro dir hdir
    obtain ⟨session', m, ps, hs', hrest⟩ := hmid.object dir hdir
    exact ⟨session', m, ps, by rw [← hs']; exact congrArg (AList.lookup sid) hsame, hrest⟩
  · intro row hr
    change AList.lookup digest ix.artifacts = some row at hr
    rw [hartifacts] at hr
    split at hr
    · rename_i heq
      refine ⟨{ session with state := .complete }, hlookup, (heq.trans hd).symm, ?_⟩
      rw [← Option.some.inj hr]
      exact ensureArtifactContract_ok hc
    · obtain ⟨session', hs', hrest⟩ := hmid.artifact row hr
      exact ⟨session', by rw [← hs']; exact congrArg (AList.lookup sid) hsame, hrest⟩

theorem Stored.quarantine (h : Stored cas sid digest tr s) (digest' : String) :
    Stored cas sid digest tr (Effect.apply (.quarantine digest') s) := by
  refine ⟨h.sole, h.rows, h.recorded, h.clean, ?_, h.artifact⟩
  intro dir hdir
  exact h.object dir (Table.lookup_of_erase hdir)

/-- What a row and the file of its payload open to. -/
theorem openRow_encrypted {dir : Dir} {i k : Nat} {n : Nonce} {p q : Bytes}
    (hfile : ∀ f, AList.lookup i dir.chunks = some f → f = cas.encrypt n p)
    (h : openRow cas dir i (chunkRow cas n p k) = .ok q) : q = p := by
  have hnonce : decodeNonce (chunkRow cas n p k).nonce = .ok n := decodeNonce_encode n
  unfold openRow at h
  rw [hnonce] at h
  dsimp only at h
  split at h
  · cases h
  rename_i f hread
  have hf : f = cas.encrypt n p := by
    refine hfile f ?_
    unfold readRegularFileBounded at hread
    split at hread
    · cases hread
    · rename_i b hb
      split at hread
      · cases hread
      · cases hread
        exact hb
  rw [hf, cas.decrypt_encrypt] at h
  dsimp only at h
  split at h
  · cases h
  split at h
  · cases h
  · exact (Except.ok.inj h).symm

/-- The payloads of an assembled session are the accepted ones. -/
theorem Stored.assembly (h : Stored cas sid digest tr s) {ps : List Bytes} (ha : Assembly cas sid session s ps) :
    ps.length = session.chunkCount ∧ ∀ (i : Nat) (p : Bytes), ps[i]? = some p → WasAccepted tr sid i p := by
  have hlen := ha.opened.length_eq
  refine ⟨by rw [← hlen, ha.rows], ?_⟩
  intro i p hp
  obtain ⟨hlt, _⟩ := List.getElem?_eq_some_iff.1 hp
  have hlt' : i < (chunkRowsOf sid s.index).length := by omega
  have hrow : (chunkRowsOf sid s.index)[i]? = some (chunkRowsOf sid s.index)[i] := List.getElem?_eq_getElem hlt'
  generalize (chunkRowsOf sid s.index)[i] = r at hrow
  have hopen : openRow cas (s.transfer sid) r.1 r.2 = .ok p := by
    have := List.forall₂_iff_get.1 ha.opened
    have hget := this.2 i hlt' hlt
    rw [List.get_eq_getElem, List.get_eq_getElem] at hget
    rw [List.getElem?_eq_getElem hlt', Option.some.injEq] at hrow
    rw [List.getElem?_eq_getElem hlt, Option.some.injEq] at hp
    rw [hrow, hp] at hget
    exact hget
  have hidx := ha.index i r hrow
  obtain ⟨j, row⟩ := r
  dsimp only at hidx hopen
  subst hidx
  obtain ⟨n, q, hn, hacc, hfile⟩ := h.rows j row (mem_chunkRowsOf.1 (List.mem_of_getElem? hrow))
  rw [hn] at hopen
  rw [openRow_encrypted hfile hopen]
  exact hacc

/-- The transfer of the session is promoted: its files are the object's, and hold the accepted payloads. -/
theorem Stored.promotion (h : Stored cas sid digest tr s) {ps : List Bytes} {m : Manifest} {createdAt : Int}
    {written : List Effect} (hs : AList.lookup sid s.index.sessions = some session) (ha : Assembly cas sid session s ps)
    (hm : m = rowsManifest sid session createdAt s.index) (hw : writeManifest cas sid session m s = .ok written) :
    Stored cas sid digest tr (storeEffects.applyAll (promotion sid session.digest written) s) := by
  obtain ⟨hlen, hacc⟩ := h.assembly ha
  obtain ⟨m', hholds, _, _⟩ := holds_promoted ha hm hw
  have hindex : (storeEffects.applyAll (Storage.promotion sid session.digest written) s).index = s.index := index_promotion hw
  -- the transfer is renamed, so nothing is left under its name
  have hempty : (storeEffects.applyAll (Storage.promotion sid session.digest written) s).transfer sid = .empty := by
    rcases writeManifest_effects hw with rfl | rfl
    · exact (transfer_promote s sid sid session.digest).trans (if_pos rfl)
    · exact (transfer_promote (Effect.apply (.writeManifest sid m) s) sid sid session.digest).trans (if_pos rfl)
  -- the other objects stay
  have hobjects : ∀ d, d ≠ session.digest →
      AList.lookup d (storeEffects.applyAll (Storage.promotion sid session.digest written) s).objects =
        AList.lookup d s.objects := by
    intro d hne
    rcases writeManifest_effects hw with rfl | rfl
    · exact AList.lookup_insert_ne hne
    · exact AList.lookup_insert_ne hne
  generalize storeEffects.applyAll (Storage.promotion sid session.digest written) s = t at hholds hindex hempty hobjects
  refine ⟨?_, ?_, ?_, by rw [hempty]; rfl, ?_, ?_⟩
  · rw [hindex]
    exact h.sole
  · intro i row hrow
    rw [hindex] at hrow
    obtain ⟨n, p, hn, hp, _⟩ := h.rows i row hrow
    refine ⟨n, p, hn, hp, ?_⟩
    intro f hf
    rw [hempty] at hf
    cases hf
  · rw [hindex]
    exact h.recorded
  · intro dir hdir
    by_cases hd : digest = session.digest
    · subst hd
      have hdir' : dirOf t.objects session.digest = dir := by
        rw [dirOf, hdir]
        rfl
      rw [hdir'] at hholds
      exact ⟨session, m', ps, by rw [hindex]; exact hs, rfl, hholds, hlen, hacc⟩
    · rw [hobjects digest hd] at hdir
      rw [hindex]
      exact h.object dir hdir
  · rw [hindex]
    exact h.artifact

/-! ## Calls elsewhere -/

/-- A step that does not touch the session and its content address. -/
structure Apart (sid digest : String) (s t : Store) : Prop extends Elsewhere sid digest s t where
  session : AList.lookup sid t.index.sessions = AList.lookup sid s.index.sessions

theorem Apart.refl (sid digest : String) (s : Store) : Apart sid digest s s := ⟨Elsewhere.refl sid digest s, rfl⟩

theorem Apart.trans {u : Store} (h : Apart sid digest s t) (h' : Apart sid digest t u) : Apart sid digest s u :=
  ⟨h.toElsewhere.trans h'.toElsewhere, h'.session.trans h.session⟩

theorem apart_index {ix : Index} (h1 : ix.sessions = s.index.sessions) (h2 : ix.chunks = s.index.chunks)
    (h3 : AList.lookup digest ix.artifacts = AList.lookup digest s.index.artifacts) :
    Apart sid digest s (Effect.apply (.commit ix) s) := by
  refine ⟨⟨?_, ?_, rfl, fun _ => rfl, rfl, h3, ?_⟩, congrArg (AList.lookup sid) h1⟩
  · intro existing hs
    exact ⟨existing, (congrArg (AList.lookup sid) h1).trans hs, ⟨rfl, rfl, rfl⟩⟩
  · exact fun i => congrArg (AList.lookup (sid, i)) h2
  · intro hsole sid' existing hs
    exact hsole sid' existing ((congrArg (AList.lookup sid') h1).symm.trans hs)

/-- Another object appears, changes or goes away. -/
theorem apart_objects {objects : Table String Dir} (h : AList.lookup digest objects = AList.lookup digest s.objects) :
    Apart sid digest s { s with objects := objects } :=
  ⟨⟨fun existing hs => ⟨existing, hs, ⟨rfl, rfl, rfl⟩⟩, fun _ => rfl, rfl, fun _ => rfl, h, rfl, id⟩, rfl⟩

theorem apart_quarantine {digest' : String} (hne : digest ≠ digest') :
    Apart sid digest s (Effect.apply (.quarantine digest') s) := apart_objects (AList.lookup_erase_ne hne)

theorem apart_settle {sid' : String} {other : DurablePutSession} {c : ArtifactContract} (hne : sid' ≠ sid)
    (hs : AList.lookup sid' s.index.sessions = some other) (hd : digest ≠ c.artifact.digest) :
    Apart sid digest s (storeEffects.applyAll (settle sid' other c s).effects s) := by
  rcases @settle_cases sid' other s c with ⟨e, heq⟩ | ⟨ix, _, hix, heq⟩
  · rw [heq]
    exact Apart.refl sid digest s
  rw [heq]
  obtain ⟨hsessions, hchunks, hartifacts⟩ := indexArtifact_ok hix
  have hrow : (completedIndex sid' other ix).sessions = AList.insert sid' { other with state := .complete } s.index.sessions := by
    show AList.insert sid' _ ix.sessions = _
    rw [hsessions]
  have helsewhere : Elsewhere sid digest s (Effect.apply (.commit (completedIndex sid' other ix)) s) := by
    refine elsewhere_session hrow hchunks ?_ ?_ ?_
    · show AList.lookup digest ix.artifacts = _
      rw [hartifacts, if_neg hd]
    · intro existing hex
      rw [hs] at hex
      cases hex
      exact sameContract_complete other
    · intro hnone
      rw [hs] at hnone
      cases hnone
  refine ⟨helsewhere, ?_⟩
  show AList.lookup sid (completedIndex sid' other ix).sessions = _
  rw [hrow, Table.lookup_insert', if_neg hne.symm]

theorem apart_promotion {sid' : String} {other : DurablePutSession} {m : Manifest} {written : List Effect} (hne : sid' ≠ sid)
    (hd : digest ≠ other.digest) (hw : writeManifest cas sid' other m s = .ok written) :
    Apart sid digest s (storeEffects.applyAll (promotion sid' other.digest written) s) := by
  have hpromote : ∀ t : Store, t.index = s.index → t.objects = s.objects → t.transfer sid = s.transfer sid →
      Apart sid digest s (Effect.apply (.promote sid' other.digest) t) := by
    intro t hindex hobjects htransfer
    have hsame : (Effect.apply (.promote sid' other.digest) t).transfer sid = s.transfer sid := by
      rw [transfer_promote, if_neg hne.symm, htransfer]
    refine ⟨⟨?_, ?_, by rw [hsame], fun j => by rw [hsame], ?_, ?_, ?_⟩, congrArg (fun ix => AList.lookup sid ix.sessions) hindex⟩
    · intro existing hs
      exact ⟨existing, (congrArg (fun ix => AList.lookup sid ix.sessions) hindex).trans hs, ⟨rfl, rfl, rfl⟩⟩
    · exact fun i => congrArg (fun ix => AList.lookup (sid, i) ix.chunks) hindex
    · show AList.lookup digest (AList.insert other.digest (t.transfer sid') t.objects) = _
      rw [AList.lookup_insert_ne hd, hobjects]
    · exact congrArg (fun ix => AList.lookup digest ix.artifacts) hindex
    · intro hsole name existing hs
      exact hsole name existing ((congrArg (fun ix => AList.lookup name ix.sessions) hindex).symm.trans hs)
  rcases writeManifest_effects hw with rfl | rfl
  · exact hpromote s rfl rfl rfl
  · refine hpromote (Effect.apply (.writeManifest sid' m) s) rfl rfl ?_
    rw [transfer_writeManifest, if_neg hne.symm]

/-- A transfer of another session with another content address is promoted. -/
theorem apart_promoteTransfer {now createdAt : Int} {sid' : String} {other : DurablePutSession} (hne : sid' ≠ sid)
    (hs : AList.lookup sid' s.index.sessions = some other) (hd : digest ≠ other.digest) :
    Apart sid digest s (storeEffects.applyAll (promoteTransfer cas now createdAt sid' other s).effects s) := by
  rcases @promoteTransfer_cases cas now createdAt sid' other s with ⟨e, heq⟩ | ⟨m, written, _, hw, hdone⟩
  · rw [heq]
    exact Apart.refl sid digest s
  have hpromoted : Apart sid digest s _ := apart_promotion hne hd hw
  rcases hdone with ⟨e, _, heq⟩ | ⟨c, hc, heq⟩
  · rw [heq]
    exact hpromoted
  · rw [heq, applyAll_after]
    refine hpromoted.trans (apart_settle hne ?_ ?_)
    · rw [index_promotion hw]
      exact hs
    · rw [verifyObject_digest hc]
      exact hd

/-- A commit of another session with another content address. -/
theorem apart_commit_of_ne {now createdAt : Int} {sid' : String} (hne : sid' ≠ sid)
    (hdigest : ∀ other, AList.lookup sid' s.index.sessions = some other → digest ≠ other.digest) :
    Apart sid digest s (storeEffects.applyAll (commitResumablePut cas now createdAt sid' s).effects s) := by
  rcases @commit_cases cas now createdAt sid' s with ⟨e, heq⟩ | ⟨other, hs, _, _, hcases⟩
  · rw [heq]
    exact Apart.refl sid digest s
  have hd : digest ≠ other.digest := hdigest other hs
  rcases hcases with ⟨c, hc, heq⟩ | ⟨_, heq⟩ | ⟨e, _, _, heq⟩
  · rw [heq]
    refine apart_settle hne hs ?_
    rw [verifyObject_digest hc]
    exact hd
  · rw [heq]
    exact apart_promoteTransfer hne hs hd
  · rw [heq]
    exact (apart_quarantine hd).trans (apart_promoteTransfer (s := Effect.apply (.quarantine other.digest) s) hne hs hd)

theorem apart_indexObject {plaintext : Bytes} {options : PutOptions} {c : ArtifactContract}
    (hd : digest ≠ c.artifact.digest) : Apart sid digest s (storeEffects.applyAll (indexObject plaintext options c s).effects s) := by
  unfold indexObject
  split
  · exact Apart.refl sid digest s
  split
  · exact Apart.refl sid digest s
  · rename_i ix hix
    obtain ⟨hsessions, hchunks, hartifacts⟩ := indexArtifact_ok hix
    refine apart_index hsessions hchunks ?_
    rw [hartifacts, if_neg hd]

theorem apart_publishArtifact {createdAt : Int} {nonces : Nat → Nonce} {plaintext : Bytes} {options : PutOptions}
    (hd : digest ≠ sha256Digest cas plaintext) :
    Apart sid digest s (storeEffects.applyAll (publishArtifact cas createdAt nonces plaintext options s).effects s) := by
  unfold publishArtifact
  split
  · exact Apart.refl sid digest s
  have hpublished : Apart sid digest s (storeEffects.applyAll
      [Effect.publish (sha256Digest cas plaintext) (stage cas createdAt nonces plaintext options)] s) :=
    apart_objects (AList.lookup_insert_ne hd)
  dsimp only
  split
  · exact hpublished
  · rename_i c hc
    rw [applyAll_after]
    refine hpublished.trans (apart_indexObject ?_)
    rw [verifyObject_digest hc]
    exact hd

theorem apart_put {createdAt : Int} {nonces : Nat → Nonce} {plaintext : Bytes} {options : PutOptions}
    (hd : digest ≠ sha256Digest cas plaintext) :
    Apart sid digest s (storeEffects.applyAll (put cas createdAt nonces plaintext options s).effects s) := by
  unfold put
  split
  · exact Apart.refl sid digest s
  split
  · split
    · rename_i c hc
      refine apart_indexObject ?_
      rw [verifyObject_digest hc]
      exact hd
    split
    · exact (apart_quarantine hd).trans (apart_publishArtifact (s := Effect.apply (.quarantine _) s) hd)
    · exact Apart.refl sid digest s
  · exact apart_publishArtifact hd

/-! ## Committing the session -/

/-- A promotion of the session's transfer, from a state that differs at most in the objects. -/
theorem upload_promoteTransfer (h : Stored cas sid digest tr s) (hp : Placed sid digest tr s) {S : Set Bytes}
    (hix : IndexSound cas S s.index) (hs : AList.lookup sid s.index.sessions = some session) (now createdAt : Int) :
    Stored cas sid digest tr (storeEffects.applyAll (promoteTransfer cas now createdAt sid session s).effects s) ∧
      (Placed sid digest tr (storeEffects.applyAll (promoteTransfer cas now createdAt sid session s).effects s) ∨
        (promoteTransfer cas now createdAt sid session s).result = .error .invalidManifest) := by
  rcases @promoteTransfer_cases cas now createdAt sid session s with ⟨e, heq⟩ | ⟨m, written, hm, hw, hdone⟩
  · rw [heq]
    exact ⟨h, Or.inl hp⟩
  obtain ⟨_, ⟨ps, ha⟩, hm⟩ := assemble_ok hm (hix.sessions _ _ hs)
  have hpromoted := h.promotion hs ha hm hw
  have hindex : (storeEffects.applyAll (promotion sid session.digest written) s).index = s.index := index_promotion hw
  have hverify := verifyObject_promoted hix hs ha hm hw
  rcases hdone with ⟨e, he, heq⟩ | ⟨c, hc, heq⟩
  · -- only a manifest over the bound does not verify
    rw [heq]
    refine ⟨hpromoted, Or.inr ?_⟩
    rcases hverify with hok | ⟨herr, _⟩
    · rw [hok] at he
      cases he
    · rw [herr] at he
      cases he
      rfl
  · -- what verifies is the contract of the session
    have hcontract : c = sessionContract session := by
      rcases hverify with hok | ⟨herr, _⟩
      · rw [hok] at hc
        exact (Except.ok.inj hc).symm
      · rw [herr] at hc
        cases hc
    subst hcontract
    rw [heq, applyAll_after]
    have hs' : AList.lookup sid (storeEffects.applyAll (promotion sid session.digest written) s).index.sessions = some session := by
      rw [hindex]
      exact hs
    rcases @settle_cases sid session (storeEffects.applyAll (promotion sid session.digest written) s) (sessionContract session)
      with ⟨e, hfail⟩ | ⟨ix, hok, hixx, hsettle⟩
    · -- a refusal to index is possible only for another content address
      rw [hfail]
      refine ⟨hpromoted, Or.inl ?_⟩
      intro found hfound hd _
      exfalso
      change AList.lookup sid (storeEffects.applyAll (promotion sid session.digest written) s).index.sessions = some found at hfound
      rw [hs'] at hfound
      cases hfound
      obtain ⟨ix, _, hsettle⟩ := @settle_sessionContract sid (storeEffects.applyAll (promotion sid session.digest written) s)
        session (by
          intro row hrow
          have hrow' : AList.lookup digest (storeEffects.applyAll (promotion sid session.digest written) s).index.artifacts = some row := by
            rw [← hd]
            exact hrow
          obtain ⟨session', hs'', _, hr⟩ := hpromoted.artifact row hrow'
          rw [hs'] at hs''
          cases hs''
          exact hr)
      rw [hfail] at hsettle
      cases hsettle
    · rw [hsettle]
      refine ⟨hpromoted.settle hs' rfl hok hixx, Or.inl ?_⟩
      intro found hfound _ hactive
      change AList.lookup sid (AList.insert sid { session with state := .complete } ix.sessions) = some found at hfound
      rw [Table.lookup_insert', if_pos rfl] at hfound
      cases hfound
      cases hactive

/-- A commit of the session keeps the invariant. -/
theorem upload_commit (h : Stored cas sid digest tr s) (hp : Placed sid digest tr s) {S : Set Bytes}
    (hix : IndexSound cas S s.index) (now createdAt : Int) :
    Stored cas sid digest tr (storeEffects.applyAll (commitResumablePut cas now createdAt sid s).effects s) ∧
      (Placed sid digest tr (storeEffects.applyAll (commitResumablePut cas now createdAt sid s).effects s) ∨
        (commitResumablePut cas now createdAt sid s).result = .error .invalidManifest) := by
  rcases @commit_cases cas now createdAt sid s with ⟨e, heq⟩ | ⟨session, hs, _, _, hcases⟩
  · rw [heq]
    exact ⟨h, Or.inl hp⟩
  rcases hcases with ⟨c, hc, heq⟩ | ⟨_, heq⟩ | ⟨e, _, _, heq⟩
  · rw [heq]
    rcases @settle_cases sid session s c with ⟨e, hfail⟩ | ⟨ix, hok, hixx, hsettle⟩
    · rw [hfail]
      exact ⟨h, Or.inl hp⟩
    · rw [hsettle]
      refine ⟨h.settle hs (verifyObject_digest hc) hok hixx, Or.inl ?_⟩
      intro found hfound _ hactive
      change AList.lookup sid (AList.insert sid { session with state := .complete } ix.sessions) = some found at hfound
      rw [Table.lookup_insert', if_pos rfl] at hfound
      cases hfound
      cases hactive
  · rw [heq]
    exact upload_promoteTransfer h hp hix hs now createdAt
  · rw [heq]
    exact upload_promoteTransfer (s := Effect.apply (.quarantine session.digest) s) (h.quarantine _) hp hix hs now createdAt

/-! ## Runs -/

/-- Where SHA-256 does not collide, at most one payload is accepted at an index. -/
theorem Stored.unique (h : Stored cas sid digest tr s) {S : Set Bytes} (hcol : Set.InjOn cas.sha256 S) {i : Nat} {p q : Bytes}
    (hp : WasAccepted tr sid i p) (hq : WasAccepted tr sid i q) (hps : p ∈ S) (hqs : q ∈ S) : q = p := by
  obtain ⟨row, hrow, hdp⟩ := h.recorded i p hp
  obtain ⟨row', hrow', hdq⟩ := h.recorded i q hq
  rw [hrow] at hrow'
  cases hrow'
  exact hcol hqs hps (sha256Digest_inj.1 (hdq.symm.trans hdp))

/-- A commit that succeeds leaves an object that verifies, of the session's size. -/
theorem commit_verified {now createdAt : Int} {artifact : ArtifactRefV1}
    (hs : AList.lookup sid s.index.sessions = some session)
    (hr : (commitResumablePut cas now createdAt sid s).result = .ok artifact) : ∃ c,
      verifyObject cas session.digest (storeEffects.applyAll (commitResumablePut cas now createdAt sid s).effects s) = .ok c ∧
        c.artifact.sizeBytes = session.sizeBytes := by
  -- settling changes the index only
  have settled : ∀ {t : Store} {c : ArtifactContract}, verifyObject cas session.digest t = .ok c →
      (settle sid session c t).result = .ok artifact →
      verifyObject cas session.digest (storeEffects.applyAll (settle sid session c t).effects t) = .ok c ∧
        c.artifact.sizeBytes = session.sizeBytes := by
    intro t c hc hres
    rcases @settle_cases sid session t c with ⟨e, heq⟩ | ⟨ix, hok, _, heq⟩
    · rw [heq] at hres
      cases hres
    · rw [heq]
      exact ⟨hc, congrArg ArtifactRow.sizeBytes (ensureArtifactContract_ok hok)⟩
  have promoted : ∀ {t : Store}, (promoteTransfer cas now createdAt sid session t).result = .ok artifact → ∃ c,
      verifyObject cas session.digest (storeEffects.applyAll (promoteTransfer cas now createdAt sid session t).effects t) = .ok c ∧
        c.artifact.sizeBytes = session.sizeBytes := by
    intro t hres
    rcases @promoteTransfer_cases cas now createdAt sid session t with ⟨e, heq⟩ | ⟨m, written, _, _, hdone⟩
    · rw [heq] at hres
      cases hres
    rcases hdone with ⟨e, _, heq⟩ | ⟨c, hc, heq⟩
    · rw [heq] at hres
      cases hres
    · rw [heq] at hres ⊢
      rw [applyAll_after]
      exact ⟨c, settled hc hres⟩
  rcases @commit_cases cas now createdAt sid s with ⟨e, heq⟩ | ⟨session', hs', _, _, hcases⟩
  · rw [heq] at hr
    cases hr
  rw [hs] at hs'
  cases hs'
  rcases hcases with ⟨c, hc, heq⟩ | ⟨_, heq⟩ | ⟨e, _, _, heq⟩
  · rw [heq] at hr ⊢
    exact ⟨c, settled hc hr⟩
  · rw [heq] at hr ⊢
    exact promoted hr
  · rw [heq] at hr ⊢
    exact promoted (t := Effect.apply (.quarantine session.digest) s) hr

/-- A commit leaves the contract of its session as it is. -/
theorem commit_keeps_contract (now createdAt : Int) (hs : AList.lookup sid s.index.sessions = some session) : ∃ session',
    AList.lookup sid (storeEffects.applyAll (commitResumablePut cas now createdAt sid s).effects s).index.sessions = some session' ∧
      SameContract session' session := by
  have settled : ∀ {t : Store} (c : ArtifactContract), AList.lookup sid t.index.sessions = some session → ∃ session',
      AList.lookup sid (storeEffects.applyAll (settle sid session c t).effects t).index.sessions = some session' ∧
        SameContract session' session := by
    intro t c ht
    rcases @settle_cases sid session t c with ⟨e, heq⟩ | ⟨ix, _, _, heq⟩
    · rw [heq]
      exact ⟨session, ht, ⟨rfl, rfl, rfl⟩⟩
    · rw [heq]
      refine ⟨{ session with state := .complete }, ?_, sameContract_complete session⟩
      show AList.lookup sid (AList.insert sid _ ix.sessions) = _
      rw [Table.lookup_insert', if_pos rfl]
  have promoted : ∀ {t : Store}, t.index = s.index → ∃ session',
      AList.lookup sid (storeEffects.applyAll (promoteTransfer cas now createdAt sid session t).effects t).index.sessions =
        some session' ∧ SameContract session' session := by
    intro t ht
    rcases @promoteTransfer_cases cas now createdAt sid session t with ⟨e, heq⟩ | ⟨m, written, _, hw, hdone⟩
    · rw [heq]
      exact ⟨session, by rw [← hs, ← ht]; rfl, ⟨rfl, rfl, rfl⟩⟩
    have hindex : (storeEffects.applyAll (promotion sid session.digest written) t).index = s.index :=
      (index_promotion hw).trans ht
    rcases hdone with ⟨e, _, heq⟩ | ⟨c, _, heq⟩
    · rw [heq]
      exact ⟨session, by rw [← hs, ← hindex], ⟨rfl, rfl, rfl⟩⟩
    · rw [heq, applyAll_after]
      exact settled c (by rw [hindex]; exact hs)
  rcases @commit_cases cas now createdAt sid s with ⟨e, heq⟩ | ⟨session', hs', _, _, hcases⟩
  · rw [heq]
    exact ⟨session, hs, ⟨rfl, rfl, rfl⟩⟩
  rw [hs] at hs'
  cases hs'
  rcases hcases with ⟨c, _, heq⟩ | ⟨_, heq⟩ | ⟨e, _, _, heq⟩
  · rw [heq]
    exact settled c hs
  · rw [heq]
    exact promoted rfl
  · rw [heq]
    exact promoted (t := Effect.apply (.quarantine session.digest) s) rfl

/-- A commit of a valid session: the object that is in place decides. -/
theorem commit_eq {now createdAt : Int} (hv : SessionValid sid session)
    (hs : AList.lookup sid s.index.sessions = some session) : commitResumablePut cas now createdAt sid s =
      if (AList.lookup session.digest s.objects).isSome then
        match verifyObject cas session.digest s with
        | .ok existing => settle sid session existing s
        | .error e =>
          if isRepairableObjectError e then
            (promoteTransfer cas now createdAt sid session (Effect.apply (.quarantine session.digest) s)).after
              [Effect.quarantine session.digest]
          else .fail e
      else promoteTransfer cas now createdAt sid session s := by
  unfold commitResumablePut transferDir objectDir
  rw [if_pos hv.id]
  dsimp only
  rw [hs]
  dsimp only
  -- the two texts of the inner match differ in no more than its compiled name
  rewrite [if_pos hv.digest]
  rfl

/-- What verifies is there. -/
theorem isSome_of_verifyObject {c : ArtifactContract} (h : verifyObject cas digest s = .ok c) :
    (AList.lookup digest s.objects).isSome = true := by
  cases hdir : AList.lookup digest s.objects with
  | some dir => rfl
  | none =>
    exfalso
    unfold verifyObject readManifest dirOf at h
    rw [hdir] at h
    unfold objectDir at h
    split at h
    · cases h
    · rename_i hread
      split at hread
      · cases hread
      · cases hread

/-- What a commit that succeeds has stored. -/
theorem Stored.committed (h : Stored cas sid digest tr s) (hp : Placed sid digest tr s) {S : Set Bytes}
    (hix : IndexSound cas S s.index) (hs : AList.lookup sid s.index.sessions = some session) (hd : session.digest = digest)
    {now createdAt : Int} {artifact : ArtifactRefV1}
    (hr : (commitResumablePut cas now createdAt sid s).result = .ok artifact) : ∃ ps : List Bytes,
      ps.length = session.chunkCount ∧ (∀ (i : Nat) (p : Bytes), ps[i]? = some p → WasAccepted tr sid i p) ∧
        get cas digest (storeEffects.applyAll (commitResumablePut cas now createdAt sid s).effects s) = .ok ps.flatten ∧
        sha256Digest cas ps.flatten = digest ∧ ps.flatten.length = session.sizeBytes := by
  obtain ⟨c, hc, hsize⟩ := commit_verified hs hr
  have hafter := (upload_commit h hp hix now createdAt).1
  subst hd
  obtain ⟨dir, hdir⟩ := Option.isSome_iff_exists.1 (isSome_of_verifyObject hc)
  obtain ⟨session', m, ps, hs', _, hholds, hlen, hacc⟩ := hafter.object dir hdir
  have hdirOf : dirOf (storeEffects.applyAll (commitResumablePut cas now createdAt sid s).effects s).objects session.digest =
      dir := by
    unfold dirOf
    rw [hdir]
    rfl
  rw [← hdirOf] at hholds
  obtain ⟨hget, hsha, hflat⟩ := get_of_verifyObject hc hholds
  obtain ⟨session'', hs'', hsame⟩ := @commit_keeps_contract cas sid s session now createdAt hs
  rw [hs'] at hs''
  cases hs''
  exact ⟨ps, hlen.trans hsame.chunkCount, hacc, hget, hsha, hflat.trans hsize⟩

/-- A payload other than the accepted one is refused. -/
theorem Stored.refused (h : Stored cas sid digest tr s) {S : Set Bytes} (hcol : Set.InjOn cas.sha256 S)
    (hs : AList.lookup sid s.index.sessions = some session) (hactive : session.state = .active) {i : Nat} {p q : Bytes}
    (hacc : WasAccepted tr sid i p) (hps : p ∈ S) (hqs : q ∈ S) (hne : q ≠ p) (now : Int) (nonce : Nonce) (d : String) :
    ∃ e, putResumableChunk cas now nonce sid i d q s = .fail e := by
  obtain ⟨row, hrow, hdigest⟩ := h.recorded i p hacc
  have hother : row.plaintextDigest ≠ sha256Digest cas q := by
    intro heq
    exact hne (hcol hqs hps (sha256Digest_inj.1 (heq.symm.trans hdigest)))
  rcases @putChunk_cases cas now s sid i d q nonce with hfail | ⟨⟨session', hs', hcomplete⟩, _⟩ | ⟨_, _, _, hwhich⟩
  · exact hfail
  · rw [hs] at hs'
    cases hs'
    rw [hactive] at hcomplete
    cases hcomplete
  rcases hwhich with ⟨row', hrow', hsame, _⟩ | ⟨hall, _⟩
  · rw [hrow] at hrow'
    cases hrow'
    exact absurd hsame hother
  · exact absurd (hall row hrow).1 hother

end

/-! ## The theorem -/

section

open Scenario

end

end Rampage.Storage
