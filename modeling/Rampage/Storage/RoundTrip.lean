/-
What was put comes back. Four readers go over the manifest and the chunk files of an object, each with checks of its own: all
of them answer with what was put, whole or chunk by chunk, and the same put again changes nothing. A put of the same bytes
under other options is refused and leaves the first in place (`put_round_trip`).
-/
import Rampage.Storage.Put

namespace Rampage.Storage

open Rampage.Protocol

variable {cas : CasStore} {s t : Store} {createdAt : Int} {nonces : Nat → Nonce} {plaintext : Bytes}
  {options options' : PutOptions} {digest : String}

/-! ## What is kept -/

/-- The store keeps the artifact: its object verifies and gives the bytes back, and its row is in the index. -/
structure ArtifactKept (cas : CasStore) (plaintext : Bytes) (options : PutOptions) (t : Store) : Prop where
  guard : ¬ needsReplication options
  verifies : verifyObject cas (sha256Digest cas plaintext) t = .ok (optionsContract cas plaintext options)
  row : AList.lookup (sha256Digest cas plaintext) t.index.artifacts = some (optionsRow plaintext options)
  bytes : get cas (sha256Digest cas plaintext) t = .ok plaintext

theorem ArtifactKept.head (h : ArtifactKept cas plaintext options t) :
    head cas (sha256Digest cas plaintext) t = .ok (optionsContract cas plaintext options).artifact := by
  obtain ⟨m, ps, hread, -, -, -, hcontract⟩ := verifyObject_ok h.verifies
  unfold Storage.head
  rw [hread]
  dsimp only
  rw [h.row]
  dsimp only
  rw [← hcontract]
  have hsame := @ensureArtifactContract_options cas plaintext options options
  rw [if_pos rfl] at hsame
  unfold optionsRow
  dsimp only
  rw [hsame]
  rfl

theorem ArtifactKept.verify (h : ArtifactKept cas plaintext options t) :
    verify cas (sha256Digest cas plaintext) t = .ok (optionsContract cas plaintext options).artifact := by
  unfold Storage.verify
  rw [h.verifies]
  dsimp only
  rw [h.head]
  rfl

/-- The layout gives the number of the chunks, which put together are the artifact. -/
theorem ArtifactKept.chunks (h : ArtifactKept cas plaintext options t) :
    ∃ layout, chunkLayout cas (sha256Digest cas plaintext) t = .ok layout ∧
      layout.digest = sha256Digest cas plaintext ∧ layout.sizeBytes = plaintext.length ∧
      (∃ chunks, List.Forall₂ (fun i p => getChunk cas (sha256Digest cas plaintext) i t = .ok p)
        (List.range layout.chunkCount) chunks ∧ chunks.flatten = plaintext) ∧
      ∀ i, layout.chunkCount ≤ i → getChunk cas (sha256Digest cas plaintext) i t = .error .chunkOutOfRange :=
  layout_of_verifyObject h.verifies h.bytes

/-! ## Putting again -/

/-- The same put again settles on the object in place, with the row that is there. -/
theorem ArtifactKept.put_again (h : ArtifactKept cas plaintext options t) (createdAt : Int) (nonces : Nat → Nonce) :
    put cas createdAt nonces plaintext options t =
      ⟨[.commit t.index], .ok (optionsContract cas plaintext options).artifact⟩ := by
  -- the row is there, and the transaction commits the index as it found it
  have hindex : indexArtifactInTransaction (optionsContract cas plaintext options).artifact options.requiredReplicas t.index =
      .ok t.index := by
    have hrow : AList.lookup (optionsContract cas plaintext options).artifact.digest t.index.artifacts =
        some (optionsRow plaintext options) := h.row
    unfold indexArtifactInTransaction
    rw [hrow]
    simp [optionsRow, optionsContract]
  unfold put
  rw [if_neg h.guard, if_pos (isSome_of_verifyObject h.verifies), h.verifies]
  dsimp only
  exact indexObject_of_ok hindex

/-- Other options do not pass: the class needs more replicas, or the object in place is of another contract. -/
theorem ArtifactKept.put_other (h : ArtifactKept cas plaintext options t) (hne : options' ≠ options) (createdAt : Int)
    (nonces : Nat → Nonce) : put cas createdAt nonces plaintext options' t =
      .fail (if options'.storageClass = .«protected» ∧ options'.requiredReplicas < 2 then .protectedRequiresReplication
        else .artifactConflict) := by
  unfold put
  split
  · rfl
  rw [if_pos (isSome_of_verifyObject h.verifies), h.verifies]
  dsimp only
  unfold indexObject
  rw [ensureArtifactContract_options, if_neg hne]

/-! ## Putting -/

/-- What a put that publishes leaves. -/
theorem kept_of_publishArtifact (hclass : ¬ needsReplication options) (hver : Verifiable cas createdAt nonces plaintext options)
    {ix : Index} (hix : indexArtifactInTransaction (optionsContract cas plaintext options).artifact options.requiredReplicas
      s.index = .ok ix) :
    ArtifactKept cas plaintext options (storeEffects.applyAll
      [.publish (sha256Digest cas plaintext) (stage cas createdAt nonces plaintext options), .commit ix] s) := by
  let u := Effect.apply (.publish (sha256Digest cas plaintext) (stage cas createdAt nonces plaintext options)) s
  have hverify : verifyObject cas (sha256Digest cas plaintext) u = .ok (optionsContract cas plaintext options) :=
    hver.verifyObject hclass s
  have hdir : dirOf u.objects (sha256Digest cas plaintext) = stage cas createdAt nonces plaintext options := by
    simp [u, dirOf, Effect.apply]
  have hholds := hver.holds
  rw [← hdir] at hholds
  obtain ⟨hget, -, -⟩ := get_of_verifyObject hverify hholds
  rw [hver.flatten] at hget
  obtain ⟨-, -, hartifacts⟩ := indexArtifact_ok hix
  refine ⟨hclass, ?_, ?_, ?_⟩
  · exact (verifyObject_congr rfl _).trans hverify
  · exact (hartifacts _).trans (if_pos rfl)
  · exact hget

/-- A put that answers with an artifact keeps it, where no other bytes of the object in place have its SHA-256. -/
theorem artifactKept_of_put {S : Set Bytes} (hcol : Set.InjOn cas.sha256 S) (hplain : plaintext ∈ S)
    (hplace : ∀ b, get cas (sha256Digest cas plaintext) s = .ok b → b ∈ S) {r : ArtifactRefV1}
    (h : (put cas createdAt nonces plaintext options s).result = .ok r) :
    r = (optionsContract cas plaintext options).artifact ∧
      ArtifactKept cas plaintext options (storeEffects.applyAll (put cas createdAt nonces plaintext options s).effects s) := by
  have hclass : ¬ needsReplication options := by
    intro hneeds
    unfold put at h
    rw [if_pos hneeds] at h
    cases h
  cases hpublishes : publishes cas plaintext options s with
  | true =>
    have hcases := @publishing_put cas s createdAt nonces plaintext options hpublishes
    generalize put cas createdAt nonces plaintext options s = op at hcases h ⊢
    cases hcases with
    | invalid => cases h
    | conflict => cases h
    | indexed hver _ ix hix =>
      refine ⟨(Except.ok.inj h).symm, ?_⟩
      dsimp only
      rw [applyAll_removals]
      refine kept_of_publishArtifact hclass hver ?_
      rw [index_removals]
      exact hix
  | false =>
    rcases @put_of_not_publishes cas s createdAt nonces plaintext options hpublishes with
      ⟨e, heq⟩ | ⟨-, e, heq⟩ | ⟨c, ix, hverify, hcontract, hix, heq⟩
    · rw [heq] at h
      cases h
    · rw [heq] at h
      cases h
    · rw [heq] at h ⊢
      -- the object in place is of the put's contract, and its bytes are the put's
      obtain rfl : c = optionsContract cas plaintext options := contract_of_verifyObject hverify hcontract
      obtain ⟨m, ps, hread, hholds, hsha, -, -⟩ := verifyObject_ok hverify
      obtain ⟨hget, -, -⟩ := get_of_verifyObject hverify hholds
      have hbytes : ps.flatten = plaintext := hcol (hplace _ hget) hplain (sha256Digest_inj.1 hsha)
      rw [hbytes] at hget
      obtain ⟨-, -, hartifacts⟩ := indexArtifact_ok hix
      refine ⟨(Except.ok.inj h).symm, hclass, ?_, ?_, ?_⟩
      · exact (verifyObject_congr rfl _).trans hverify
      · exact (hartifacts _).trans (if_pos rfl)
      · exact (get_congr rfl _).trans hget

/-- What was put comes back: whole, in the answers of `head` and `verify`, and chunk by chunk. The same put again answers the
same and changes nothing; under other options it is refused, for the replicas of a protected artifact first, and changes
nothing either. -/
theorem put_round_trip (cas : CasStore) (S : Set Bytes) (hcol : Set.InjOn cas.sha256 S) (s : Store) (createdAt : Int)
    (nonces : Nat → Nonce) (plaintext : Bytes) (options : PutOptions) (hplain : plaintext ∈ S)
    (hplace : ∀ b, get cas (sha256Digest cas plaintext) s = .ok b → b ∈ S) (r : ArtifactRefV1)
    (hput : (put cas createdAt nonces plaintext options s).result = .ok r) :
    let t := storeEffects.applyAll (put cas createdAt nonces plaintext options s).effects s
    get cas r.digest t = .ok plaintext ∧ head cas r.digest t = .ok r ∧ verify cas r.digest t = .ok r ∧
    (∃ layout, chunkLayout cas r.digest t = .ok layout ∧ layout.digest = r.digest ∧ layout.sizeBytes = plaintext.length ∧
      (∃ chunks, List.Forall₂ (fun i p => getChunk cas r.digest i t = .ok p) (List.range layout.chunkCount) chunks ∧
        chunks.flatten = plaintext) ∧
      ∀ i, layout.chunkCount ≤ i → getChunk cas r.digest i t = .error .chunkOutOfRange) ∧
    (∀ createdAt' nonces', (put cas createdAt' nonces' plaintext options t).result = .ok r ∧
      storeEffects.applyAll (put cas createdAt' nonces' plaintext options t).effects t = t) ∧
    ∀ createdAt' nonces' options', options' ≠ options →
      (put cas createdAt' nonces' plaintext options' t).result =
          .error (if options'.storageClass = .«protected» ∧ options'.requiredReplicas < 2 then .protectedRequiresReplication
            else .artifactConflict) ∧
        storeEffects.applyAll (put cas createdAt' nonces' plaintext options' t).effects t = t := by
  intro t
  obtain ⟨rfl, hkept⟩ := artifactKept_of_put hcol hplain hplace hput
  refine ⟨hkept.bytes, hkept.head, hkept.verify, hkept.chunks, ?_, ?_⟩
  · intro createdAt' nonces'
    rw [hkept.put_again]
    exact ⟨rfl, rfl⟩
  · intro createdAt' nonces' options' hne
    rw [hkept.put_other hne]
    exact ⟨rfl, rfl⟩

/-- One byte, put into an empty store. -/
theorem put_round_trip_byte :
    let op := put Scenario.cas 0 (fun _ => Scenario.nonce 0) [1] ⟨"text/plain", .cache, 1⟩ Store.empty
    get Scenario.cas (sha256Digest Scenario.cas [1]) (storeEffects.applyAll op.effects Store.empty) = .ok [1] := by
  refine (put_round_trip Scenario.cas {[1]} (Set.injOn_singleton _ _) Store.empty 0 (fun _ => Scenario.nonce 0) [1]
    ⟨"text/plain", .cache, 1⟩ rfl ?_
    ⟨"rampage.artifact-ref.v1", sha256Digest Scenario.cas [1], 1, "text/plain", .cache, true⟩ (by decide +kernel)).1
  intro b hb
  have hnone : get Scenario.cas (sha256Digest Scenario.cas [1]) Store.empty =
      .error (.notFound (sha256Digest Scenario.cas [1])) := by decide +kernel
  cases hnone.symm.trans hb

/-- An artifact is stored as protected with two replicas. Put again with one, it is not a conflict but refused for its
replicas. -/
theorem fewer_replicas_are_not_a_conflict :
    let op := put Scenario.cas 0 (fun _ => Scenario.nonce 0) [1] ⟨"text/plain", .«protected», 2⟩ Store.empty
    let t := storeEffects.applyAll op.effects Store.empty
    op.result = .ok ⟨"rampage.artifact-ref.v1", sha256Digest Scenario.cas [1], 1, "text/plain", .«protected», true⟩ ∧
      (put Scenario.cas 0 (fun _ => Scenario.nonce 2) [1] ⟨"text/plain", .«protected», 1⟩ t).result =
        .error .protectedRequiresReplication := by
  decide +kernel

end Rampage.Storage
