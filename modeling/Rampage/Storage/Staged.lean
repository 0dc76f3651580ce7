/-
What `put` stages. The artifact is cut into chunks, each is encrypted under a nonce of its own and a manifest lists
them. Once the staged directory is in its place, `verify_object` accepts it if the manifest has a valid header and
is short enough; the chunks themselves always open.
-/
import Rampage.Storage.Contents
import Rampage.Storage.Layout

namespace Rampage.Storage

open Rampage.Protocol

/-! ## The chunks -/

theorem getElem?_chunksOf {size : Nat} (hsize : 0 < size) : ∀ {fuel : Nat} {l : Bytes}, l.length ≤ fuel → ∀ i,
    (chunksOf size fuel l)[i]? = if i * size < l.length then some (chunkAt size l i) else none
  | 0, l, hl, i => by
    obtain rfl : l = [] := List.length_eq_zero_iff.1 (Nat.le_zero.1 hl)
    simp [chunksOf]
  | fuel + 1, [], _, i => by simp [chunksOf]
  | fuel + 1, b :: l, hl, 0 => by simp [chunksOf, chunkAt]
  | fuel + 1, b :: l, hl, i + 1 => by
    have hdrop : ((b :: l).drop size).length ≤ fuel := by
      rw [List.length_drop]
      omega
    rw [chunksOf, List.getElem?_cons_succ, getElem?_chunksOf hsize hdrop i, List.length_drop, Nat.succ_mul]
    have hchunk : chunkAt size ((b :: l).drop size) i = chunkAt size (b :: l) (i + 1) := by
      rw [chunkAt, chunkAt, List.drop_drop, Nat.succ_mul, Nat.add_comm]
    rw [hchunk]
    by_cases h : i * size + size < (b :: l).length
    · rw [if_pos h, if_pos (by omega)]
    · rw [if_neg h, if_neg (by omega)]

theorem chunksOf_eq {size : Nat} (hsize : 0 < size) {count : Nat} {l : Bytes} (h : Layout l.length size count) :
    chunksOf size l.length l = (List.range count).map (chunkAt size l) := by
  apply List.ext_getElem?
  intro i
  have hbelow := h.below
  have habove := h.above
  rw [getElem?_chunksOf hsize (le_refl _), List.getElem?_map]
  by_cases hi : i < count
  · have hle : i * size ≤ (count - 1) * size := Nat.mul_le_mul_right size (by omega)
    rw [if_pos (by omega), List.getElem?_range hi, Option.map_some]
  · have hge : count * size ≤ i * size := Nat.mul_le_mul_right size (by omega)
    rw [if_neg (by omega), List.getElem?_eq_none (by simpa using hi), Option.map_none]

/-! ## The directory -/

section

variable (cas : CasStore) (createdAt : Int) (nonces : Nat → Nonce) (plaintext : Bytes) (options : PutOptions)

/-- The chunks with their indices. -/
def stagedChunks : List (Bytes × Nat) := (chunksOf defaultChunkSize plaintext.length plaintext).zipIdx

/-- The record of a chunk that `put` has written. -/
def stagedRecord (c : Bytes × Nat) : ChunkRecord :=
  ⟨c.2 % 2 ^ 32, Hex.encode (nonces c.2).1, c.1.length, sha256Hex cas (cas.encrypt (nonces c.2) c.1)⟩

/-- The manifest of the staged directory. -/
def stagedManifest : Manifest where
  schema := Manifest.schemaName
  plaintextDigest := sha256Digest cas plaintext
  plaintextSize := plaintext.length
  mediaType := options.mediaType
  storageClass := options.storageClass
  requiredReplicas := options.requiredReplicas
  createdAt := createdAt
  chunks := (stagedChunks plaintext).map (stagedRecord cas nonces)

theorem stage_manifest : (stage cas createdAt nonces plaintext options).manifest =
    some (.json (stagedManifest cas createdAt nonces plaintext options)) := rfl

/-- A put that stages an object which can be verified: it is no larger than a transfer may be, the media type is short
ASCII text, it wants at least one replica, and its manifest is short enough. -/
structure Verifiable : Prop where
  size : plaintext.length ≤ maxArtifactTransferBytes
  mediaType : isBoundedAscii 255 options.mediaType = true
  replicas : options.requiredReplicas ≠ 0
  manifest : cas.manifestSize (stagedManifest cas createdAt nonces plaintext options) ≤ maxManifestBytes

end

section

variable {cas : CasStore} {createdAt : Int} {nonces : Nat → Nonce} {plaintext : Bytes} {options : PutOptions}

theorem layout_of_size (hne : plaintext ≠ []) (hle : plaintext.length ≤ maxArtifactTransferBytes) :
    ∃ count, Layout plaintext.length defaultChunkSize count := by
  obtain ⟨count, hcount⟩ := exists_chunkCount (List.length_pos_iff.2 hne) hle
  exact ⟨count, layout_of_chunkCount hcount⟩

/-- A chunk and its index: the index is small and the chunk is the artifact's. -/
theorem mem_stagedChunks {c : Bytes × Nat} (h : c ∈ stagedChunks plaintext) :
    c.2 * defaultChunkSize < plaintext.length ∧ c.1 = chunkAt defaultChunkSize plaintext c.2 := by
  have hget := List.mem_zipIdx_iff_getElem?.1 h
  rw [getElem?_chunksOf (by decide) (le_refl _)] at hget
  split at hget
  · rename_i hlt
    exact ⟨hlt, (Option.some.inj hget).symm⟩
  · cases hget

theorem index_lt_of_mem (hle : plaintext.length ≤ maxArtifactTransferBytes) {c : Bytes × Nat}
    (hc : c ∈ stagedChunks plaintext) : c.2 < 2 ^ 32 := by
  have hlt := (mem_stagedChunks hc).1
  have hone : c.2 ≤ c.2 * defaultChunkSize := Nat.le_mul_of_pos_right _ (by decide)
  have hmax : maxArtifactTransferBytes < 2 ^ 32 := by decide
  omega

/-- The staged chunk files open. -/
theorem Verifiable.holds (h : Verifiable cas createdAt nonces plaintext options) :
    Holds cas (stage cas createdAt nonces plaintext options) (stagedManifest cas createdAt nonces plaintext options)
      (chunksOf defaultChunkSize plaintext.length plaintext) := by
  refine ⟨rfl, ?_⟩
  have hpayloads : chunksOf defaultChunkSize plaintext.length plaintext = (stagedChunks plaintext).map (·.1) :=
    (List.zipIdx_map_fst 0 _).symm
  rw [hpayloads]
  show List.Forall₂ _ ((stagedChunks plaintext).map (stagedRecord cas nonces)) ((stagedChunks plaintext).map (·.1))
  rw [List.forall₂_map_left_iff, List.forall₂_map_right_iff, List.forall₂_same]
  intro c hc
  have hindex : c.2 % 2 ^ 32 = c.2 := Nat.mod_eq_of_lt (index_lt_of_mem h.size hc)
  have hfile : AList.lookup c.2 (stage cas createdAt nonces plaintext options).chunks =
      some (cas.encrypt (nonces c.2) c.1) := by
    refine Table.lookup_insertAll_of_mem ?_ (List.mem_map.2 ⟨c, hc, rfl⟩)
    rw [List.map_map]
    exact List.zipIdx_map_snd 0 (chunksOf defaultChunkSize plaintext.length plaintext) ▸ List.nodup_range'
  have hlen : (cas.encrypt (nonces c.2) c.1).length ≤ maxEncryptedChunkBytes := by
    have hle : c.1.length ≤ defaultChunkSize := by
      rw [(mem_stagedChunks hc).2, length_chunkAt]
      exact sizeAt_le
    rw [cas.encrypt_length]
    unfold maxEncryptedChunkBytes
    omega
  have hread : readRegularFileBounded (some (cas.encrypt (nonces c.2) c.1)) maxEncryptedChunkBytes =
      .ok (cas.encrypt (nonces c.2) c.1) := if_neg (Nat.not_lt.2 hlen)
  unfold openChunk stagedRecord
  dsimp only
  rw [hindex, hfile, hread]
  dsimp only
  rw [if_neg (not_not.2 rfl), decodeNonce_encode]
  dsimp only
  rw [cas.decrypt_encrypt]
  exact if_neg (not_not.2 rfl)

theorem Verifiable.flatten (h : Verifiable cas createdAt nonces plaintext options) :
    (chunksOf defaultChunkSize plaintext.length plaintext).flatten = plaintext := by
  by_cases hne : plaintext = []
  · subst hne
    rfl
  · obtain ⟨count, hlayout⟩ := layout_of_size hne h.size
    rw [chunksOf_eq (by decide) hlayout]
    exact hlayout.flatten_chunks rfl

section

variable (hsize : plaintext.length ≤ maxArtifactTransferBytes) (hmedia : isBoundedAscii 255 options.mediaType = true)
  (hreplicas : options.requiredReplicas ≠ 0) (hclass : ¬ (options.storageClass = .«protected» ∧ options.requiredReplicas < 2))

include hsize hmedia hreplicas hclass

theorem headerIsValid_staged
    (hchunks : (plaintext.length == 0) = ((stagedChunks plaintext).map (stagedRecord cas nonces)).isEmpty) :
    (stagedManifest cas createdAt nonces plaintext options).headerIsValid (sha256Digest cas plaintext) = true := by
  have hrep : (options.requiredReplicas != 0) = true := by simpa using hreplicas
  have hkind : (options.storageClass == .«protected» && decide (options.requiredReplicas < 2)) = false := by
    rw [← Bool.not_eq_true]
    simpa using hclass
  simp only [Manifest.headerIsValid, stagedManifest, Bool.and_eq_true, beq_iff_eq, Bool.not_eq_true']
  exact ⟨⟨⟨⟨⟨⟨trivial, trivial⟩, decide_eq_true hsize⟩, hmedia⟩, hrep⟩, hkind⟩, hchunks⟩

/-- The staged manifest is valid, if its size and the options may stand in a manifest. -/
theorem validateManifest_staged :
    validateManifest (sha256Digest cas plaintext) (stagedManifest cas createdAt nonces plaintext options) = .ok () := by
  by_cases hne : plaintext = []
  · -- the manifest of nothing lists no chunks
    subst hne
    unfold Storage.validateManifest
    rw [headerIsValid_staged hsize hmedia hreplicas hclass rfl]
    rfl
  · obtain ⟨count, hlayout⟩ := layout_of_size hne hsize
    have hlen : ((stagedChunks plaintext).map (stagedRecord cas nonces)).length = count := by
      simp [stagedChunks, chunksOf_eq (by decide) hlayout]
    have hzero : (plaintext.length == 0) = false := by
      rw [beq_eq_false_iff_ne]
      exact fun h0 => hne (List.length_eq_zero_iff.1 h0)
    have hsome : ((stagedChunks plaintext).map (stagedRecord cas nonces)).isEmpty = false := by
      have := hlayout.count_pos
      rw [List.isEmpty_eq_false_iff, ← List.length_pos_iff]
      omega
    refine validateManifest_layout hlayout
      (headerIsValid_staged hsize hmedia hreplicas hclass (hzero.trans hsome.symm)) hsize (le_refl _) ?_ hlen
    intro i r hr
    change ((stagedChunks plaintext).map (stagedRecord cas nonces))[i]? = some r at hr
    rw [List.getElem?_map] at hr
    obtain ⟨c, hc, rfl⟩ := Option.map_eq_some_iff.1 hr
    have hmem : c ∈ stagedChunks plaintext := List.mem_of_getElem? hc
    have hi : c.2 = i := by
      rw [stagedChunks, List.getElem?_zipIdx] at hc
      obtain ⟨b, _, rfl⟩ := Option.map_eq_some_iff.1 hc
      exact Nat.zero_add i
    refine ⟨?_, ?_, textIsValid_encode cas _ _ _ _⟩
    · show c.2 % 2 ^ 32 = i
      rw [Nat.mod_eq_of_lt (index_lt_of_mem hsize hmem), hi]
    · show c.1.length = _
      rw [(mem_stagedChunks hmem).2, length_chunkAt, hi]
      rfl

end

/-- A verifiable object verifies once it is in its place. -/
theorem Verifiable.verifyObject (h : Verifiable cas createdAt nonces plaintext options)
    (hclass : ¬ (options.storageClass = .«protected» ∧ options.requiredReplicas < 2)) (s : Store) :
    verifyObject cas (sha256Digest cas plaintext)
        (Effect.apply (.publish (sha256Digest cas plaintext) (stage cas createdAt nonces plaintext options)) s) =
      .ok (artifactContractFromManifest (sha256Digest cas plaintext) (stagedManifest cas createdAt nonces plaintext options)) := by
  have hdir : dirOf (Effect.apply (.publish (sha256Digest cas plaintext) (stage cas createdAt nonces plaintext options)) s).objects
      (sha256Digest cas plaintext) = stage cas createdAt nonces plaintext options := by
    simp [dirOf, Effect.apply]
  have hholds := h.holds
  rw [← hdir] at hholds
  have hflatten := h.flatten
  refine verifyObject_holds hholds (isSha256Digest_sha256Digest _) h.manifest
    (validateManifest_staged h.size h.mediaType h.replicas hclass) ?_ ?_ ?_
  · rw [hflatten]
  · rw [hflatten]
    rfl
  · exact lt_of_le_of_lt h.size (by decide)

end

end Rampage.Storage
