/-
Three ways to cut an artifact. The store computes the size of a chunk (`expected_chunk_size`), the wire protocol computes
it again (`expected_artifact_chunk_size`), and `put` lets the slice be split. Where the number of chunks is a `u32` they
agree, index by index (`chunk_arithmetic_agrees`); so a transfer request that is valid on the wire carries a chunk of the
size the store expects (`payloadSize_of_isValid`).
-/
import Rampage.Protocol.Storage
import Rampage.Storage.Staged

namespace Rampage.Storage

open Rampage.Protocol

/-! ## The store and the protocol -/

section

variable {size chunkSize count i s : Nat}

theorem chunkCount_pos (h : chunkCount size chunkSize = .ok count) : 0 < size ∧ 0 < chunkSize := by
  have hlayout := layout_of_chunkCount h
  constructor
  · exact lt_of_le_of_lt (Nat.zero_le _) hlayout.below
  · exact hlayout.chunkSize_pos

/-- A chunk starts inside the artifact exactly if it is one of the chunks. -/
theorem Layout.lt_count_iff (h : Layout size chunkSize count) : i < count ↔ i * chunkSize < size := by
  have hbelow := h.below
  have habove := h.above
  constructor
  · intro hi
    have hmul : i * chunkSize ≤ (count - 1) * chunkSize := Nat.mul_le_mul_right _ (by omega)
    omega
  · intro hi
    by_contra hge
    have hmul : count * chunkSize ≤ i * chunkSize := Nat.mul_le_mul_right _ (Nat.le_of_not_lt hge)
    omega

theorem expectedChunkSize_ok_iff (h : chunkCount size chunkSize = .ok count) :
    expectedChunkSize size chunkSize i = .ok s ↔ i < count ∧ s = sizeAt size chunkSize i := by
  by_cases hi : i < count
  · rw [expectedChunkSize_eq h hi]
    simp [hi, eq_comm]
  · have hout : expectedChunkSize size chunkSize i = .error .chunkOutOfRange := by
      unfold expectedChunkSize
      rw [h]
      exact if_pos (Nat.le_of_not_lt hi)
    rw [hout]
    simp [hi]

/-- The product of two `u32` is a `u64`: the checked multiplication of the protocol never fails. -/
theorem offset_lt (hi : i < 2 ^ 32) (hchunk : chunkSize < 2 ^ 32) : i * chunkSize < 2 ^ 64 := by
  have hmul := Nat.mul_lt_mul'' hi hchunk
  omega

theorem expectedArtifactChunkSize_eq_some_iff (h : chunkCount size chunkSize = .ok count) (hchunk : chunkSize < 2 ^ 32)
    (hi : i < 2 ^ 32) :
    expectedArtifactChunkSize size chunkSize i = some s ↔ i < count ∧ s = sizeAt size chunkSize i := by
  obtain ⟨hsize, hpos⟩ := chunkCount_pos h
  have hoffset := offset_lt hi hchunk
  unfold expectedArtifactChunkSize
  rw [if_neg (by omega), if_neg (Nat.not_le.2 hoffset), (layout_of_chunkCount h).lt_count_iff]
  by_cases hin : i * chunkSize < size
  · rw [if_neg (Nat.not_le.2 hin)]
    simp [hin, sizeAt, eq_comm]
  · rw [if_pos (Nat.le_of_not_lt hin)]
    simp [hin]

end

/-! ## All chunks -/

/-- The sizes the protocol expects of `count` chunks. -/
def artifactChunkSizes (size chunkSize count : Nat) : List Nat :=
  (List.range count).filterMap (expectedArtifactChunkSize size chunkSize)

section

variable {size chunkSize count : Nat}

theorem artifactChunkSizes_eq (h : chunkCount size chunkSize = .ok count) (hchunk : chunkSize < 2 ^ 32) :
    artifactChunkSizes size chunkSize count = (List.range count).map (sizeAt size chunkSize) := by
  have hcount := (layout_of_chunkCount h).count_lt
  rw [← List.filterMap_eq_map]
  refine List.filterMap_congr fun i hi => ?_
  have hlt : i < count := List.mem_range.1 hi
  exact (expectedArtifactChunkSize_eq_some_iff h hchunk (by omega)).2 ⟨hlt, rfl⟩

/-- Cutting a slice gives chunks of these sizes. -/
theorem length_chunksOf (h : Layout size chunkSize count) {artifact : Bytes} (hs : artifact.length = size) :
    (chunksOf chunkSize size artifact).map List.length = (List.range count).map (sizeAt size chunkSize) := by
  subst hs
  rw [chunksOf_eq h.chunkSize_pos h, List.map_map]
  refine List.map_congr_left fun i _ => ?_
  exact length_chunkAt chunkSize artifact i

/-- The sizes of the chunks add up, since the chunks of any artifact of that size are the artifact. -/
theorem sum_sizeAt (h : Layout size chunkSize count) : ((List.range count).map (sizeAt size chunkSize)).sum = size := by
  have hlen : (List.replicate size (0 : UInt8)).length = size := List.length_replicate
  have hall := congrArg List.length (h.flatten_chunks hlen)
  have hsizes : List.length ∘ chunkAt chunkSize (List.replicate size (0 : UInt8)) = sizeAt size chunkSize := by
    funext i
    rw [Function.comp_apply, length_chunkAt, hlen]
  rw [List.length_flatten, List.map_map, hlen, hsizes] at hall
  exact hall

/-- The records of a put: numbered, and each of the size of its chunk. -/
theorem stagedManifest_sizes (cas : CasStore) (createdAt : Int) (nonces : Nat → Nonce) (options : PutOptions)
    {plaintext : Bytes} (h : Layout plaintext.length defaultChunkSize count) :
    (stagedManifest cas createdAt nonces plaintext options).chunks.map (fun r => (r.index, r.plaintextSize)) =
      (List.range count).map fun i => (i, sizeAt plaintext.length defaultChunkSize i) := by
  have hcount := h.count_lt
  apply List.ext_getElem?
  intro i
  have hchunks : (stagedManifest cas createdAt nonces plaintext options).chunks =
      (stagedChunks plaintext).map (stagedRecord cas nonces) := rfl
  rw [hchunks, stagedChunks, chunksOf_eq h.chunkSize_pos h, List.getElem?_map, List.getElem?_map, List.getElem?_zipIdx,
    List.getElem?_map, List.getElem?_map]
  by_cases hi : i < count
  · rw [List.getElem?_range hi]
    simp only [Option.map_some, stagedRecord, Nat.zero_add, length_chunkAt]
    rw [Nat.mod_eq_of_lt (by omega)]
  · rw [List.getElem?_eq_none (by simpa using hi)]
    rfl

/-- For every artifact whose chunks are counted by a `u32`: the store and the protocol give the same size for every
index, and one exactly for the indices of chunks; a size is at least one and at most that of a chunk, and together they
are the size of the artifact; no product, difference or index overflows; a slice is cut into chunks of these sizes, and
so are the artifacts that are put. -/
theorem chunk_arithmetic_agrees (hcount : chunkCount size chunkSize = .ok count) (hchunk : chunkSize < 2 ^ 32) :
    (∀ index < 2 ^ 32, (∀ s, expectedChunkSize size chunkSize index = .ok s ↔
        expectedArtifactChunkSize size chunkSize index = some s) ∧
      ((∃ s, expectedChunkSize size chunkSize index = .ok s) ↔ index < count) ∧
      ∀ s, expectedChunkSize size chunkSize index = .ok s → 1 ≤ s ∧ s ≤ chunkSize) ∧
    (artifactChunkSizes size chunkSize count).length = count ∧ (artifactChunkSizes size chunkSize count).sum = size ∧
    count < 2 ^ 32 ∧
    (∀ index < 2 ^ 32, index * chunkSize < 2 ^ 64 ∧ (index < count → index * chunkSize < size)) ∧
    (∀ artifact : Bytes, artifact.length = size →
      (chunksOf chunkSize size artifact).map List.length = artifactChunkSizes size chunkSize count) ∧
    (chunkSize = defaultChunkSize → ∀ (cas : CasStore) (createdAt : Int) (nonces : Nat → Nonce) (plaintext : Bytes)
      (options : PutOptions), plaintext.length = size →
        (stagedManifest cas createdAt nonces plaintext options).chunks.map (·.index) = List.range count ∧
        (stagedManifest cas createdAt nonces plaintext options).chunks.map (·.plaintextSize) =
          artifactChunkSizes size chunkSize count) := by
  -- both sides are compared with one layout, and its sizes with the artifact
  have hlayout := layout_of_chunkCount hcount
  have hsizes := artifactChunkSizes_eq hcount hchunk
  refine ⟨?_, ?_, ?_, hlayout.count_lt, ?_, ?_, ?_⟩
  · intro index hindex
    refine ⟨?_, ?_, ?_⟩
    · intro s
      rw [expectedChunkSize_ok_iff hcount, expectedArtifactChunkSize_eq_some_iff hcount hchunk hindex]
    · constructor
      · rintro ⟨s, hs⟩
        exact ((expectedChunkSize_ok_iff hcount).1 hs).1
      · intro hlt
        exact ⟨_, expectedChunkSize_eq hcount hlt⟩
    · intro s hs
      obtain ⟨hlt, rfl⟩ := (expectedChunkSize_ok_iff hcount).1 hs
      exact ⟨hlayout.sizeAt_pos hlt, sizeAt_le⟩
  · rw [hsizes, List.length_map, List.length_range]
  · rw [hsizes]
    exact sum_sizeAt hlayout
  · intro index hindex
    exact ⟨offset_lt hindex hchunk, hlayout.lt_count_iff.1⟩
  · intro artifact hartifact
    rw [hsizes]
    exact length_chunksOf hlayout hartifact
  · rintro rfl cas createdAt nonces plaintext options rfl
    have hrecords := stagedManifest_sizes cas createdAt nonces options hlayout
    rw [hsizes]
    constructor
    · have hindices := congrArg (List.map Prod.fst) hrecords
      simpa [List.map_map, Function.comp_def] using hindices
    · have hlengths := congrArg (List.map Prod.snd) hrecords
      simpa [List.map_map, Function.comp_def] using hlengths

end

/-- An artifact one byte longer than two chunks. -/
theorem chunk_arithmetic_agrees_remainder :
    chunkCount (2 * defaultChunkSize + 1) defaultChunkSize = .ok 3 ∧
      (artifactChunkSizes (2 * defaultChunkSize + 1) defaultChunkSize 3).sum = 2 * defaultChunkSize + 1 :=
  ⟨by decide, (chunk_arithmetic_agrees (by decide) (by decide)).2.2.1⟩

/-! ## Requests -/

/-- A request to store a chunk that is valid on the wire announces the size that the store expects of it. -/
theorem payloadSize_of_isValid {r : ArtifactTransferRequestV2} (h : r.isValid = true) (hput : r.action = .putChunk) :
    ∃ index, r.chunkIndex = some index ∧ expectedChunkSize r.lease.sizeBytes r.chunkSize index = .ok r.payloadSize := by
  unfold ArtifactTransferRequestV2.isValid at h
  split at h
  · cases h
  rename_i hfields
  simp only [not_or] at hfields
  obtain ⟨-, -, -, -, hsize, hmax, -, -, -, hchunk, -⟩ := hfields
  rw [not_not] at hchunk
  simp only [hput, Bool.and_eq_true, beq_iff_eq] at h
  obtain ⟨⟨⟨-, hindex⟩, -⟩, hpayload⟩ := h
  cases hi : r.chunkIndex with
  | none =>
    rw [hi] at hindex
    cases hindex
  | some index =>
    rw [hi] at hindex hpayload
    have hlt : index < (r.lease.sizeBytes + r.chunkSize - 1) / r.chunkSize := of_decide_eq_true hindex
    have hbytes : r.chunkSize = 4194304 := hchunk
    have hlimit : maxArtifactTransferBytes = 67108864 := by decide
    -- a transfer is small enough for its chunks to be counted
    have hcount : chunkCount r.lease.sizeBytes r.chunkSize = .ok ((r.lease.sizeBytes + r.chunkSize - 1) / r.chunkSize) := by
      unfold chunkCount
      have hdiv : U64.divCeil r.lease.sizeBytes r.chunkSize = (r.lease.sizeBytes + r.chunkSize - 1) / r.chunkSize := rfl
      rw [hdiv, hbytes, if_neg (by omega), if_neg (by omega)]
    have hindices := (layout_of_chunkCount hcount).count_lt
    have hsome : expectedArtifactChunkSize r.lease.sizeBytes r.chunkSize index =
        some (sizeAt r.lease.sizeBytes r.chunkSize index) :=
      (expectedArtifactChunkSize_eq_some_iff hcount (by omega) (by omega)).2 ⟨hlt, rfl⟩
    rw [Option.getD_some, hsome, Option.getD_some] at hpayload
    exact ⟨index, rfl, by rw [hpayload, expectedChunkSize_eq hcount hlt]⟩

end Rampage.Storage
