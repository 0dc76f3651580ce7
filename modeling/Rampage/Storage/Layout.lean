/-
Chunk arithmetic and manifests. A transfer of `size` bytes in chunks of `chunkSize` has full chunks and a last
one that is not empty; a manifest whose records follow that layout is valid.
-/
import Rampage.Storage.Basic

namespace Rampage.Storage

open Rampage.Protocol

/-! ## Chunk counts and sizes -/

section

variable {size chunkSize count i k : Nat}

/-- A transfer of `size` bytes takes `count` chunks. -/
structure Layout (size chunkSize count : Nat) : Prop where
  chunkSize_pos : 0 < chunkSize
  count_pos : 0 < count
  count_lt : count < 2 ^ 32
  below : (count - 1) * chunkSize < size
  above : size ≤ count * chunkSize

theorem layout_of_chunkCount (h : chunkCount size chunkSize = .ok count) : Layout size chunkSize count := by
  unfold chunkCount at h
  split at h
  · cases h
  rename_i hpos
  split at h
  · cases h
  rename_i hlt
  have hc : U64.divCeil size chunkSize = count := Except.ok.inj h
  rw [hc] at hlt
  have hs : 0 < size := by omega
  have hcs : 0 < chunkSize := by omega
  have hdiv : count = (size + chunkSize - 1) / chunkSize := hc.symm
  have hle : count * chunkSize ≤ size + chunkSize - 1 := by
    rw [hdiv]
    exact Nat.div_mul_le_self _ _
  have hgt : size + chunkSize - 1 < (count + 1) * chunkSize := by
    rw [hdiv, Nat.succ_mul, Nat.mul_comm]
    have := Nat.lt_mul_div_succ (size + chunkSize - 1) hcs
    rw [Nat.mul_add, Nat.mul_one] at this
    exact this
  have hcount : 0 < count := by
    rcases Nat.eq_zero_or_pos count with h0 | h0
    · rw [h0, Nat.zero_add, Nat.one_mul] at hgt
      omega
    · exact h0
  refine ⟨hcs, hcount, by omega, ?_, ?_⟩
  · rw [Nat.sub_mul, Nat.one_mul]
    omega
  · rw [Nat.add_mul, Nat.one_mul] at hgt
    omega

/-- The chunks of an artifact that may be transferred can be counted. -/
theorem exists_chunkCount (hpos : 0 < size) (hle : size ≤ maxArtifactTransferBytes) :
    ∃ count, chunkCount size defaultChunkSize = .ok count := by
  have hlimit : maxArtifactTransferBytes = 67108864 := by decide
  have hchunk : defaultChunkSize = 4194304 := by decide
  have hdiv : U64.divCeil size defaultChunkSize ≤ size + defaultChunkSize - 1 := Nat.div_le_self _ _
  refine ⟨U64.divCeil size defaultChunkSize, ?_⟩
  unfold chunkCount
  rw [if_neg (by omega), if_neg (by omega)]

/-- The size of a chunk of the layout. -/
def sizeAt (size chunkSize i : Nat) : Nat := min (size - i * chunkSize) chunkSize

theorem expectedChunkSize_eq (hc : chunkCount size chunkSize = .ok count) (hi : i < count) :
    expectedChunkSize size chunkSize i = .ok (sizeAt size chunkSize i) := by
  unfold expectedChunkSize
  rw [hc]
  dsimp only
  rw [if_neg (Nat.not_le.2 hi)]
  rfl

theorem Layout.sizeAt_pos (h : Layout size chunkSize count) (hi : i < count) : 0 < sizeAt size chunkSize i := by
  have hmul : i * chunkSize ≤ (count - 1) * chunkSize := Nat.mul_le_mul_right _ (by omega)
  have := h.below
  have := h.chunkSize_pos
  unfold sizeAt
  omega

theorem sizeAt_le : sizeAt size chunkSize i ≤ chunkSize := Nat.min_le_right _ _

/-- All chunks but the last are full. -/
theorem Layout.sizeAt_full (h : Layout size chunkSize count) (hi : i + 1 < count) : sizeAt size chunkSize i = chunkSize := by
  have hmul : (i + 1) * chunkSize ≤ (count - 1) * chunkSize := Nat.mul_le_mul_right _ (by omega)
  rw [Nat.add_mul, Nat.one_mul] at hmul
  have := h.below
  unfold sizeAt
  omega

/-- The last chunk is what is left. -/
theorem Layout.sizeAt_last (h : Layout size chunkSize count) (hi : i + 1 = count) :
    sizeAt size chunkSize i = size - i * chunkSize := by
  have habove := h.above
  rw [← hi, Nat.add_mul, Nat.one_mul] at habove
  unfold sizeAt
  omega

/-- Before a chunk of the layout come full chunks only, and they do not exceed the size. -/
theorem Layout.offset_le (h : Layout size chunkSize count) (hi : i < count) : i * chunkSize ≤ size := by
  have hmul : i * chunkSize ≤ (count - 1) * chunkSize := Nat.mul_le_mul_right _ (by omega)
  have := h.below
  omega

end

/-! ## Splitting an artifact -/

/-- A chunk of an artifact. -/
def chunkAt (chunkSize : Nat) (artifact : Bytes) (i : Nat) : Bytes := (artifact.drop (i * chunkSize)).take chunkSize

theorem length_chunkAt (chunkSize : Nat) (artifact : Bytes) (i : Nat) :
    (chunkAt chunkSize artifact i).length = sizeAt artifact.length chunkSize i := by
  rw [chunkAt, List.length_take, List.length_drop, sizeAt, Nat.min_comm]

/-- The first `k` chunks, one after the other. -/
theorem flatten_chunks (chunkSize : Nat) (artifact : Bytes) (k : Nat) :
    ((List.range k).map (chunkAt chunkSize artifact)).flatten = artifact.take (k * chunkSize) := by
  induction k with
  | zero => simp
  | succ k ih =>
    rw [List.range_succ, List.map_append, List.flatten_append, ih, List.map_singleton, List.flatten_singleton, chunkAt,
      Nat.succ_mul, List.take_add]

/-- The chunks of an artifact, one after the other, are the artifact. -/
theorem Layout.flatten_chunks {size chunkSize count : Nat} (h : Layout size chunkSize count) {artifact : Bytes}
    (hs : artifact.length = size) : ((List.range count).map (chunkAt chunkSize artifact)).flatten = artifact := by
  rw [Storage.flatten_chunks, List.take_of_length_le]
  rw [hs]
  exact h.above

/-! ## Manifests -/

/-- The records follow the layout: indices, sizes and well-formed text. -/
def FollowsLayout (size chunkSize : Nat) (chunks : List ChunkRecord) : Prop :=
  ∀ i r, chunks[i]? = some r → r.index = i ∧ r.plaintextSize = sizeAt size chunkSize i ∧ r.textIsValid = true

theorem validateChunks_layout {size chunkSize count : Nat} (h : Layout size chunkSize count) {chunks : List ChunkRecord}
    (hf : FollowsLayout size chunkSize chunks) (hlen : chunks.length = count)
    (hsize : size ≤ maxArtifactTransferBytes) {nominal : Nat} (hn : nominal = sizeAt size chunkSize 0) :
    validateChunks size nominal count 0 0 chunks = .ok size := by
  have hbound : size < 2 ^ 64 := lt_of_le_of_lt hsize (by decide)
  -- from position `i` on: the chunks before it are full
  have key : ∀ (rest : List ChunkRecord) (i : Nat), i + rest.length = count →
      (∀ j r, rest[j]? = some r → chunks[i + j]? = some r) →
      validateChunks size nominal count i (min (i * chunkSize) size) rest = .ok size := by
    intro rest
    induction rest with
    | nil =>
      intro i hi _
      have habove := h.above
      rw [List.length_nil, Nat.add_zero] at hi
      rw [← hi] at habove
      rw [validateChunks, Nat.min_eq_right habove]
    | cons r rest ih =>
      intro i hi hget
      rw [List.length_cons] at hi
      have hlt : i < count := by omega
      obtain ⟨hindex, hsz, htext⟩ := hf i r (hget 0 r rfl)
      have hoff := h.offset_le hlt
      have hpos := h.sizeAt_pos hlt
      have hcount := h.count_lt
      rw [Nat.min_eq_left hoff, validateChunks, if_neg (Nat.not_lt.2 hoff)]
      have hnominal : ¬ (i + 1 = count ∧ nominal < size - i * chunkSize) := by
        rintro ⟨hlast, hlt'⟩
        have hle : size - i * chunkSize ≤ sizeAt size chunkSize 0 := by
          rw [← h.sizeAt_last hlast]
          unfold sizeAt
          omega
        omega
      rw [if_neg hnominal]
      have hexpected : r.plaintextSize = if i + 1 = count then size - i * chunkSize else nominal := by
        split
        · rename_i hlast
          rw [hsz, h.sizeAt_last hlast]
        · rename_i hmore
          have h1 : i + 1 < count := by omega
          have h0 : sizeAt size chunkSize 0 = chunkSize := h.sizeAt_full (by omega)
          rw [hsz, hn, h0, h.sizeAt_full h1]
      have hgood : ¬ (r.index ≠ i % 2 ^ 32 ∨ r.plaintextSize = 0 ∨
          r.plaintextSize ≠ (if i + 1 = count then size - i * chunkSize else nominal) ∨ r.textIsValid = false) := by
        rw [hindex, Nat.mod_eq_of_lt (by omega), htext, ← hexpected, hsz]
        simp
        omega
      have hnext : i * chunkSize + r.plaintextSize = min ((i + 1) * chunkSize) size := by
        rw [hsz, sizeAt, Nat.add_mul, Nat.one_mul]
        omega
      rw [if_neg hgood, hnext, if_neg (by omega)]
      refine ih (i + 1) (by omega) ?_
      intro j r' hj
      have := hget (j + 1) r' hj
      rwa [show i + 1 + j = i + (j + 1) by omega]
  have := key chunks 0 (by omega) (fun j r hj => by rwa [Nat.zero_add])
  rwa [Nat.zero_mul, Nat.zero_min] at this

/-- A manifest whose header is valid and whose records follow a layout is valid. -/
theorem validateManifest_layout {digest : String} {m : Manifest} {chunkSize count : Nat}
    (h : Layout m.plaintextSize chunkSize count) (hheader : m.headerIsValid digest = true)
    (hsize : m.plaintextSize ≤ maxArtifactTransferBytes) (hchunk : chunkSize ≤ defaultChunkSize)
    (hf : FollowsLayout m.plaintextSize chunkSize m.chunks) (hlen : m.chunks.length = count) :
    validateManifest digest m = .ok () := by
  have hn : m.nominalChunkSize = sizeAt m.plaintextSize chunkSize 0 := by
    unfold Manifest.nominalChunkSize
    cases hc : m.chunks with
    | nil =>
      have := h.count_pos
      rw [hc, List.length_nil] at hlen
      omega
    | cons r rest => exact (hf 0 r (by rw [hc]; rfl)).2.1
  have hle : m.nominalChunkSize ≤ defaultChunkSize := by
    rw [hn]
    exact le_trans sizeAt_le hchunk
  unfold validateManifest
  rw [hheader, if_neg (by simp), if_neg (Nat.not_lt.2 hle), hlen, validateChunks_layout h hf hlen hsize hn]
  simp

/-- What the loop has checked of a record that it passes. -/
theorem validateChunks_cons_ok {size nominal count index total sum : Nat} {c : ChunkRecord} {rest : List ChunkRecord}
    (h : validateChunks size nominal count index total (c :: rest) = .ok sum) :
    total ≤ size ∧ (index + 1 = count → size - total ≤ nominal) ∧ c.index = index % 2 ^ 32 ∧ 0 < c.plaintextSize ∧
      c.plaintextSize = (if index + 1 = count then size - total else nominal) ∧
      validateChunks size nominal count (index + 1) (total + c.plaintextSize) rest = .ok sum := by
  rw [validateChunks] at h
  by_cases hover : size < total
  · rw [if_pos hover] at h
    cases h
  rw [if_neg hover] at h
  by_cases hlast : index + 1 = count ∧ nominal < size - total
  · rw [if_pos hlast] at h
    cases h
  rw [if_neg hlast] at h
  by_cases hbad : c.index ≠ index % 2 ^ 32 ∨ c.plaintextSize = 0 ∨
      c.plaintextSize ≠ (if index + 1 = count then size - total else nominal) ∨ c.textIsValid = false
  · rw [if_pos hbad] at h
    cases h
  rw [if_neg hbad] at h
  simp only [not_or, not_not] at hbad
  obtain ⟨hindex, hpos, hsize, -⟩ := hbad
  by_cases hbig : 2 ^ 64 ≤ total + c.plaintextSize
  · rw [if_pos hbig] at h
    cases h
  rw [if_neg hbig] at h
  refine ⟨Nat.le_of_not_lt hover, ?_, hindex, Nat.pos_of_ne_zero hpos, hsize, h⟩
  intro heq
  exact Nat.le_of_not_lt fun hlt => hlast ⟨heq, hlt⟩

/-- Records that pass are numbered from where the loop stands, and each takes at least one byte. -/
theorem validateChunks_ok {size nominal count : Nat} {chunks : List ChunkRecord} : ∀ {index total sum : Nat},
    validateChunks size nominal count index total chunks = .ok sum →
      (∀ (k : Nat) (r : ChunkRecord), chunks[k]? = some r → r.index = (index + k) % 2 ^ 32) ∧ total + chunks.length ≤ sum := by
  induction chunks with
  | nil =>
    intro index total sum h
    cases h
    refine ⟨?_, le_refl _⟩
    intro k r hk
    cases hk
  | cons c rest ih =>
    intro index total sum h
    obtain ⟨-, -, hindex, hpos, -, hnext⟩ := validateChunks_cons_ok h
    obtain ⟨hrest, hsum⟩ := ih hnext
    refine ⟨?_, ?_⟩
    · intro k r hk
      cases k with
      | zero =>
        cases hk
        exact hindex
      | succ k => rw [hrest k r hk, show index + 1 + k = index + (k + 1) by omega]
    · rw [List.length_cons]
      omega

/-- A valid manifest is of its digest, and its records stand at their indices. -/
theorem validateManifest_ok {digest : String} {m : Manifest} (h : validateManifest digest m = .ok ()) :
    m.plaintextDigest = digest ∧ m.chunks.length < 2 ^ 32 ∧
      ∀ (k : Nat) (r : ChunkRecord), m.chunks[k]? = some r → r.index = k := by
  unfold validateManifest at h
  split at h
  · cases h
  rename_i hheader
  simp only [Manifest.headerIsValid, Bool.not_eq_false, Bool.and_eq_true, beq_iff_eq, decide_eq_true_eq] at hheader
  obtain ⟨⟨⟨⟨⟨⟨-, hdigest⟩, hsize⟩, -⟩, -⟩, -⟩, -⟩ := hheader
  split at h
  · cases h
  split at h
  · cases h
  rename_i total htotal
  split at h
  · cases h
  rename_i hsame
  obtain ⟨hindex, hlen⟩ := validateChunks_ok htotal
  have hmax : maxArtifactTransferBytes < 2 ^ 32 := by decide
  -- the sizes add up to at least one byte for each record
  have hcount : m.chunks.length < 2 ^ 32 := by omega
  refine ⟨hdigest, hcount, ?_⟩
  intro k r hk
  have hlt : k < m.chunks.length := (List.getElem?_eq_some_iff.1 hk).1
  rw [hindex k r hk, Nat.zero_add, Nat.mod_eq_of_lt (by omega)]

/-- The record of a chunk that was encrypted under a nonce has well-formed text. -/
theorem textIsValid_encode (cas : CasStore) (n : Nonce) (c : Bytes) (i k : Nat) :
    (⟨i, Hex.encode n.1, k, sha256Hex cas c⟩ : ChunkRecord).textIsValid = true := by
  have hlower : ∀ b : Bytes, isLowerHex (Hex.encode b).toList = true := by
    intro b
    rw [Hex.encode, String.toList_ofList]
    exact isLowerHex_digits b
  simp [ChunkRecord.textIsValid, sha256Hex, Hex.utf8ByteSize_encode, n.2, cas.sha256_length, hlower]

end Rampage.Storage
