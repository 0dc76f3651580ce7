/-
Which manifests `validate_manifest` accepts. Where the other fields are well formed these are the uniform chunkings: chunks
of one size in order and a last one that is no larger, or no chunks of nothing (`validateManifest_iff`). A commit writes such
a manifest in every run, with crashes and damage; a put writes one exactly if it is no larger than a transfer may be, which
it does not check itself (`manifests_are_accepted_iff`).
-/
import Rampage.Storage.Interrupted
import Rampage.Storage.Put
import Rampage.Storage.Splitting

namespace Rampage.Storage

open Rampage.Protocol

/-! ## Uniform chunkings -/

/-- The header fields, nonces and digests are well formed; nothing is said of how the chunks divide the artifact. -/
structure Manifest.WellFormed (expectedDigest : String) (m : Manifest) : Prop where
  schema : m.schema = Manifest.schemaName
  digest : m.plaintextDigest = expectedDigest
  size : m.plaintextSize ≤ maxArtifactTransferBytes
  mediaType : isBoundedAscii 255 m.mediaType = true
  replicas : m.requiredReplicas ≠ 0
  «protected» : ¬ (m.storageClass = .«protected» ∧ m.requiredReplicas < 2)
  texts : ∀ r ∈ m.chunks, r.textIsValid = true

/-- Chunks in order, all of the size `c` but the last, which is no larger. -/
structure UniformChunks (size c : Nat) (chunks : List ChunkRecord) : Prop where
  indices : chunks.map (·.index) = List.range chunks.length
  sizes : ∃ last, 1 ≤ last ∧ last ≤ c ∧
    chunks.map (·.plaintextSize) = List.replicate (chunks.length - 1) c ++ [last]
  sum : (chunks.map (·.plaintextSize)).sum = size

/-- A chunking of an artifact of the given size. -/
def IsUniform (size : Nat) (chunks : List ChunkRecord) : Prop :=
  (chunks = [] ∧ size = 0) ∨ ∃ c, 1 ≤ c ∧ c ≤ defaultChunkSize ∧ UniformChunks size c chunks

section

variable {digest : String} {m : Manifest} {size c nominal count : Nat}

theorem Manifest.WellFormed.headerIsValid_iff (h : m.WellFormed digest) :
    m.headerIsValid digest = true ↔ (m.plaintextSize = 0 ↔ m.chunks = []) := by
  have hrep : (m.requiredReplicas != 0) = true := by simpa using h.replicas
  have hclass : (m.storageClass == .«protected» && decide (m.requiredReplicas < 2)) = false := by
    rw [← Bool.not_eq_true]
    simpa using h.«protected»
  have hsize : decide (m.plaintextSize ≤ maxArtifactTransferBytes) = true := decide_eq_true h.size
  simp only [Manifest.headerIsValid, h.schema, h.digest, h.mediaType, hrep, hclass, hsize, beq_self_eq_true, Bool.not_false,
    Bool.true_and, beq_iff_eq]
  rw [Bool.eq_iff_iff, beq_iff_eq, List.isEmpty_iff]

/-- A manifest that is accepted has a valid header. -/
theorem headerIsValid_of_ok (h : validateManifest digest m = .ok ()) : m.headerIsValid digest = true := by
  unfold validateManifest at h
  split at h
  · cases h
  · rename_i hheader
    simpa using hheader

theorem UniformChunks.length_pos {chunks : List ChunkRecord} (h : UniformChunks size c chunks) : 0 < chunks.length := by
  obtain ⟨last, -, -, hsizes⟩ := h.sizes
  have hlen := congrArg List.length hsizes
  simp at hlen
  omega

/-- All chunks but the last are full, and the last is the rest. -/
theorem UniformChunks.size_eq {chunks : List ChunkRecord} (h : UniformChunks size c chunks) :
    ∃ last, 1 ≤ last ∧ last ≤ c ∧ size = (chunks.length - 1) * c + last ∧
      chunks.map (·.plaintextSize) = List.replicate (chunks.length - 1) c ++ [last] := by
  obtain ⟨last, hpos, hle, hsizes⟩ := h.sizes
  have hsum := h.sum
  rw [hsizes, List.sum_append, List.sum_replicate_nat, List.sum_singleton] at hsum
  exact ⟨last, hpos, hle, hsum.symm, hsizes⟩

theorem UniformChunks.layout {chunks : List ChunkRecord} (h : UniformChunks size c chunks)
    (hle : size ≤ maxArtifactTransferBytes) : Layout size c chunks.length := by
  have hcount := h.length_pos
  obtain ⟨last, hpos, hlast, hsize, -⟩ := h.size_eq
  have hlimit : maxArtifactTransferBytes = 67108864 := by decide
  have hmul : chunks.length - 1 ≤ (chunks.length - 1) * c := Nat.le_mul_of_pos_right _ (by omega)
  have habove : chunks.length * c = (chunks.length - 1) * c + c := by
    rw [← Nat.succ_mul, Nat.succ_eq_add_one, Nat.sub_add_cancel hcount]
  constructor
  · omega
  · exact hcount
  · omega
  · omega
  · omega

theorem UniformChunks.followsLayout {chunks : List ChunkRecord} (h : UniformChunks size c chunks)
    (hle : size ≤ maxArtifactTransferBytes) (htexts : ∀ r ∈ chunks, r.textIsValid = true) :
    FollowsLayout size c chunks := by
  have hlayout := h.layout hle
  obtain ⟨last, -, -, hsize, hsizes⟩ := h.size_eq
  intro i r hr
  have hi : i < chunks.length := (List.getElem?_eq_some_iff.1 hr).1
  refine ⟨?_, ?_, htexts r (List.mem_of_getElem? hr)⟩
  · have hindex := congrArg (·[i]?) h.indices
    rw [List.getElem?_map, hr, List.getElem?_range hi, Option.map_some] at hindex
    exact Option.some.inj hindex
  · have hget := congrArg (·[i]?) hsizes
    by_cases hmore : i + 1 < chunks.length
    · rw [hlayout.sizeAt_full hmore]
      have hfull : i < chunks.length - 1 := by omega
      simpa [hr, List.getElem?_append_left, hfull] using hget
    · have hend : i = chunks.length - 1 := by omega
      rw [hlayout.sizeAt_last (by omega), hsize, hend, Nat.add_sub_cancel_left]
      subst hend
      simpa [hr] using hget

/-- Sizes the loop passes: all but the last are the nominal size, and the last is no larger. -/
theorem sizes_of_validateChunks : ∀ {chunks : List ChunkRecord} {index total sum : Nat}, chunks ≠ [] →
    index + chunks.length = count → validateChunks size nominal count index total chunks = .ok sum →
      (∃ last, 1 ≤ last ∧ last ≤ nominal ∧
        chunks.map (·.plaintextSize) = List.replicate (chunks.length - 1) nominal ++ [last]) ∧
      total + (chunks.map (·.plaintextSize)).sum = sum
  | [], _, _, _, hne, _, _ => absurd rfl hne
  | [r], index, total, sum, _, hcount, h => by
    obtain ⟨-, hlast, -, hpos, hsize, hnext⟩ := validateChunks_cons_ok h
    have hend : index + 1 = count := hcount
    rw [if_pos hend] at hsize
    have hfits := hlast hend
    constructor
    · exact ⟨r.plaintextSize, hpos, by omega, rfl⟩
    · simpa using Except.ok.inj hnext
  | r :: r' :: rest, index, total, sum, _, hcount, h => by
    obtain ⟨-, -, -, -, hsize, hnext⟩ := validateChunks_cons_ok h
    have hmore : ¬ index + 1 = count := by
      simp only [List.length_cons] at hcount
      omega
    rw [if_neg hmore] at hsize
    obtain ⟨⟨last, hpos, hle, hsizes⟩, hsum⟩ := sizes_of_validateChunks (List.cons_ne_nil r' rest)
      (by simp only [List.length_cons] at hcount ⊢; omega) hnext
    constructor
    · refine ⟨last, hpos, hle, ?_⟩
      rw [List.map_cons, hsizes, hsize]
      rfl
    · rw [List.map_cons, List.sum_cons]
      omega

/-- An accepted manifest chunks its artifact uniformly: the nominal size is the size. -/
theorem isUniform_of_ok (h : validateManifest digest m = .ok ()) : IsUniform m.plaintextSize m.chunks := by
  have hheader := headerIsValid_of_ok h
  obtain ⟨-, -, hindices⟩ := validateManifest_ok h
  unfold validateManifest at h
  rw [hheader, if_neg (by simp)] at h
  split at h
  · cases h
  rename_i hnominal
  split at h
  · cases h
  rename_i total htotal
  split at h
  · cases h
  rename_i hsame
  rw [not_not] at hsame
  subst hsame
  by_cases hne : m.chunks = []
  · -- the loop has nothing to add up
    left
    rw [hne] at htotal
    exact ⟨hne, (Except.ok.inj htotal).symm⟩
  · right
    obtain ⟨⟨last, hpos, hle, hsizes⟩, hsum⟩ := sizes_of_validateChunks hne (Nat.zero_add _) htotal
    refine ⟨m.nominalChunkSize, by omega, by omega, ?_, ⟨last, hpos, hle, hsizes⟩, by omega⟩
    apply List.ext_getElem?
    intro k
    by_cases hk : k < m.chunks.length
    · rw [List.getElem?_map, List.getElem?_range hk, List.getElem?_eq_getElem hk, Option.map_some]
      exact congrArg some (hindices k _ (List.getElem?_eq_getElem hk))
    · rw [List.getElem?_eq_none (by simpa using hk), List.getElem?_eq_none (by simpa using hk)]

/-- Of the manifests that are well formed otherwise, those that chunk uniformly are accepted. -/
theorem validateManifest_iff (h : m.WellFormed digest) :
    validateManifest digest m = .ok () ↔ IsUniform m.plaintextSize m.chunks := by
  constructor
  · exact isUniform_of_ok
  · rintro (⟨hnone, hzero⟩ | ⟨c, hpos, hle, huniform⟩)
    · have hheader := h.headerIsValid_iff.2 (by simp [hnone, hzero])
      unfold validateManifest
      rw [hheader, hnone, hzero]
      simp [Manifest.nominalChunkSize, hnone, validateChunks]
    · have hlayout := huniform.layout h.size
      have hsize := lt_of_le_of_lt (Nat.zero_le _) hlayout.below
      have hlen := hlayout.count_pos
      have hne : m.chunks ≠ [] := List.length_pos_iff.1 hlen
      have hheader := h.headerIsValid_iff.2 (iff_of_false (by omega) hne)
      exact validateManifest_layout hlayout hheader h.size hle (huniform.followsLayout h.size h.texts) rfl

end

/-! ## What is written -/

/-- Options that may stand in a manifest. -/
structure PutOptions.Admitted (options : PutOptions) : Prop where
  mediaType : isBoundedAscii 255 options.mediaType = true
  replicas : options.requiredReplicas ≠ 0
  «protected» : ¬ (options.storageClass = .«protected» ∧ options.requiredReplicas < 2)

section

variable {cas : CasStore} {s : Store} {sid sid' : String} {session : DurablePutSession} {now createdAt : Int} {m : Manifest}
  {nonces : Nat → Nonce} {plaintext : Bytes} {options : PutOptions}

/-- The manifest of a put is accepted exactly if it is of a transfer's size. -/
theorem validateManifest_staged_iff (h : options.Admitted) :
    validateManifest (sha256Digest cas plaintext) (stagedManifest cas createdAt nonces plaintext options) = .ok () ↔
      plaintext.length ≤ maxArtifactTransferBytes := by
  constructor
  · intro hok
    have hheader := headerIsValid_of_ok hok
    simp only [Manifest.headerIsValid, Bool.and_eq_true, decide_eq_true_eq] at hheader
    obtain ⟨⟨⟨⟨⟨-, hsize⟩, -⟩, -⟩, -⟩, -⟩ := hheader
    exact hsize
  · intro hsize
    exact validateManifest_staged hsize h.mediaType h.replicas h.«protected»

/-- A put that publishes writes the staged manifest. -/
theorem publish_mem_put (h : publishes cas plaintext options s = true) :
    Effect.publish (sha256Digest cas plaintext) (stage cas createdAt nonces plaintext options) ∈
      (put cas createdAt nonces plaintext options s).effects := by
  obtain ⟨rest, heffects⟩ := (@publishing_put cas s createdAt nonces plaintext options h).effects
  rw [heffects]
  exact List.mem_append_right _ (List.mem_cons_self ..)

/-- The manifest a promotion writes is the one it has assembled. -/
theorem assemble_of_mem_promoteTransfer
    (he : Effect.writeManifest sid' m ∈ (promoteTransfer cas now createdAt sid session s).effects) :
    assemble cas now createdAt sid session s = .ok m := by
  rcases @promoteTransfer_cases cas now createdAt sid session s with ⟨e, heq⟩ | ⟨m', written, hm', hw, hdone⟩
  · rw [heq] at he
    cases he
  have hpromotion : Effect.writeManifest sid' m ∈ promotion sid session.digest written → m = m' := by
    rcases writeManifest_effects hw with rfl | rfl
    · intro hmem
      cases List.mem_singleton.1 hmem
    · intro hmem
      rcases List.mem_cons.1 hmem with heq | hmem
      · cases heq
        rfl
      · cases List.mem_singleton.1 hmem
  rcases hdone with ⟨e, -, heq⟩ | ⟨c, -, heq⟩
  · rw [heq] at he
    rw [hpromotion he, hm']
  · rw [heq] at he
    rcases List.mem_append.1 he with he | he
    · rw [hpromotion he, hm']
    · -- what settles a session commits a transaction and writes no file
      obtain ⟨ix, -, hcommit⟩ := mem_settle_effects he
      cases hcommit

/-- What a commit writes was assembled for a session on record. -/
theorem assemble_of_mem_commit
    (he : Effect.writeManifest sid' m ∈ (commitResumablePut cas now createdAt sid s).effects) :
    ∃ session t, AList.lookup sid s.index.sessions = some session ∧ t.index = s.index ∧
      assemble cas now createdAt sid session t = .ok m := by
  rcases @commit_cases cas now createdAt sid s with ⟨e, heq⟩ | ⟨session, hs, -, -, hcases⟩
  · rw [heq] at he
    cases he
  rcases hcases with ⟨c, -, heq⟩ | ⟨-, heq⟩ | ⟨e, -, -, heq⟩
  · rw [heq] at he
    obtain ⟨ix, -, hcommit⟩ := mem_settle_effects he
    cases hcommit
  · rw [heq] at he
    exact ⟨session, s, hs, rfl, assemble_of_mem_promoteTransfer he⟩
  · rw [heq] at he
    rcases List.mem_append.1 he with he | he
    · cases List.mem_singleton.1 he
    · exact ⟨session, _, hs, rfl, assemble_of_mem_promoteTransfer (s := Effect.apply (.quarantine session.digest) s) he⟩

/-- With an index whose rows were made for their sessions, the manifest of a commit is accepted. -/
theorem validateManifest_of_mem_commit {S : Set Bytes} (hix : IndexSound cas S s.index)
    (he : Effect.writeManifest sid' m ∈ (commitResumablePut cas now createdAt sid s).effects) :
    ∃ session, AList.lookup sid s.index.sessions = some session ∧ validateManifest session.digest m = .ok () := by
  obtain ⟨session, t, hs, hindex, hassemble⟩ := assemble_of_mem_commit he
  rw [← hindex] at hix hs
  obtain ⟨-, ⟨ps, hassembly⟩, rfl⟩ := assemble_ok hassemble (hix.sessions _ _ hs)
  refine ⟨session, ?_, validateManifest_rows hix hs hassembly⟩
  rwa [← hindex]

end

/-- Manifests that are well formed otherwise are accepted exactly if they chunk their artifact uniformly. A put whose
options may stand in a manifest writes one that is accepted exactly if the artifact is no larger than a transfer may be; a
commit writes one that is accepted for its session in every run, with crashes, lost and damaged chunks. -/
theorem manifests_are_accepted_iff (cas : CasStore) :
    (∀ digest m, m.WellFormed digest →
      (validateManifest digest m = .ok () ↔ IsUniform m.plaintextSize m.chunks)) ∧
    (∀ s createdAt nonces plaintext (options : PutOptions) digest dir, options.Admitted →
      Effect.publish digest dir ∈ (put cas createdAt nonces plaintext options s).effects →
        ∃ m, dir.manifest = some (.json m) ∧
          (validateManifest digest m = .ok () ↔ plaintext.length ≤ maxArtifactTransferBytes)) ∧
    (∀ events now createdAt sid sid' m,
      Effect.writeManifest sid' m ∈
          (commitResumablePut cas now createdAt sid ((faulty cas).exec events Store.empty)).effects →
        ∃ session, AList.lookup sid ((faulty cas).exec events Store.empty).index.sessions = some session ∧
          validateManifest session.digest m = .ok ()) := by
  refine ⟨?_, ?_, ?_⟩
  · intro digest m hformed
    exact validateManifest_iff hformed
  · intro s createdAt nonces plaintext options digest dir hoptions he
    rcases mem_put_effects he with heq | heq | ⟨artifact, replicas, ix, -, heq⟩
    · cases heq
    · cases heq
      exact ⟨_, stage_manifest cas createdAt nonces plaintext options, validateManifest_staged_iff hoptions⟩
    · cases heq
  · intro events now createdAt sid sid' m he
    have hsound : Sound cas Set.univ ((faulty cas).exec events Store.empty) :=
      sound_faulty events fun _ _ _ _ => Set.mem_univ _
    exact validateManifest_of_mem_commit hsound.index he

/-- An artifact one byte larger than a transfer may be, put into an empty store with the default options: what is published
holds a manifest that is refused. -/
theorem oversized_put_publishes_a_refused_manifest :
    let plaintext : Bytes := List.replicate (maxArtifactTransferBytes + 1) 0
    let options : PutOptions := ⟨"application/octet-stream", .cache, 1⟩
    options.Admitted ∧ ∃ digest dir m,
      Effect.publish digest dir ∈ (put Scenario.cas 0 (fun _ => Scenario.nonce 0) plaintext options Store.empty).effects ∧
        dir.manifest = some (.json m) ∧ validateManifest digest m ≠ .ok () := by
  have hadmitted : (⟨"application/octet-stream", .cache, 1⟩ : PutOptions).Admitted := by
    refine ⟨?_, ?_, ?_⟩
    · decide
    · decide
    · decide
  refine ⟨hadmitted, _, _, _, publish_mem_put ?_, stage_manifest _ _ _ _ _, ?_⟩
  · -- no object is in place, and the store has no limits
    rfl
  · rw [ne_eq, validateManifest_staged_iff hadmitted, List.length_replicate]
    omega

end Rampage.Storage
