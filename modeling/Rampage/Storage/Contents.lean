/-
What is read back. A directory holds a list of payloads when its manifest lists a record for each and the
chunk files open to them; reading and verifying then give their concatenation. The loop of a commit over the
rows of a session is taken apart into the payloads it opened, and a promoted directory holds them.
-/
import Rampage.Storage.Sound

namespace Rampage.Storage

open Rampage.Protocol

variable {cas : CasStore}

/-! ## Reading a directory -/

/-- The directory's manifest is `m`, and its records open to the payloads `ps`. -/
structure Holds (cas : CasStore) (dir : Dir) (m : Manifest) (ps : List Bytes) : Prop where
  manifest : dir.manifest = some (.json m)
  chunks : List.Forall₂ (fun r p => openChunk cas dir r = .ok p) m.chunks ps

theorem readChunks_of_opened {dir : Dir} {rs : List ChunkRecord} {ps : List Bytes}
    (h : List.Forall₂ (fun r p => openChunk cas dir r = .ok p) rs ps) : readChunks cas dir rs = .ok ps.flatten := by
  induction h with
  | nil => rfl
  | cons hr _ ih =>
    rw [readChunks, hr]
    dsimp only
    rw [ih]
    rfl

/-- The loop of `verify_object` gathers the payloads, unless their sizes overflow. -/
theorem verifyChunks_of_opened {dir : Dir} {rs : List ChunkRecord} {ps : List Bytes}
    (h : List.Forall₂ (fun r p => openChunk cas dir r = .ok p) rs ps) (acc : Bytes) :
    (verifyChunks cas dir acc rs = .ok (acc ++ ps.flatten)) ∨
      (verifyChunks cas dir acc rs = .error .invalidManifest ∧ 2 ^ 64 ≤ acc.length + ps.flatten.length) := by
  induction h generalizing acc with
  | nil =>
    left
    rw [verifyChunks, List.flatten_nil, List.append_nil]
  | @cons r p rs ps hr _ ih =>
    rw [verifyChunks, hr]
    dsimp only
    rw [List.flatten_cons, List.length_append]
    split
    · right
      refine ⟨rfl, ?_⟩
      omega
    · rcases ih (acc ++ p) with hok | ⟨herr, hbig⟩
      · left
        rw [hok, List.append_assoc]
      · right
        rw [List.length_append] at hbig
        exact ⟨herr, by omega⟩

/-- A loop of `verify_object` that ends has opened every chunk. -/
theorem verifyChunks_ok {dir : Dir} {rs : List ChunkRecord} : ∀ {acc q : Bytes}, verifyChunks cas dir acc rs = .ok q →
    ∃ ps, List.Forall₂ (fun r p => openChunk cas dir r = .ok p) rs ps ∧ q = acc ++ ps.flatten := by
  induction rs with
  | nil =>
    intro acc q h
    cases h
    exact ⟨[], .nil, (List.append_nil _).symm⟩
  | cons r rs ih =>
    intro acc q h
    rw [verifyChunks] at h
    split at h
    · cases h
    rename_i p hp
    split at h
    · cases h
    obtain ⟨ps, hps, rfl⟩ := ih h
    exact ⟨p :: ps, .cons hp hps, by rw [List.flatten_cons, List.append_assoc]⟩

section

variable {digest : String} {m : Manifest} {ps : List Bytes} {s : Store}

theorem readManifest_holds (h : Holds cas (dirOf s.objects digest) m ps) (hd : isSha256Digest digest = true) :
    readManifest cas digest s =
      if maxManifestBytes < cas.manifestSize m then .error .invalidManifest else (validateManifest digest m).map fun _ => m := by
  unfold readManifest objectDir
  rw [if_pos hd]
  dsimp only
  rw [h.manifest]
  unfold readDocument
  dsimp only
  by_cases hbig : maxManifestBytes < cas.manifestSize m
  · rw [if_pos hbig, if_pos hbig]
  · rw [if_neg hbig, if_neg hbig]

/-- A directory that holds the payloads of its content address verifies. -/
theorem verifyObject_holds (h : Holds cas (dirOf s.objects digest) m ps) (hd : isSha256Digest digest = true)
    (hsize : cas.manifestSize m ≤ maxManifestBytes) (hv : validateManifest digest m = .ok ())
    (hsha : sha256Digest cas ps.flatten = digest) (hlen : ps.flatten.length = m.plaintextSize)
    (hb : m.plaintextSize < 2 ^ 64) : verifyObject cas digest s = .ok (artifactContractFromManifest digest m) := by
  have hread : readManifest cas digest s = .ok m := by
    rw [readManifest_holds h hd, if_neg (Nat.not_lt.2 hsize), hv]
    rfl
  have hchunks : verifyChunks cas (dirOf s.objects digest) [] m.chunks = .ok ps.flatten := by
    rcases verifyChunks_of_opened h.chunks [] with hok | ⟨_, hbig⟩
    · simpa using hok
    · rw [hlen] at hbig
      simp only [List.length_nil, Nat.zero_add] at hbig
      omega
  unfold verifyObject
  rw [hread]
  dsimp only
  rw [hchunks]
  dsimp only
  rw [if_neg]
  simp [hsha, hlen]

/-- A manifest that is read is the directory's, and valid. -/
theorem readManifest_ok (h : readManifest cas digest s = .ok m) : isSha256Digest digest = true ∧
    (dirOf s.objects digest).manifest = some (.json m) ∧ validateManifest digest m = .ok () := by
  unfold readManifest objectDir at h
  by_cases hd : isSha256Digest digest = true
  · rw [if_pos hd] at h
    dsimp only at h
    split at h
    · cases h
    rename_i doc hdoc
    split at h
    · cases h
    rename_i m' hread
    have hjson : doc = .json m' := by
      unfold readDocument at hread
      split at hread
      · split at hread
        · cases hread
        · rw [Except.ok.inj hread]
      · split at hread <;> cases hread
    cases hv : validateManifest digest m' with
    | error e =>
      rw [hv] at h
      cases h
    | ok u =>
      rw [hv] at h
      obtain rfl := Except.ok.inj h
      exact ⟨hd, hdoc.trans (congrArg some hjson), hv⟩
  · rw [if_neg hd] at h
    cases h

/-- What has been established of an object that verifies. -/
theorem verifyObject_ok {c : ArtifactContract} (h : verifyObject cas digest s = .ok c) :
    ∃ m ps, readManifest cas digest s = .ok m ∧ Holds cas (dirOf s.objects digest) m ps ∧
      sha256Digest cas ps.flatten = digest ∧ ps.flatten.length = m.plaintextSize ∧ c = artifactContractFromManifest digest m := by
  unfold verifyObject at h
  split at h
  · cases h
  rename_i m hread
  split at h
  · cases h
  rename_i plaintext hplain
  split at h
  · cases h
  rename_i hsame
  push Not at hsame
  obtain ⟨ps, hps, hflat⟩ := verifyChunks_ok hplain
  rw [List.nil_append] at hflat
  subst hflat
  exact ⟨m, ps, hread, ⟨(readManifest_ok hread).2.1, hps⟩, hsame.1, hsame.2, (Except.ok.inj h).symm⟩

/-- A record opens to one payload. -/
theorem opens_once {dir : Dir} : Relator.RightUnique fun r p => openChunk cas dir r = .ok p := by
  intro r p p' h h'
  exact Except.ok.inj (h.symm.trans h')

/-- A directory holds one list of payloads. -/
theorem Holds.unique {dir : Dir} {m' : Manifest} {ps' : List Bytes} (h : Holds cas dir m ps) (h' : Holds cas dir m' ps') :
    m = m' ∧ ps = ps' := by
  have hm : m = m' := by
    have hsame := h.manifest.symm.trans h'.manifest
    rw [Option.some.injEq, Document.json.injEq] at hsame
    exact hsame
  subst hm
  exact ⟨rfl, List.right_unique_forall₂' opens_once h.chunks h'.chunks⟩

/-- What a directory that verifies gives back. -/
theorem get_of_verifyObject {c : ArtifactContract} (hv : verifyObject cas digest s = .ok c)
    (h : Holds cas (dirOf s.objects digest) m ps) : get cas digest s = .ok ps.flatten ∧
      sha256Digest cas ps.flatten = digest ∧ ps.flatten.length = c.artifact.sizeBytes := by
  obtain ⟨m', ps', hread, hholds, hsha, hlen, rfl⟩ := verifyObject_ok hv
  obtain ⟨rfl, rfl⟩ := h.unique hholds
  refine ⟨?_, hsha, hlen⟩
  unfold get
  rw [hread]
  dsimp only
  rw [readChunks_of_opened h.chunks]
  dsimp only
  rw [if_neg]
  simp [hsha, (validateManifest_ok (readManifest_ok hread).2.2).1]

end

/-! ## Chunk by chunk -/

section

variable {digest : String} {s : Store}

/-- The chunks of an object that holds payloads are the payloads, one at each index below their number. -/
theorem getChunk_holds {m : Manifest} {ps : List Bytes} (hread : readManifest cas digest s = .ok m)
    (h : Holds cas (dirOf s.objects digest) m ps) :
    List.Forall₂ (fun i p => getChunk cas digest i s = .ok p) (List.range m.chunks.length) ps := by
  have hlen := h.chunks.length_eq
  obtain ⟨-, -, hindex⟩ := validateManifest_ok (readManifest_ok hread).2.2
  rw [List.forall₂_iff_get]
  refine ⟨by rw [List.length_range, hlen], ?_⟩
  intro i hi hi'
  have hlt : i < m.chunks.length := by simpa using hi
  have hopen := h.chunks.get hlt hi'
  have hrecord : m.chunks[i]? = some m.chunks[i] := List.getElem?_eq_getElem hlt
  -- a record stands at its own index, so `get_chunk` does not filter it out
  unfold getChunk
  rw [hread]
  dsimp only
  rw [List.get_eq_getElem, List.getElem_range, hrecord, Option.filter_some, if_pos (by simpa using hindex i _ hrecord)]
  exact hopen

/-- Past the last chunk there is none. -/
theorem getChunk_out_of_range {m : Manifest} (hread : readManifest cas digest s = .ok m) {i : Nat} (hi : m.chunks.length ≤ i) :
    getChunk cas digest i s = .error .chunkOutOfRange := by
  unfold getChunk
  rw [hread]
  dsimp only
  rw [List.getElem?_eq_none hi]
  rfl

/-- The layout of an object that verifies gives the number of its chunks, which put together are what `get` gives back. -/
theorem layout_of_verifyObject {c : ArtifactContract} {plaintext : Bytes} (hv : verifyObject cas digest s = .ok c)
    (hplain : get cas digest s = .ok plaintext) :
    ∃ layout, chunkLayout cas digest s = .ok layout ∧ layout.digest = digest ∧ layout.sizeBytes = plaintext.length ∧
      (∃ chunks, List.Forall₂ (fun i p => getChunk cas digest i s = .ok p) (List.range layout.chunkCount) chunks ∧
        chunks.flatten = plaintext) ∧
      ∀ i, layout.chunkCount ≤ i → getChunk cas digest i s = .error .chunkOutOfRange := by
  obtain ⟨m, ps, hread, hholds, -, hlen, -⟩ := verifyObject_ok hv
  obtain ⟨hdigest, hcount, -⟩ := validateManifest_ok (readManifest_ok hread).2.2
  obtain ⟨hget, -, -⟩ := get_of_verifyObject hv hholds
  obtain rfl : ps.flatten = plaintext := Except.ok.inj (hget.symm.trans hplain)
  have hlayout : chunkLayout cas digest s = .ok ⟨m.plaintextDigest, m.plaintextSize, m.chunks.length⟩ := by
    unfold chunkLayout
    rw [hread, Except.map, Nat.mod_eq_of_lt hcount]
  exact ⟨_, hlayout, hdigest, hlen.symm, ⟨ps, getChunk_holds hread hholds, rfl⟩, fun i hi => getChunk_out_of_range hread hi⟩

end

/-! ## Rows of a session -/

theorem mem_chunkRowsOf {sid : String} {ix : Index} {i : Nat} {row : ChunkRow} :
    (i, row) ∈ chunkRowsOf sid ix ↔ AList.lookup (sid, i) ix.chunks = some row := by
  unfold chunkRowsOf
  rw [List.mem_insertionSort, List.mem_filterMap, Table.mem_lookup]
  constructor
  · rintro ⟨⟨⟨sid', i'⟩, row'⟩, hmem, heq⟩
    split at heq
    · rename_i hs
      cases heq
      dsimp only at hs
      rw [← hs]
      exact hmem
    · cases heq
  · intro hmem
    exact ⟨⟨(sid, i), row⟩, hmem, by simp⟩

theorem sorted_chunkRowsOf (sid : String) (ix : Index) :
    (chunkRowsOf sid ix).Pairwise fun a b => a.1 ≤ b.1 := by
  have : Std.Total (fun a b : Nat × ChunkRow => a.1 ≤ b.1) := ⟨fun a b => Nat.le_total a.1 b.1⟩
  have : IsTrans (Nat × ChunkRow) (fun a b => a.1 ≤ b.1) := ⟨fun _ _ _ => Nat.le_trans⟩
  exact List.pairwise_insertionSort _ _

theorem nodup_chunkRowsOf (sid : String) (ix : Index) : (chunkRowsOf sid ix).Pairwise fun a b => a.1 ≠ b.1 := by
  unfold chunkRowsOf
  refine (List.Perm.pairwise_iff (fun h => h.symm) (List.perm_insertionSort _ _)).2 ?_
  rw [List.pairwise_filterMap]
  refine (List.nodupKeys_iff_pairwise.1 ix.chunks.nodupKeys).imp ?_
  intro a b hne x hx y hy heq
  split at hx
  · rename_i ha
    split at hy
    · rename_i hb
      cases hx
      cases hy
      exact hne (Prod.ext (ha.trans hb.symm) heq)
    · cases hy
  · cases hx

/-- The rows are in strictly ascending order. -/
theorem strictly_sorted_chunkRowsOf (sid : String) (ix : Index) :
    (chunkRowsOf sid ix).Pairwise fun a b => a.1 < b.1 := by
  refine ((sorted_chunkRowsOf sid ix).and (nodup_chunkRowsOf sid ix)).imp ?_
  rintro a b ⟨hle, hne⟩
  exact lt_of_le_of_ne hle hne

/-! ## The loop of a commit -/

/-- The record of a row. -/
def rowRecord (r : Nat × ChunkRow) : ChunkRecord := ⟨r.1, r.2.nonce, r.2.plaintextSize, r.2.ciphertextDigest⟩

/-- A chunk that a commit opened by its row opens by its record, in any directory with the same files. -/
theorem openChunk_of_openRow {dir dir' : Dir} {i : Nat} {row : ChunkRow} {p : Bytes} (hd : dir'.chunks = dir.chunks)
    (h : openRow cas dir i row = .ok p) : openChunk cas dir' (rowRecord (i, row)) = .ok p := by
  unfold openRow at h
  unfold openChunk rowRecord
  dsimp only
  rw [hd]
  cases hc : readRegularFileBounded (AList.lookup i dir.chunks) maxEncryptedChunkBytes with
  | error e =>
    rw [hc] at h
    cases h
  | ok c =>
    rw [hc] at h
    dsimp only at h ⊢
    by_cases hsha : sha256Hex cas c ≠ row.ciphertextDigest
    · rw [if_pos hsha] at h
      cases h
    rw [if_neg hsha] at h ⊢
    cases hn : decodeNonce row.nonce with
    | error e =>
      rw [hn] at h
      cases h
    | ok n =>
      rw [hn] at h
      dsimp only at h ⊢
      cases hq : cas.decrypt n c with
      | none =>
        rw [hq] at h
        cases h
      | some q =>
        rw [hq] at h
        dsimp only at h ⊢
        by_cases hsame : q.length ≠ row.plaintextSize ∨ sha256Digest cas q ≠ row.plaintextDigest
        · rw [if_pos hsame] at h
          cases h
        · rw [if_neg hsame] at h
          push Not at hsame
          rw [if_neg (not_not.2 hsame.1)]
          exact h

theorem satAdd_min (x y : Nat) : U64.satAdd (min x U64.max) y = min (x + y) U64.max := by
  show min (min x U64.max + y) U64.max = _
  omega

/-- The payloads a loop that ends has opened, and what it has gathered. -/
theorem assembleChunks_ok {dir : Dir} {l : List (Nat × ChunkRow)} : ∀ {index : Nat} {acc a : Assembled},
    assembleChunks cas dir index acc l = .ok a → ∃ ps,
      List.Forall₂ (fun r p => openRow cas dir r.1 r.2 = .ok p) l ps ∧
      (∀ k r, l[k]? = some r → r.1 = (index + k) % 2 ^ 32) ∧ a.plaintext = acc.plaintext ++ ps.flatten ∧
      a.chunks = acc.chunks ++ l.map rowRecord ∧
      ∀ x, acc.size = min x U64.max → a.size = min (x + ps.flatten.length) U64.max := by
  induction l with
  | nil =>
    intro index acc a h
    cases h
    refine ⟨[], .nil, ?_, by simp, by simp, by simp⟩
    intro k r hk
    cases hk
  | cons r l ih =>
    obtain ⟨i, row⟩ := r
    intro index acc a h
    rw [assembleChunks] at h
    split at h
    · cases h
    rename_i hi
    split at h
    · cases h
    rename_i p hp
    obtain ⟨ps, hopened, hindex, hplain, hchunks, hsize⟩ := ih h
    refine ⟨p :: ps, .cons hp hopened, ?_, ?_, ?_, ?_⟩
    · intro k r hk
      cases k with
      | zero =>
        cases hk
        exact not_not.1 hi
      | succ k => rw [hindex k r hk, show index + 1 + k = index + (k + 1) by omega]
    · rw [hplain, List.flatten_cons, List.append_assoc]
    · rw [hchunks, List.map_cons, List.append_assoc]
      rfl
    · intro x hx
      have hnext : U64.satAdd acc.size p.length = min (x + p.length) U64.max := by
        rw [hx, satAdd_min]
      rw [hsize (x + p.length) hnext, List.flatten_cons, List.length_append, Nat.add_assoc]

/-- The loop ends when every chunk opens and the indices count up. -/
theorem assembleChunks_isOk {dir : Dir} {l : List (Nat × ChunkRow)} {ps : List Bytes}
    (h : List.Forall₂ (fun r p => openRow cas dir r.1 r.2 = .ok p) l ps) : ∀ {index : Nat} {acc : Assembled},
    (∀ k r, l[k]? = some r → r.1 = (index + k) % 2 ^ 32) → ∃ a, assembleChunks cas dir index acc l = .ok a := by
  induction h with
  | nil => exact fun _ => ⟨_, rfl⟩
  | @cons r p l ps hr _ ih =>
    intro index acc hindex
    obtain ⟨i, row⟩ := r
    have h0 : i = index % 2 ^ 32 := hindex 0 _ rfl
    rw [assembleChunks, if_neg (not_not.2 h0), hr]
    refine ih ?_
    intro k r hk
    rw [hindex (k + 1) r hk, show index + 1 + k = index + (k + 1) by omega]

/-! ## Assembling a session -/

/-- The rows of the session are complete, open to the payloads `ps`, and give the session's content address. -/
structure Assembly (cas : CasStore) (sid : String) (session : DurablePutSession) (s : Store) (ps : List Bytes) : Prop where
  rows : (chunkRowsOf sid s.index).length = session.chunkCount
  index : ∀ (k : Nat) (r : Nat × ChunkRow), (chunkRowsOf sid s.index)[k]? = some r → r.1 = k
  opened : List.Forall₂ (fun r p => openRow cas (s.transfer sid) r.1 r.2 = .ok p) (chunkRowsOf sid s.index) ps
  digest : sha256Digest cas ps.flatten = session.digest
  size : ps.flatten.length = session.sizeBytes

/-- The manifest of a complete session. -/
def rowsManifest (sid : String) (session : DurablePutSession) (createdAt : Int) (ix : Index) : Manifest :=
  sessionManifest session session.sizeBytes createdAt ((chunkRowsOf sid ix).map rowRecord)

section

variable {now createdAt : Int} {sid : String} {session : DurablePutSession} {s : Store} {m : Manifest}

theorem SessionValid.size_lt (h : SessionValid sid session) : session.sizeBytes < U64.max :=
  lt_of_le_of_lt h.size_le (by decide)

/-- What a commit has established when it goes on to promote the transfer. -/
theorem assemble_ok (h : assemble cas now createdAt sid session s = .ok m) (hv : SessionValid sid session) :
    session.state = .active ∧ (∃ ps, Assembly cas sid session s ps) ∧ m = rowsManifest sid session createdAt s.index := by
  unfold assemble at h
  split at h
  · cases h
  rename_i hactive
  split at h
  · cases h
  split at h
  · cases h
  split at h
  · cases h
  rename_i hrows
  replace hrows := not_not.1 hrows
  split at h
  · cases h
  rename_i a ha
  split at h
  · cases h
  rename_i hsame
  push Not at hsame
  obtain ⟨ps, hopened, hindex, hplain, hchunks, hsize⟩ := assembleChunks_ok ha
  have hsz := hsize 0 rfl
  have hlen : ps.flatten.length = session.sizeBytes := by
    have := hv.size_lt
    rw [hsame.2] at hsz
    omega
  refine ⟨SessionState.eq_active_of_ne hactive, ⟨ps, hrows, ?_, hopened, ?_, hlen⟩, ?_⟩
  · intro k r hk
    have hlt : k < session.chunkCount := by
      rw [← hrows]
      exact (List.getElem?_eq_some_iff.1 hk).1
    have := hv.layout.count_lt
    rw [hindex k r hk, Nat.zero_add, Nat.mod_eq_of_lt (by omega)]
  · rw [← hsame.1, hplain, List.nil_append]
  · rw [← Except.ok.inj h, rowsManifest, hchunks, hsame.2]
    rfl

/-- A complete session that is active, unexpired and current is assembled. -/
theorem assemble_of_assembly {ps : List Bytes} (hv : SessionValid sid session) (hactive : session.state = .active)
    (hexp : timestampMillis now < session.expiresAtMillis)
    (hcurrent : ensureEpochIsCurrent session.authorityScope session.fencingEpoch s.index = .ok ())
    (h : Assembly cas sid session s ps) :
    assemble cas now createdAt sid session s = .ok (rowsManifest sid session createdAt s.index) := by
  have hne : session.state ≠ .complete := by
    rw [hactive]
    exact SessionState.noConfusion
  have hindex : ∀ k r, (chunkRowsOf sid s.index)[k]? = some r → r.1 = (0 + k) % 2 ^ 32 := by
    intro k r hk
    have hlt : k < session.chunkCount := by
      rw [← h.rows]
      exact (List.getElem?_eq_some_iff.1 hk).1
    have := hv.layout.count_lt
    rw [h.index k r hk, Nat.zero_add, Nat.mod_eq_of_lt (by omega)]
  obtain ⟨a, ha⟩ : ∃ a, assembleChunks cas (s.transfer sid) 0 ⟨[], 0, []⟩ (chunkRowsOf sid s.index) = .ok a :=
    assembleChunks_isOk h.opened hindex
  obtain ⟨ps', hopened', _, hplain, hchunks, hsize⟩ := assembleChunks_ok ha
  -- the loop opens each row to one payload
  have hps : ps' = ps := List.right_unique_forall₂'
    (fun r p p' h1 h2 => Except.ok.inj (h1.symm.trans h2) : Relator.RightUnique fun (r : Nat × ChunkRow) p =>
      openRow cas (s.transfer sid) r.1 r.2 = .ok p) hopened' h.opened
  subst hps
  have hsz : a.size = session.sizeBytes := by
    have := hv.size_lt
    have hs := h.size
    rw [hsize 0 rfl]
    omega
  have hsha : sha256Digest cas a.plaintext = session.digest := by
    rw [hplain, List.nil_append]
    exact h.digest
  unfold assemble
  rw [if_neg hne, if_neg (not_le.2 hexp), hcurrent]
  dsimp only
  rw [if_neg (not_not.2 h.rows), ha]
  dsimp only
  rw [if_neg (by simp [hsha, hsz]), hsz, hchunks, List.nil_append]
  rfl

/-- The manifest of a complete session is valid. -/
theorem validateManifest_rows {S : Set Bytes} {ps : List Bytes} (hix : IndexSound cas S s.index)
    (hs : AList.lookup sid s.index.sessions = some session) (h : Assembly cas sid session s ps) :
    validateManifest session.digest (rowsManifest sid session createdAt s.index) = .ok () := by
  have hv := hix.sessions _ _ hs
  have hl := hv.layout
  have hpos : 0 < session.sizeBytes := lt_of_le_of_lt (Nat.zero_le _) hl.below
  have hlen : ((chunkRowsOf sid s.index).map rowRecord).length = session.chunkCount := by
    rw [List.length_map, h.rows]
  refine validateManifest_layout (m := rowsManifest sid session createdAt s.index) hl ?_ hv.size_le hv.chunkSize_le ?_ hlen
  · have hne : ((chunkRowsOf sid s.index).map rowRecord).isEmpty = false := by
      have := hl.count_pos
      rw [← hlen] at this
      rw [List.isEmpty_eq_false_iff, ← List.length_pos_iff]
      exact this
    have hrep : (session.requiredReplicas != 0) = true := by simpa using hv.replicas
    have hzero : (session.sizeBytes == 0) = false := by
      rw [beq_eq_false_iff_ne]
      omega
    have hkind : (session.storageClass == .«protected» && decide (session.requiredReplicas < 2)) = false := by
      rw [← Bool.not_eq_true]
      simpa using hv.«protected»
    simp only [Manifest.headerIsValid, rowsManifest, sessionManifest, Bool.and_eq_true, beq_iff_eq, Bool.not_eq_true']
    exact ⟨⟨⟨⟨⟨⟨trivial, trivial⟩, decide_eq_true hv.size_le⟩, hv.mediaType⟩, hrep⟩, hkind⟩, hzero.trans hne.symm⟩
  · intro i r hr
    change ((chunkRowsOf sid s.index).map rowRecord)[i]? = some r at hr
    rw [List.getElem?_map] at hr
    obtain ⟨row, hrow, rfl⟩ := Option.map_eq_some_iff.1 hr
    have hi := h.index i row hrow
    obtain ⟨j, row⟩ := row
    dsimp only at hi
    subst hi
    obtain ⟨session', n, p, hs', hmade⟩ := hix.rows sid j row (mem_chunkRowsOf.1 (List.mem_of_getElem? hrow))
    rw [hs] at hs'
    cases hs'
    refine ⟨rfl, ?_, ?_⟩
    · show row.plaintextSize = _
      rw [hmade.row]
      exact hmade.length
    · rw [hmade.row]
      exact textIsValid_encode cas n _ _ _

/-! ## Promotion -/

/-- A row and its file as `put_resumable_chunk` wrote them open to the payload. -/
theorem openRow_made {S : Set Bytes} {dir : Dir} {i : Nat} {row : ChunkRow} {n : Nonce} {p : Bytes}
    (hv : SessionValid sid session) (hmade : RowMade cas S session i row n p)
    (hfile : AList.lookup i dir.chunks = some (cas.encrypt n p)) : openRow cas dir i row = .ok p := by
  have hlen : (cas.encrypt n p).length ≤ maxEncryptedChunkBytes := by
    have hp : p.length ≤ session.chunkSize := by
      rw [hmade.length]
      exact sizeAt_le
    have := hv.chunkSize_le
    rw [cas.encrypt_length]
    unfold maxEncryptedChunkBytes
    omega
  have hread : readRegularFileBounded (AList.lookup i dir.chunks) maxEncryptedChunkBytes = .ok (cas.encrypt n p) := by
    rw [hfile]
    exact if_neg (Nat.not_lt.2 hlen)
  have hnonce : decodeNonce (chunkRow cas n p p.length).nonce = .ok n := decodeNonce_encode n
  have hsha : ¬ sha256Hex cas (cas.encrypt n p) ≠ (chunkRow cas n p p.length).ciphertextDigest := not_not.2 rfl
  have hsame : ¬ (p.length ≠ (chunkRow cas n p p.length).plaintextSize ∨
      sha256Digest cas p ≠ (chunkRow cas n p p.length).plaintextDigest) := by simp [chunkRow]
  rw [hmade.row]
  unfold openRow
  rw [hread]
  dsimp only
  rw [if_neg hsha, hnonce]
  dsimp only
  rw [cas.decrypt_encrypt]
  dsimp only
  rw [if_neg hsame]

/-- The directory that is promoted: the files of the transfer, and the manifest that was written or was there. -/
theorem promoted_dir {written : List Effect} (hw : writeManifest cas sid session m s = .ok written) :
    ∃ m', (dirOf (storeEffects.applyAll (promotion sid session.digest written) s).objects session.digest).manifest =
        some (.json m') ∧
      (dirOf (storeEffects.applyAll (promotion sid session.digest written) s).objects session.digest).chunks =
        (s.transfer sid).chunks ∧ m'.agrees m = true ∧
      ((written = [.writeManifest sid m] ∧ m' = m) ∨
        (written = [] ∧ cas.manifestSize m' ≤ maxManifestBytes ∧ validateManifest session.digest m' = .ok ())) := by
  have hobject : ∀ t : Store, dirOf (Effect.apply (.promote sid session.digest) t).objects session.digest = t.transfer sid := by
    intro t
    show dirOf (AList.insert session.digest (t.transfer sid) t.objects) session.digest = _
    rw [dirOf_insert, if_pos rfl]
  unfold writeManifest at hw
  split at hw
  · cases hw
    refine ⟨m, ?_, ?_, ?_, Or.inl ⟨rfl, rfl⟩⟩
    · show (dirOf (Effect.apply (.promote sid session.digest) (Effect.apply (.writeManifest sid m) s)).objects
        session.digest).manifest = _
      rw [hobject, transfer_writeManifest, if_pos rfl]
    · show (dirOf (Effect.apply (.promote sid session.digest) (Effect.apply (.writeManifest sid m) s)).objects
        session.digest).chunks = _
      rw [hobject, transfer_writeManifest, if_pos rfl]
    · simp [Manifest.agrees]
  · rename_i doc hdoc
    split at hw
    · cases hw
    rename_i existing hread
    split at hw
    · cases hw
    rename_i hvalid
    split at hw
    · rename_i hagrees
      cases hw
      -- the manifest that was there is read back as it is
      have hjson : doc = .json existing ∧ cas.manifestSize existing ≤ maxManifestBytes := by
        unfold readDocument at hread
        split at hread
        · split at hread
          · cases hread
          · rename_i hsize
            cases hread
            exact ⟨rfl, Nat.not_lt.1 hsize⟩
        · split at hread <;> cases hread
      refine ⟨existing, ?_, ?_, hagrees, Or.inr ⟨rfl, hjson.2, hvalid⟩⟩
      · show (dirOf (Effect.apply (.promote sid session.digest) s).objects session.digest).manifest = _
        rw [hobject, hdoc, hjson.1]
      · show (dirOf (Effect.apply (.promote sid session.digest) s).objects session.digest).chunks = _
        rw [hobject]
    · cases hw

theorem Manifest.eq_of_agrees {a b : Manifest} (h : a.agrees b = true) : a.plaintextDigest = b.plaintextDigest ∧
    a.plaintextSize = b.plaintextSize ∧ a.mediaType = b.mediaType ∧ a.storageClass = b.storageClass ∧
    a.requiredReplicas = b.requiredReplicas ∧ a.chunks = b.chunks := by
  simp only [Manifest.agrees, Bool.and_eq_true, beq_iff_eq] at h
  obtain ⟨⟨⟨⟨⟨h1, h2⟩, h3⟩, h4⟩, h5⟩, h6⟩ := h
  exact ⟨h1, h2, h3, h4, h5, h6⟩

/-- The promoted directory holds the payloads the commit has opened. -/
theorem holds_promoted {ps : List Bytes} {written : List Effect} (h : Assembly cas sid session s ps)
    (hm : m = rowsManifest sid session createdAt s.index) (hw : writeManifest cas sid session m s = .ok written) :
    ∃ m', Holds cas (dirOf (storeEffects.applyAll (promotion sid session.digest written) s).objects session.digest) m' ps ∧
      m'.agrees m = true ∧
      ((written = [.writeManifest sid m] ∧ m' = m) ∨
        (written = [] ∧ cas.manifestSize m' ≤ maxManifestBytes ∧ validateManifest session.digest m' = .ok ())) := by
  obtain ⟨m', hmanifest, hchunks, hagrees, hwhich⟩ := promoted_dir hw
  refine ⟨m', ⟨hmanifest, ?_⟩, hagrees, hwhich⟩
  rw [(Manifest.eq_of_agrees hagrees).2.2.2.2.2, hm]
  show List.Forall₂ _ ((chunkRowsOf sid s.index).map rowRecord) ps
  rw [List.forall₂_map_left_iff]
  refine h.opened.imp ?_
  rintro ⟨i, row⟩ p hopen
  exact openChunk_of_openRow hchunks hopen

/-- The contract of an artifact that is stored as its session says. -/
def sessionContract (session : DurablePutSession) : ArtifactContract :=
  ⟨⟨"rampage.artifact-ref.v1", session.digest, session.sizeBytes, session.mediaType, session.storageClass, true⟩,
    session.requiredReplicas⟩

/-- A promoted transfer verifies, unless the manifest it wrote is over the bound. -/
theorem verifyObject_promoted {S : Set Bytes} {ps : List Bytes} {written : List Effect} (hix : IndexSound cas S s.index)
    (hs : AList.lookup sid s.index.sessions = some session) (h : Assembly cas sid session s ps)
    (hm : m = rowsManifest sid session createdAt s.index) (hw : writeManifest cas sid session m s = .ok written) :
    verifyObject cas session.digest (storeEffects.applyAll (promotion sid session.digest written) s) =
        .ok (sessionContract session) ∨
      (verifyObject cas session.digest (storeEffects.applyAll (promotion sid session.digest written) s) =
          .error .invalidManifest ∧ written = [.writeManifest sid m] ∧ maxManifestBytes < cas.manifestSize m) := by
  have hv := hix.sessions _ _ hs
  obtain ⟨m', hholds, hagrees, hwhich⟩ := holds_promoted h hm hw
  obtain ⟨_, hsize, hmedia, hcls, hrep, _⟩ := Manifest.eq_of_agrees hagrees
  have hplain : m'.plaintextSize = session.sizeBytes := by
    rw [hsize, hm]
    rfl
  have hvalid : validateManifest session.digest m' = .ok () := by
    rcases hwhich with ⟨_, rfl⟩ | ⟨_, _, hvalid⟩
    · rw [hm]
      exact validateManifest_rows hix hs h
    · exact hvalid
  have hcontract : artifactContractFromManifest session.digest m' = sessionContract session := by
    unfold artifactContractFromManifest sessionContract
    rw [hsize, hmedia, hcls, hrep, hm]
    rfl
  by_cases hbig : cas.manifestSize m' ≤ maxManifestBytes
  · left
    rw [← hcontract]
    refine verifyObject_holds hholds hv.digest hbig hvalid h.digest ?_ ?_
    · rw [h.size, hplain]
    · have := hv.size_lt
      unfold U64.max at this
      omega
  · right
    rcases hwhich with ⟨hwritten, rfl⟩ | ⟨_, hsmall, _⟩
    · refine ⟨?_, hwritten, Nat.not_le.1 hbig⟩
      unfold verifyObject
      rw [readManifest_holds hholds hv.digest, if_pos (Nat.not_le.1 hbig)]
    · exact absurd hsmall hbig

end

end Rampage.Storage
