/-
The writing operations of the store: consuming an authority, beginning or renewing a transfer session,
storing a chunk, committing a session, and storing a whole artifact. Each is a plan: the durable effects
in order and the result. What a call does before it holds the index lock (`beginArrive`,
`acceptAuthorityArrive`) is apart from what it does under it (`beginLocked`,
`acceptAuthorityInTransaction`). Clock readings and random nonces are arguments.
-/
import Rampage.Storage.Store
import Mathlib.Data.List.Sort

namespace Rampage.Storage

open Rampage.Protocol

/-! ## Authority -/

/-- `ensure_epoch_is_current`. -/
def ensureEpochIsCurrent (scope : String) (fencingEpoch : Nat) (ix : Index) : Except StorageError Unit :=
  match AList.lookup scope ix.fences with
  | none => .ok ()
  | some current => if fencingEpoch < current then .error (.staleFencingEpoch current fencingEpoch) else .ok ()

/-- `accept_authority_in_transaction`: the expired nonces are purged, the nonce is consumed and the fence raised. -/
def acceptAuthorityInTransaction (scope : String) (fencingEpoch : Nat) (nonce : String)
    (expiresAtMillis nowMillis : Int) (ix : Index) : Except StorageError Index :=
  match ensureEpochIsCurrent scope fencingEpoch ix with
  | .error e => .error e
  | .ok () =>
    let nonces := Table.retain (fun _ expiry => nowMillis < expiry) ix.nonces
    if (AList.lookup (scope, nonce) nonces).isSome then .error .replayedAuthorityNonce
    else if 2 ^ 63 ≤ fencingEpoch then .error .invalidAuthority
    else
      let fence := max ((AList.lookup scope ix.fences).getD fencingEpoch) fencingEpoch
      .ok { ix with
        nonces := AList.insert (scope, nonce) expiresAtMillis nonces
        fences := AList.insert scope fence ix.fences }

/-- `accept_authority` before the index lock. -/
def acceptAuthorityArrive (scope nonce : String) (expiresAt now : Int) : Except StorageError Unit :=
  if !isBoundedAscii 128 scope || !isBoundedAscii 128 nonce then .error .invalidAuthority
  else if timestampMillis expiresAt ≤ timestampMillis now then .error .expiredAuthority
  else .ok ()

/-- `accept_authority`. -/
def acceptAuthority (now : Int) (scope : String) (fencingEpoch : Nat) (nonce : String) (expiresAt : Int) (s : Store) :
    Operation Unit :=
  match acceptAuthorityArrive scope nonce expiresAt now with
  | .error e => .fail e
  | .ok () =>
    match acceptAuthorityInTransaction scope fencingEpoch nonce (timestampMillis expiresAt) (timestampMillis now) s.index with
    | .error e => .fail e
    | .ok ix => ⟨[Effect.commit ix], .ok ()⟩

/-! ## The index -/

/-- The rows of a session, `ORDER BY chunk_index ASC`. -/
def chunkRowsOf (sessionId : String) (ix : Index) : List (Nat × ChunkRow) :=
  (ix.chunks.entries.filterMap fun e => if e.1.1 = sessionId then some (e.1.2, e.2) else none).insertionSort
    fun a b => a.1 ≤ b.1

/-- `ensure_storage_capacity`. -/
def ensureStorageCapacity (limits : Option StorageLimits) (storageClass : StorageClass) (requestedBytes : Nat)
    (replacingDigest : String) (ix : Index) : Except StorageError Unit :=
  match limits.map (·.forClass storageClass) with
  | none => .ok ()
  | some limit =>
    let alreadyIndexed := (AList.lookup replacingDigest ix.artifacts).any (·.storageClass = storageClass)
    let used := ((AList.erase replacingDigest ix.artifacts).entries.map (·.2)
      |>.filter (·.storageClass = storageClass) |>.map (·.sizeBytes)).sum
    let reserved := ((Table.values ix.sessions).filter (fun r => r.storageClass = storageClass ∧ r.state = .active)
      |>.map (·.sizeBytes)).sum
    let total := used + reserved + if alreadyIndexed then 0 else requestedBytes
    if 2 ^ 64 ≤ total ∨ limit < total then .error .storageQuotaExceeded else .ok ()

/-- `index_artifact_in_transaction`. -/
def indexArtifactInTransaction (artifact : ArtifactRefV1) (requiredReplicas : Nat) (ix : Index) :
    Except StorageError Index :=
  match AList.lookup artifact.digest ix.artifacts with
  | none =>
    let row : ArtifactRow := ⟨artifact.sizeBytes, artifact.mediaType, artifact.storageClass, requiredReplicas⟩
    .ok { ix with artifacts := AList.insert artifact.digest row ix.artifacts }
  | some row =>
    if row.sizeBytes ≠ artifact.sizeBytes ∨ row.mediaType ≠ artifact.mediaType ∨
        row.storageClass ≠ artifact.storageClass ∨ row.requiredReplicas ≠ requiredReplicas then .error .artifactConflict
    else .ok ix

/-! ## Sessions -/

/-- `ensure_session_contract`. -/
def ensureSessionContract (existing : DurablePutSession) (spec : ResumablePutSpec) (chunkCount : Nat) :
    Except StorageError Unit :=
  if existing.authorityScope ≠ spec.authorityScope ∨ existing.digest ≠ spec.digest ∨
      existing.sizeBytes ≠ spec.sizeBytes ∨ existing.mediaType ≠ spec.mediaType ∨
      existing.storageClass ≠ spec.storageClass ∨ existing.requiredReplicas ≠ spec.requiredReplicas ∨
      existing.chunkSize ≠ spec.chunkSize ∨ existing.chunkCount ≠ chunkCount then .error .transferConflict
  else .ok ()

/-- The row of a new session. -/
def newSession (spec : ResumablePutSpec) (chunkCount : Nat) : DurablePutSession where
  leaseId := spec.leaseId
  authorityScope := spec.authorityScope
  fencingEpoch := spec.fencingEpoch
  authorityNonce := spec.authorityNonce
  expiresAtMillis := timestampMillis spec.expiresAt
  digest := spec.digest
  sizeBytes := spec.sizeBytes
  mediaType := spec.mediaType
  storageClass := spec.storageClass
  requiredReplicas := spec.requiredReplicas
  chunkSize := spec.chunkSize
  chunkCount := chunkCount
  state := .active

/-- The row under a renewed lease. -/
def renewSession (existing : DurablePutSession) (spec : ResumablePutSpec) : DurablePutSession :=
  { existing with
    leaseId := spec.leaseId
    fencingEpoch := spec.fencingEpoch
    authorityNonce := spec.authorityNonce
    expiresAtMillis := timestampMillis spec.expiresAt }

/-- The lease binding of the row is the request's. -/
def isBoundTo (existing : DurablePutSession) (spec : ResumablePutSpec) : Bool :=
  existing.leaseId == spec.leaseId && existing.authorityNonce == spec.authorityNonce &&
    existing.fencingEpoch == spec.fencingEpoch && existing.expiresAtMillis == timestampMillis spec.expiresAt

/-- `begin_resumable_put` before the index lock: the checks of the request; the answer is the chunk count. -/
def beginArrive (now : Int) (spec : ResumablePutSpec) : Except StorageError Nat :=
  match validateResumableSpec spec with
  | .error e => .error e
  | .ok () =>
    match objectDir spec.digest with
    | .error e => .error e
    | .ok () =>
      if timestampMillis spec.expiresAt ≤ timestampMillis now then .error .transferExpired
      else if 2 ^ 63 ≤ spec.fencingEpoch then .error .invalidAuthority
      else if 2 ^ 63 ≤ spec.sizeBytes then .error .invalidTransfer
      else chunkCount spec.sizeBytes spec.chunkSize

/-- How a session is begun. -/
inductive Begun
  | complete
  | unchanged
  /-- The authority is consumed and the session renewed or inserted. -/
  | accepted (index : Index)

section

variable (cas : CasStore)

/-- `begin_resumable_put` under the index lock, up to the end of its transaction. -/
def beginLocked (now : Int) (spec : ResumablePutSpec) (chunkCount : Nat) (ix : Index) : Except StorageError Begun :=
  match AList.lookup spec.sessionId ix.sessions with
  | some existing =>
    match ensureSessionContract existing spec chunkCount with
    | .error e => .error e
    | .ok () =>
      if existing.state = .complete then .ok .complete
      else if isBoundTo existing spec then
        (ensureEpochIsCurrent spec.authorityScope spec.fencingEpoch ix).map fun _ => .unchanged
      else
        (acceptAuthorityInTransaction spec.authorityScope spec.fencingEpoch spec.authorityNonce
          (timestampMillis spec.expiresAt) (timestampMillis now) ix).map fun ix =>
            .accepted { ix with sessions := AList.insert spec.sessionId (renewSession existing spec) ix.sessions }
  | none =>
    match ensureStorageCapacity cas.limits spec.storageClass spec.sizeBytes spec.digest ix with
    | .error e => .error e
    | .ok () =>
      (acceptAuthorityInTransaction spec.authorityScope spec.fencingEpoch spec.authorityNonce
        (timestampMillis spec.expiresAt) (timestampMillis now) ix).map fun ix =>
          .accepted { ix with sessions := AList.insert spec.sessionId (newSession spec chunkCount) ix.sessions }

/-- `resumable_put_status`. -/
def resumablePutStatus (sessionId : String) (s : Store) : Except StorageError ResumablePutStatus :=
  match transferDir sessionId with
  | .error e => .error e
  | .ok () =>
    match AList.lookup sessionId s.index.sessions with
    | none => .error (.transferNotFound sessionId)
    | some session =>
      let received := ((chunkRowsOf sessionId s.index).map (·.1)).filter
        fun i => (AList.lookup i (s.transfer sessionId).chunks).isSome
      if 2 ^ 32 ≤ session.chunkCount then .error .invalidTransfer
      else .ok
        { sessionId := sessionId
          digest := session.digest
          sizeBytes := session.sizeBytes
          chunkSize := session.chunkSize
          chunkCount := session.chunkCount
          receivedChunks := received
          missingChunks := (List.range session.chunkCount).filter (· ∉ received)
          complete := session.state = .complete }

/-- Some effects, and the status in the state they leave. -/
def thenStatus (effects : List Effect) (sessionId : String) (s : Store) : Operation ResumablePutStatus :=
  ⟨effects, resumablePutStatus sessionId (storeEffects.applyAll effects s)⟩

/-- `begin_resumable_put`. -/
def beginResumablePut (now : Int) (spec : ResumablePutSpec) (s : Store) : Operation ResumablePutStatus :=
  match beginArrive now spec with
  | .error e => .fail e
  | .ok count =>
    match beginLocked cas now spec count s.index with
    | .error e => .fail e
    | .ok .complete => thenStatus [] spec.sessionId s
    | .ok .unchanged => thenStatus [.createTransferDir spec.sessionId] spec.sessionId s
    | .ok (.accepted ix) => thenStatus [.commit ix, .createTransferDir spec.sessionId] spec.sessionId s

/-! ## Chunks -/

/-- What `put_resumable_chunk` finds. -/
inductive ChunkStep
  | complete
  | kept
  /-- The chunk, of the given size, is to be stored. -/
  | stored (size : Nat)

/-- The stored chunk file is the one its row describes. -/
def chunkIsStored (row : ChunkRow) (file : Option Bytes) : Except StorageError Bool :=
  match file with
  | none => .ok false
  | some b => (readRegularFileBounded (some b) maxEncryptedChunkBytes).map fun b => sha256Hex cas b == row.ciphertextDigest

/-- `put_resumable_chunk` up to the point where it stores the chunk. -/
def putChunkLocked (now : Int) (sessionId : String) (index : Nat) (declaredDigest : String) (plaintext : Bytes)
    (s : Store) : Except StorageError ChunkStep :=
  match transferDir sessionId with
  | .error e => .error e
  | .ok () =>
    match AList.lookup sessionId s.index.sessions with
    | none => .error (.transferNotFound sessionId)
    | some session =>
      if session.state = .complete then .ok .complete
      else if session.expiresAtMillis ≤ timestampMillis now then .error .transferExpired
      else
        match ensureEpochIsCurrent session.authorityScope session.fencingEpoch s.index with
        | .error e => .error e
        | .ok () =>
          if 2 ^ 32 ≤ session.chunkCount then .error .invalidTransfer
          else if session.chunkCount ≤ index then .error .chunkOutOfRange
          else
            match expectedChunkSize session.sizeBytes session.chunkSize index with
            | .error e => .error e
            | .ok size =>
              if plaintext.length ≠ size then .error .chunkSizeMismatch
              else if sha256Digest cas plaintext ≠ declaredDigest then .error .chunkDigestMismatch
              else
                match AList.lookup (sessionId, index) s.index.chunks with
                | none => .ok (.stored size)
                | some row =>
                  if row.plaintextSize ≠ size ∨ row.plaintextDigest ≠ sha256Digest cas plaintext then
                    .error .transferConflict
                  else
                    (chunkIsStored cas row (AList.lookup index (s.transfer sessionId).chunks)).map fun stored =>
                      if stored then .kept else .stored size

/-- The row of a chunk. -/
def chunkRow (nonce : Nonce) (plaintext : Bytes) (size : Nat) : ChunkRow :=
  ⟨size, sha256Digest cas plaintext, Hex.encode nonce.1, sha256Hex cas (cas.encrypt nonce plaintext)⟩

/-- The effects that store a chunk: its file, then its row. -/
def storeChunk (nonce : Nonce) (sessionId : String) (index : Nat) (plaintext : Bytes) (size : Nat) (s : Store) : List Effect :=
  [.createTransferDir sessionId] ++
    (if (AList.lookup index (s.transfer sessionId).chunks).isSome then [.removeChunk sessionId index] else []) ++
    [.renameChunk sessionId index (cas.encrypt nonce plaintext),
      .commit { s.index with chunks := AList.insert (sessionId, index) (chunkRow cas nonce plaintext size) s.index.chunks }]

/-- `put_resumable_chunk`. -/
def putResumableChunk (now : Int) (nonce : Nonce) (sessionId : String) (index : Nat) (declaredDigest : String)
    (plaintext : Bytes) (s : Store) : Operation ResumablePutStatus :=
  match putChunkLocked cas now sessionId index declaredDigest plaintext s with
  | .error e => .fail e
  | .ok .complete => thenStatus [] sessionId s
  | .ok .kept => thenStatus [] sessionId s
  | .ok (.stored size) => thenStatus (storeChunk cas nonce sessionId index plaintext size s) sessionId s

/-! ## Commit -/

/-- One chunk of a transfer, read and checked against its row. -/
def openRow (dir : Dir) (index : Nat) (row : ChunkRow) : Except StorageError Bytes :=
  match readRegularFileBounded (AList.lookup index dir.chunks) maxEncryptedChunkBytes with
  | .error e => .error e
  | .ok c =>
    if sha256Hex cas c ≠ row.ciphertextDigest then .error .digestMismatch
    else
      match decodeNonce row.nonce with
      | .error e => .error e
      | .ok n =>
        match cas.decrypt n c with
        | none => .error .crypto
        | some p =>
          if p.length ≠ row.plaintextSize ∨ sha256Digest cas p ≠ row.plaintextDigest then .error .digestMismatch
          else .ok p

/-- What the loop of `commit_resumable_put` has gathered. -/
structure Assembled where
  plaintext : Bytes
  size : Nat
  chunks : List ChunkRecord

/-- The loop of `commit_resumable_put` over the rows, from `index` on. -/
def assembleChunks (dir : Dir) : Nat → Assembled → List (Nat × ChunkRow) → Except StorageError Assembled
  | _, acc, [] => .ok acc
  | index, acc, (i, row) :: rest =>
    if i ≠ index % 2 ^ 32 then .error .transferIncomplete
    else
      match openRow cas dir i row with
      | .error e => .error e
      | .ok p =>
        assembleChunks dir (index + 1)
          { plaintext := acc.plaintext ++ p
            size := U64.satAdd acc.size p.length
            chunks := acc.chunks ++ [⟨i, row.nonce, row.plaintextSize, row.ciphertextDigest⟩] } rest

/-- The manifest of a session. -/
def sessionManifest (session : DurablePutSession) (size : Nat) (createdAt : Int) (chunks : List ChunkRecord) : Manifest where
  schema := Manifest.schemaName
  plaintextDigest := session.digest
  plaintextSize := size
  mediaType := session.mediaType
  storageClass := session.storageClass
  requiredReplicas := session.requiredReplicas
  createdAt := createdAt
  chunks := chunks

/-- Two manifests agree in all that is compared before a manifest is used again. -/
def Manifest.agrees (a b : Manifest) : Bool :=
  a.plaintextDigest == b.plaintextDigest && a.plaintextSize == b.plaintextSize && a.mediaType == b.mediaType &&
    a.storageClass == b.storageClass && a.requiredReplicas == b.requiredReplicas && a.chunks == b.chunks

/-- The effect that writes the manifest, if none is there; one that is there must be the same. -/
def writeManifest (sessionId : String) (session : DurablePutSession) (m : Manifest) (s : Store) :
    Except StorageError (List Effect) :=
  match (s.transfer sessionId).manifest with
  | none => .ok [.writeManifest sessionId m]
  | some doc =>
    match readDocument cas doc with
    | .error e => .error e
    | .ok existing =>
      match validateManifest session.digest existing with
      | .error e => .error e
      | .ok () => if existing.agrees m then .ok [] else .error .transferConflict

/-- The end of a commit: the object is checked against the session, indexed, and the session completed. -/
def settle (sessionId : String) (session : DurablePutSession) (existing : ArtifactContract) (s : Store) :
    Operation ArtifactRefV1 :=
  match ensureArtifactContract existing session.sizeBytes session.mediaType session.storageClass
      session.requiredReplicas with
  | .error e => .fail e
  | .ok () =>
    match indexArtifactInTransaction existing.artifact existing.requiredReplicas s.index with
    | .error e => .fail e
    | .ok ix =>
      ⟨[Effect.commit { ix with sessions := AList.insert sessionId { session with state := .complete } ix.sessions }],
        .ok existing.artifact⟩

/-- The manifest a commit arrives at: all chunks are there and give the session's content address. -/
def assemble (now createdAt : Int) (sessionId : String) (session : DurablePutSession) (s : Store) :
    Except StorageError Manifest :=
  if session.state = .complete then .error .digestMismatch
  else if session.expiresAtMillis ≤ timestampMillis now then .error .transferExpired
  else
    match ensureEpochIsCurrent session.authorityScope session.fencingEpoch s.index with
    | .error e => .error e
    | .ok () =>
      if (chunkRowsOf sessionId s.index).length ≠ session.chunkCount then .error .transferIncomplete
      else
        match assembleChunks cas (s.transfer sessionId) 0 ⟨[], 0, []⟩ (chunkRowsOf sessionId s.index) with
        | .error e => .error e
        | .ok a =>
          if sha256Digest cas a.plaintext ≠ session.digest ∨ a.size ≠ session.sizeBytes then .error .digestMismatch
          else .ok (sessionManifest session a.size createdAt a.chunks)

/-- `commit_resumable_put` from the point where no usable object is in place. -/
def promoteTransfer (now createdAt : Int) (sessionId : String) (session : DurablePutSession) (s : Store) :
    Operation ArtifactRefV1 :=
  match assemble cas now createdAt sessionId session s with
  | .error e => .fail e
  | .ok m =>
    match writeManifest cas sessionId session m s with
    | .error e => .fail e
    | .ok written =>
      let effects := written ++ [.promote sessionId session.digest]
      let promoted := storeEffects.applyAll effects s
      match verifyObject cas session.digest promoted with
      | .error e => ⟨effects, .error e⟩
      | .ok committed => (settle sessionId session committed promoted).after effects

/-- `commit_resumable_put`. -/
def commitResumablePut (now createdAt : Int) (sessionId : String) (s : Store) : Operation ArtifactRefV1 :=
  match transferDir sessionId with
  | .error e => .fail e
  | .ok () =>
    match AList.lookup sessionId s.index.sessions with
    | none => .fail (.transferNotFound sessionId)
    | some session =>
      match objectDir session.digest with
      | .error e => .fail e
      | .ok () =>
        if (AList.lookup session.digest s.objects).isSome then
          match verifyObject cas session.digest s with
          | .ok existing => settle sessionId session existing s
          | .error e =>
            if isRepairableObjectError e then
              (promoteTransfer cas now createdAt sessionId session (Effect.apply (.quarantine session.digest) s)).after
                [Effect.quarantine session.digest]
            else .fail e
        else promoteTransfer cas now createdAt sessionId session s

/-! ## Whole artifacts -/

/-- `slice::chunks`, with the length as fuel. -/
def chunksOf (size : Nat) : Nat → Bytes → List Bytes
  | 0, _ => []
  | _ + 1, [] => []
  | fuel + 1, b :: l => (b :: l).take size :: chunksOf size fuel ((b :: l).drop size)

/-- The staged directory of an artifact: its chunks encrypted one by one, and the manifest. -/
def stage (createdAt : Int) (nonces : Nat → Nonce) (plaintext : Bytes) (options : PutOptions) : Dir :=
  let chunks := (chunksOf defaultChunkSize plaintext.length plaintext).zipIdx
  { manifest := some (.json
      { schema := Manifest.schemaName
        plaintextDigest := sha256Digest cas plaintext
        plaintextSize := plaintext.length
        mediaType := options.mediaType
        storageClass := options.storageClass
        requiredReplicas := options.requiredReplicas
        createdAt := createdAt
        chunks := chunks.map fun c => ⟨c.2 % 2 ^ 32, Hex.encode (nonces c.2).1, c.1.length,
          sha256Hex cas (cas.encrypt (nonces c.2) c.1)⟩ })
    chunks := Table.insertAll (chunks.map fun c => (c.2, cas.encrypt (nonces c.2) c.1)) ∅ }

/-- The end of `put`: the object is checked against the options and indexed. -/
def indexObject (plaintext : Bytes) (options : PutOptions) (existing : ArtifactContract) (s : Store) : Operation ArtifactRefV1 :=
  match ensureArtifactContract existing plaintext.length options.mediaType options.storageClass options.requiredReplicas with
  | .error e => .fail e
  | .ok () =>
    match indexArtifactInTransaction existing.artifact options.requiredReplicas s.index with
    | .error e => .fail e
    | .ok ix => ⟨[Effect.commit ix], .ok existing.artifact⟩

/-- `put` from the point where no usable object is in place. -/
def publishArtifact (createdAt : Int) (nonces : Nat → Nonce) (plaintext : Bytes) (options : PutOptions) (s : Store) :
    Operation ArtifactRefV1 :=
  match ensureStorageCapacity cas.limits options.storageClass plaintext.length (sha256Digest cas plaintext) s.index with
  | .error e => .fail e
  | .ok () =>
    let effects := [Effect.publish (sha256Digest cas plaintext) (stage cas createdAt nonces plaintext options)]
    let published := storeEffects.applyAll effects s
    match verifyObject cas (sha256Digest cas plaintext) published with
    | .error e => ⟨effects, .error e⟩
    | .ok committed => (indexObject plaintext options committed published).after effects

/-- `put`. -/
def put (createdAt : Int) (nonces : Nat → Nonce) (plaintext : Bytes) (options : PutOptions) (s : Store) :
    Operation ArtifactRefV1 :=
  if options.storageClass = .«protected» ∧ options.requiredReplicas < 2 then .fail .protectedRequiresReplication
  else if (AList.lookup (sha256Digest cas plaintext) s.objects).isSome then
    match verifyObject cas (sha256Digest cas plaintext) s with
    | .ok existing => indexObject plaintext options existing s
    | .error e =>
      if isRepairableObjectError e then
        (publishArtifact cas createdAt nonces plaintext options
          (Effect.apply (.quarantine (sha256Digest cas plaintext)) s)).after [Effect.quarantine (sha256Digest cas plaintext)]
      else .fail e
  else publishArtifact cas createdAt nonces plaintext options s

end

/-! ## How a session is begun -/

section

variable {cas : CasStore} {now : Int} {spec : ResumablePutSpec} {count : Nat} {ix : Index}

theorem SessionState.eq_active_of_ne {st : SessionState} (h : st ≠ .complete) : st = .active := by
  cases st with
  | active => rfl
  | complete => exact absurd rfl h

/-- Which sessions are begun in which way. -/
theorem beginLocked_ok {b : Begun} (h : beginLocked cas now spec count ix = .ok b) :
    (∃ existing, AList.lookup spec.sessionId ix.sessions = some existing ∧
      ensureSessionContract existing spec count = .ok () ∧ existing.state = .complete ∧ b = .complete) ∨
    (∃ existing, AList.lookup spec.sessionId ix.sessions = some existing ∧
      ensureSessionContract existing spec count = .ok () ∧ existing.state = .active ∧
      ensureEpochIsCurrent spec.authorityScope spec.fencingEpoch ix = .ok () ∧ isBoundTo existing spec = true ∧
      b = .unchanged) ∨
    ∃ session taken, acceptAuthorityInTransaction spec.authorityScope spec.fencingEpoch spec.authorityNonce
        (timestampMillis spec.expiresAt) (timestampMillis now) ix = .ok taken ∧
      b = .accepted { taken with sessions := AList.insert spec.sessionId session taken.sessions } ∧
      ((AList.lookup spec.sessionId ix.sessions = none ∧ session = newSession spec count) ∨
        ∃ existing, AList.lookup spec.sessionId ix.sessions = some existing ∧
          ensureSessionContract existing spec count = .ok () ∧ existing.state = .active ∧
          session = renewSession existing spec) := by
  unfold beginLocked at h
  -- by whether the session is known, then complete, then bound to this lease
  split at h
  · rename_i existing hexisting
    split at h
    · cases h
    rename_i hcontract
    split at h
    · rename_i hcomplete
      exact Or.inl ⟨existing, hexisting, hcontract, hcomplete, (Except.ok.inj h).symm⟩
    rename_i hactive
    replace hactive := SessionState.eq_active_of_ne hactive
    split at h
    · rename_i hbound
      cases he : ensureEpochIsCurrent spec.authorityScope spec.fencingEpoch ix with
      | error e => rw [he] at h; cases h
      | ok _ =>
        rw [he] at h
        exact Or.inr (Or.inl ⟨existing, hexisting, hcontract, hactive, rfl, hbound, (Except.ok.inj h).symm⟩)
    · cases ha : acceptAuthorityInTransaction spec.authorityScope spec.fencingEpoch spec.authorityNonce
        (timestampMillis spec.expiresAt) (timestampMillis now) ix with
      | error e => rw [ha] at h; cases h
      | ok taken =>
        rw [ha] at h
        exact Or.inr (Or.inr ⟨_, taken, rfl, (Except.ok.inj h).symm,
          Or.inr ⟨existing, hexisting, hcontract, hactive, rfl⟩⟩)
  · rename_i hnone
    split at h
    · cases h
    cases ha : acceptAuthorityInTransaction spec.authorityScope spec.fencingEpoch spec.authorityNonce
        (timestampMillis spec.expiresAt) (timestampMillis now) ix with
    | error e => rw [ha] at h; cases h
    | ok taken =>
      rw [ha] at h
      exact Or.inr (Or.inr ⟨_, taken, rfl, (Except.ok.inj h).symm, Or.inl ⟨hnone, rfl⟩⟩)

end

end Rampage.Storage
