/-
The data of the content-addressed store and the checks on it: limits, transfer contracts, manifests,
and the arithmetic of chunks. The code outside the repository that the store relies on (SHA-256,
AES-256-GCM and the size of a printed manifest) and the settings it is opened with are a parameter,
`CasStore`, with the laws the store uses.
-/
import Rampage.Lib.Hex
import Rampage.Lib.Saturating
import Rampage.Protocol.Contracts

namespace Rampage.Storage

open Rampage.Protocol

/-- A slice of bytes. -/
abbrev Bytes := List UInt8

/-- The nonce of AES-256-GCM. -/
abbrev Nonce := { b : Bytes // b.length = 12 }

/-- The plaintext of a stored chunk, in bytes; the last one may be smaller. -/
def defaultChunkSize : Nat := 4 * 1024 * 1024

/-- The largest manifest that is read. -/
def maxManifestBytes : Nat := 1024 * 1024

/-- The largest chunk file that is read: a chunk with its tag. -/
def maxEncryptedChunkBytes : Nat := defaultChunkSize + 64

/-- The chunk of a transfer, the same as of the store. -/
def resumableChunkSize : Nat := defaultChunkSize

/-- `DateTime::timestamp_millis`, of an instant in nanoseconds. -/
def timestampMillis (t : Int) : Int := t / 1000000

/-! ## Data -/

/-- The budgets of the three storage classes. -/
structure StorageLimits where
  cacheBytes : Nat
  scratchBytes : Nat
  protectedBytes : Nat
deriving DecidableEq

/-- `StorageLimits::for_class`. -/
def StorageLimits.forClass (l : StorageLimits) : StorageClass → Nat
  | .cache => l.cacheBytes
  | .scratch => l.scratchBytes
  | .«protected» => l.protectedBytes

/-- What a transfer session is opened with, from the storage lease. -/
structure ResumablePutSpec where
  sessionId : String
  leaseId : String
  authorityScope : String
  fencingEpoch : Nat
  authorityNonce : String
  expiresAt : Int
  digest : String
  sizeBytes : Nat
  mediaType : String
  storageClass : StorageClass
  requiredReplicas : Nat
  chunkSize : Nat
deriving DecidableEq

/-- What the session has and what it lacks. -/
structure ResumablePutStatus where
  sessionId : String
  digest : String
  sizeBytes : Nat
  chunkSize : Nat
  chunkCount : Nat
  receivedChunks : List Nat
  missingChunks : List Nat
  complete : Bool
deriving DecidableEq

/-- How many chunks an artifact is served in. -/
structure ArtifactChunkLayout where
  digest : String
  sizeBytes : Nat
  chunkCount : Nat
deriving DecidableEq

/-- What `put` keeps with an artifact. -/
structure PutOptions where
  mediaType : String
  storageClass : StorageClass
  requiredReplicas : Nat
deriving DecidableEq

/-- A chunk file: its nonce, and the digest of what is on disk. -/
structure ChunkRecord where
  index : Nat
  nonce : String
  plaintextSize : Nat
  ciphertextDigest : String
deriving DecidableEq

/-- The record of a stored artifact: its contract and its chunk files. -/
structure Manifest where
  schema : String
  plaintextDigest : String
  plaintextSize : Nat
  mediaType : String
  storageClass : StorageClass
  requiredReplicas : Nat
  createdAt : Int
  chunks : List ChunkRecord
deriving DecidableEq

/-- What the index keeps of an artifact. -/
structure ArtifactContract where
  artifact : ArtifactRefV1
  requiredReplicas : Nat
deriving DecidableEq

/-- The kinds of I/O errors the store tells apart. -/
inductive IoErrorKind
  | notFound | unexpectedEof | invalidData | other
deriving DecidableEq

/-- What an operation of the store fails with. -/
inductive StorageError
  | io (kind : IoErrorKind)
  | manifest
  | invalidManifest
  | crypto
  | notFound (digest : String)
  | digestMismatch
  | artifactConflict
  | storageQuotaExceeded
  | invalidDigest
  | protectedRequiresReplication
  | invalidAuthority
  | expiredAuthority
  | replayedAuthorityNonce
  | staleFencingEpoch (current supplied : Nat)
  | invalidTransfer
  | transferNotFound (sessionId : String)
  | transferConflict
  | transferExpired
  | chunkOutOfRange
  | chunkSizeMismatch
  | chunkDigestMismatch
  | transferIncomplete
deriving DecidableEq

/-! ## The store's parameters -/

/-- The primitives the store is built on, with the laws it relies on, and its limits. -/
structure CasStore where
  sha256 : Bytes → Bytes
  sha256_length : ∀ b, (sha256 b).length = 32
  encrypt : Nonce → Bytes → Bytes
  decrypt : Nonce → Bytes → Option Bytes
  decrypt_encrypt : ∀ n p, decrypt n (encrypt n p) = some p
  /-- A ciphertext is the plaintext's length and a tag of 16 bytes. -/
  encrypt_length : ∀ n p, (encrypt n p).length = p.length + 16
  /-- The number of bytes `serde_json::to_vec_pretty` prints. -/
  manifestSize : Manifest → Nat
  limits : Option StorageLimits

variable (cas : CasStore)

/-- `sha256_hex`. -/
def sha256Hex (b : Bytes) : String := Hex.encode (cas.sha256 b)

/-- `sha256_digest`. -/
def sha256Digest (b : Bytes) : String := String.ofList (digestPrefix ++ Hex.digits (cas.sha256 b))

/-- `decode_nonce`. -/
def decodeNonce (encoded : String) : Except StorageError Nonce :=
  match Hex.decode encoded with
  | some b => if h : b.length = 12 then .ok ⟨b, h⟩ else .error .crypto
  | none => .error .crypto

/-- `is_repairable_object_error`. -/
def isRepairableObjectError : StorageError → Bool
  | .digestMismatch => true
  | .invalidManifest => true
  | .manifest => true
  | .notFound _ => true
  | .io .notFound => true
  | .io .unexpectedEof => true
  | .io .invalidData => true
  | _ => false

/-! ## Chunk arithmetic -/

/-- `chunk_count`. -/
def chunkCount (sizeBytes chunkSize : Nat) : Except StorageError Nat :=
  if sizeBytes = 0 ∨ chunkSize = 0 then .error .invalidTransfer
  else if 2 ^ 32 ≤ U64.divCeil sizeBytes chunkSize then .error .invalidTransfer
  else .ok (U64.divCeil sizeBytes chunkSize)

/-- `expected_chunk_size`. -/
def expectedChunkSize (sizeBytes chunkSize index : Nat) : Except StorageError Nat :=
  match chunkCount sizeBytes chunkSize with
  | .error e => .error e
  | .ok count =>
    if count ≤ index then .error .chunkOutOfRange
    else .ok (min (sizeBytes - index * chunkSize) chunkSize)

/-! ## Contracts -/

/-- A lower-case hexadecimal session id of 32 digits. -/
def isSessionId (s : String) : Bool := s.utf8ByteSize == 32 && isLowerHex s.toList

/-- A name that is not empty, not over `max` bytes and ASCII. -/
def isBoundedAscii (max : Nat) (s : String) : Bool := s != "" && s.utf8ByteSize ≤ max && isAscii s

/-- `validate_resumable_spec`. -/
def validateResumableSpec (spec : ResumablePutSpec) : Except StorageError Unit :=
  if !isBoundedAscii 128 spec.leaseId || !isBoundedAscii 128 spec.authorityScope ||
      !isBoundedAscii 128 spec.authorityNonce || !isBoundedAscii 255 spec.mediaType ||
      spec.sizeBytes == 0 || maxArtifactTransferBytes < spec.sizeBytes ||
      spec.chunkSize == 0 || resumableChunkSize < spec.chunkSize || spec.requiredReplicas == 0 ||
      (spec.storageClass == .«protected» && spec.requiredReplicas < 2) then .error .invalidTransfer
  else if isSessionId spec.sessionId = false then .error .invalidTransfer
  else (chunkCount spec.sizeBytes spec.chunkSize).map fun _ => ()

/-- `object_dir`: the digest names a directory. -/
def objectDir (digest : String) : Except StorageError Unit :=
  if isSha256Digest digest then .ok () else .error .invalidDigest

/-- `transfer_dir`: the session id names a directory. -/
def transferDir (sessionId : String) : Except StorageError Unit :=
  if isSessionId sessionId then .ok () else .error .invalidTransfer

/-- `artifact_contract_from_manifest`. -/
def artifactContractFromManifest (digest : String) (m : Manifest) : ArtifactContract :=
  ⟨⟨"rampage.artifact-ref.v1", digest, m.plaintextSize, m.mediaType, m.storageClass, true⟩, m.requiredReplicas⟩

/-- `ensure_artifact_contract`. -/
def ensureArtifactContract (existing : ArtifactContract) (sizeBytes : Nat) (mediaType : String)
    (storageClass : StorageClass) (requiredReplicas : Nat) : Except StorageError Unit :=
  if existing.artifact.sizeBytes ≠ sizeBytes ∨ existing.artifact.mediaType ≠ mediaType ∨
      existing.artifact.storageClass ≠ storageClass ∨ existing.requiredReplicas ≠ requiredReplicas then
    .error .artifactConflict
  else .ok ()

/-! ## Manifests -/

/-- The schema a manifest carries. -/
def Manifest.schemaName : String := "rampage.cas-manifest.v1"

/-- The fields of a manifest other than its chunks. -/
def Manifest.headerIsValid (expectedDigest : String) (m : Manifest) : Bool :=
  m.schema == schemaName && m.plaintextDigest == expectedDigest && m.plaintextSize ≤ maxArtifactTransferBytes &&
    isBoundedAscii 255 m.mediaType && m.requiredReplicas != 0 &&
    !(m.storageClass == .«protected» && m.requiredReplicas < 2) && (m.plaintextSize == 0) == m.chunks.isEmpty

/-- The nonce and the digest of a record are hexadecimal text of the right length. -/
def ChunkRecord.textIsValid (c : ChunkRecord) : Bool :=
  c.nonce.utf8ByteSize == 24 && isLowerHex c.nonce.toList && c.ciphertextDigest.utf8ByteSize == 64 &&
    isLowerHex c.ciphertextDigest.toList

/-- The loop of `validate_manifest` over the chunks from `index` on, of `count` chunks in all; the answer is the
sum of the sizes. -/
def validateChunks (plaintextSize nominal count : Nat) : Nat → Nat → List ChunkRecord → Except StorageError Nat
  | _, total, [] => .ok total
  | index, total, chunk :: rest =>
    if plaintextSize < total then .error .invalidManifest
    else if index + 1 = count ∧ nominal < plaintextSize - total then .error .invalidManifest
    else if chunk.index ≠ index % 2 ^ 32 ∨ chunk.plaintextSize = 0 ∨
        chunk.plaintextSize ≠ (if index + 1 = count then plaintextSize - total else nominal) ∨
        chunk.textIsValid = false then .error .invalidManifest
    else if 2 ^ 64 ≤ total + chunk.plaintextSize then .error .invalidManifest
    else validateChunks plaintextSize nominal count (index + 1) (total + chunk.plaintextSize) rest

/-- The size of the first chunk. -/
def Manifest.nominalChunkSize (m : Manifest) : Nat := (m.chunks.head?.map (·.plaintextSize)).getD 0

/-- `validate_manifest`. -/
def validateManifest (expectedDigest : String) (m : Manifest) : Except StorageError Unit :=
  if m.headerIsValid expectedDigest = false then .error .invalidManifest
  else if defaultChunkSize < m.nominalChunkSize then .error .invalidManifest
  else
    match validateChunks m.plaintextSize m.nominalChunkSize m.chunks.length 0 0 m.chunks with
    | .error e => .error e
    | .ok total => if total ≠ m.plaintextSize then .error .invalidManifest else .ok ()

/-! ## Digests -/

variable {cas}

theorem sha256Hex_inj {a b : Bytes} : sha256Hex cas a = sha256Hex cas b ↔ cas.sha256 a = cas.sha256 b :=
  Hex.encode_injective.eq_iff

theorem sha256Digest_inj {a b : Bytes} : sha256Digest cas a = sha256Digest cas b ↔ cas.sha256 a = cas.sha256 b := by
  unfold sha256Digest
  rw [String.ofList_inj, List.append_cancel_left_eq]
  constructor
  · intro h
    exact Hex.encode_injective (congrArg String.ofList h)
  · exact congrArg Hex.digits

theorem isLowerHex_digits (b : Bytes) : isLowerHex (Hex.digits b) = true := by
  rw [isLowerHex, List.all_eq_true]
  intro c hc
  have := Hex.digits_range b c hc
  simp only [isLowerHexChar, Bool.or_eq_true, Bool.and_eq_true, decide_eq_true_eq]
  exact this

/-- The content address of any bytes is well formed. -/
theorem isSha256Digest_sha256Digest (b : Bytes) : isSha256Digest (sha256Digest cas b) = true := by
  refine isSha256Digest_of_hex ?_ (isLowerHex_digits _)
  rw [Hex.length_digits, cas.sha256_length]

/-- `decode_nonce` reads back what `hex::encode` wrote. -/
theorem decodeNonce_encode (n : Nonce) : decodeNonce (Hex.encode n.1) = .ok n := by
  rw [decodeNonce, Hex.decode_encode]
  simp [n.2]

end Rampage.Storage
