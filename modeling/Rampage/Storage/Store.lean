/-
The state of a store: the SQLite index and the directories under its root, the effects by which the
operations change them, and the reading operations. A directory holds chunk files and a manifest; a
manifest file is the JSON of a manifest or bytes that do not parse, such as a torn write. Left out are the
temporary and quarantined files, which no operation reads, and the time stamps of the index.
-/
import Rampage.Lib.Plan
import Rampage.Lib.Table
import Rampage.Storage.Basic

namespace Rampage.Storage

open Rampage.Protocol

/-! ## State -/

/-- What `manifest.json` holds. -/
inductive Document
  | json (m : Manifest)
  | malformed (size : Nat)
deriving DecidableEq

/-- A transfer or object directory: `manifest.json` and the chunk files by index. -/
structure Dir where
  manifest : Option Document
  chunks : Table Nat Bytes
deriving DecidableEq

/-- A directory without files. -/
def Dir.empty : Dir := ⟨none, ∅⟩

/-- A row of `artifacts`. -/
structure ArtifactRow where
  sizeBytes : Nat
  mediaType : String
  storageClass : StorageClass
  requiredReplicas : Nat
deriving DecidableEq

/-- A session takes chunks until it is complete. -/
inductive SessionState
  | active | complete
deriving DecidableEq

/-- A row of `resumable_put_sessions`. -/
structure DurablePutSession where
  leaseId : String
  authorityScope : String
  fencingEpoch : Nat
  authorityNonce : String
  expiresAtMillis : Int
  digest : String
  sizeBytes : Nat
  mediaType : String
  storageClass : StorageClass
  requiredReplicas : Nat
  chunkSize : Nat
  chunkCount : Nat
  state : SessionState
deriving DecidableEq

/-- A row of `resumable_put_chunks`. -/
structure ChunkRow where
  plaintextSize : Nat
  plaintextDigest : String
  nonce : String
  ciphertextDigest : String
deriving DecidableEq

/-- The SQLite index. -/
structure Index where
  artifacts : Table String ArtifactRow
  fences : Table String Nat
  nonces : Table (String × String) Int
  sessions : Table String DurablePutSession
  chunks : Table (String × Nat) ChunkRow
deriving DecidableEq

/-- The index and the directories: objects by digest, transfers by session id. -/
structure Store where
  index : Index
  objects : Table String Dir
  transfers : Table String Dir
deriving DecidableEq

/-- `open_with_limits` on an empty root. -/
def Store.empty : Store := ⟨⟨∅, ∅, ∅, ∅, ∅⟩, ∅, ∅⟩

/-- The files of a directory, none if it does not exist. -/
def dirOf (t : Table String Dir) (name : String) : Dir := (AList.lookup name t).getD .empty

/-- The files of a transfer. -/
def Store.transfer (s : Store) (sessionId : String) : Dir := dirOf s.transfers sessionId

/-! ## Effects -/

/-- The durable effects of the operations. -/
inductive Effect
  /-- A transaction commits. -/
  | commit (index : Index)
  | createTransferDir (sessionId : String)
  | removeChunk (sessionId : String) (i : Nat)
  | renameChunk (sessionId : String) (i : Nat) (ciphertext : Bytes)
  | writeManifest (sessionId : String) (m : Manifest)
  /-- The transfer directory is renamed to the object directory. -/
  | promote (sessionId digest : String)
  /-- A staged directory is renamed to the object directory. -/
  | publish (digest : String) (dir : Dir)
  | quarantine (digest : String)

/-- What an effect does when it is carried out in full. -/
def Effect.apply : Effect → Store → Store
  | .commit index, s => { s with index := index }
  | .createTransferDir sid, s => { s with transfers := AList.insert sid (s.transfer sid) s.transfers }
  | .removeChunk sid i, s =>
    { s with transfers := AList.insert sid { s.transfer sid with chunks := AList.erase i (s.transfer sid).chunks } s.transfers }
  | .renameChunk sid i c, s =>
    { s with transfers := AList.insert sid { s.transfer sid with chunks := AList.insert i c (s.transfer sid).chunks } s.transfers }
  | .writeManifest sid m, s =>
    { s with transfers := AList.insert sid { s.transfer sid with manifest := some (.json m) } s.transfers }
  | .promote sid digest, s =>
    { s with objects := AList.insert digest (s.transfer sid) s.objects, transfers := AList.erase sid s.transfers }
  | .publish digest dir, s => { s with objects := AList.insert digest dir s.objects }
  | .quarantine digest, s => { s with objects := AList.erase digest s.objects }

/-- An effect that is cut: only a write can be, and leaves a manifest that does not parse. -/
def Effect.cut : Effect → Nat → Store → Store
  | .writeManifest sid _, n, s =>
    { s with transfers := AList.insert sid { s.transfer sid with manifest := some (.malformed n) } s.transfers }
  | _, _, s => s

/-- The effects of the store, with how a crash can cut them. -/
def storeEffects : Effects Store := ⟨Effect, Effect.apply, Effect.cut⟩

/-- A planned operation of the store. -/
abbrev Operation (α : Type) := Plan storeEffects StorageError α

/-! ## Reading objects -/

/-- `read_regular_file_bounded`. -/
def readRegularFileBounded (file : Option Bytes) (max : Nat) : Except StorageError Bytes :=
  match file with
  | none => .error (.io .notFound)
  | some b => if max < b.length then .error .invalidManifest else .ok b

variable (cas : CasStore)

/-- A manifest file read within its bound and parsed. -/
def readDocument : Document → Except StorageError Manifest
  | .json m => if maxManifestBytes < cas.manifestSize m then .error .invalidManifest else .ok m
  | .malformed n => if maxManifestBytes < n then .error .invalidManifest else .error .manifest

/-- `read_manifest`. -/
def readManifest (digest : String) (s : Store) : Except StorageError Manifest :=
  match objectDir digest with
  | .error e => .error e
  | .ok () =>
    match (dirOf s.objects digest).manifest with
    | none => .error (.notFound digest)
    | some d =>
      match readDocument cas d with
      | .error e => .error e
      | .ok m => (validateManifest digest m).map fun _ => m

/-- One chunk file of a directory, authenticated and decrypted. -/
def openChunk (dir : Dir) (r : ChunkRecord) : Except StorageError Bytes :=
  match readRegularFileBounded (AList.lookup r.index dir.chunks) maxEncryptedChunkBytes with
  | .error e => .error e
  | .ok c =>
    if sha256Hex cas c ≠ r.ciphertextDigest then .error .digestMismatch
    else
      match decodeNonce r.nonce with
      | .error e => .error e
      | .ok n =>
        match cas.decrypt n c with
        | none => .error .crypto
        | some p => if p.length ≠ r.plaintextSize then .error .digestMismatch else .ok p

/-- The loop of `get` over the chunks. -/
def readChunks (dir : Dir) : List ChunkRecord → Except StorageError Bytes
  | [] => .ok []
  | r :: rest =>
    match openChunk cas dir r with
    | .error e => .error e
    | .ok p =>
      match readChunks dir rest with
      | .error e => .error e
      | .ok q => .ok (p ++ q)

/-- The loop of `verify_object` over the chunks, with the plaintext so far. -/
def verifyChunks (dir : Dir) : Bytes → List ChunkRecord → Except StorageError Bytes
  | plaintext, [] => .ok plaintext
  | plaintext, r :: rest =>
    match openChunk cas dir r with
    | .error e => .error e
    | .ok p =>
      if 2 ^ 64 ≤ plaintext.length + p.length then .error .invalidManifest
      else verifyChunks dir (plaintext ++ p) rest

/-- `verify_object`. -/
def verifyObject (digest : String) (s : Store) : Except StorageError ArtifactContract :=
  match readManifest cas digest s with
  | .error e => .error e
  | .ok m =>
    match verifyChunks cas (dirOf s.objects digest) [] m.chunks with
    | .error e => .error e
    | .ok plaintext =>
      if sha256Digest cas plaintext ≠ digest ∨ plaintext.length ≠ m.plaintextSize then .error .digestMismatch
      else .ok (artifactContractFromManifest digest m)

/-- `get`. -/
def get (digest : String) (s : Store) : Except StorageError Bytes :=
  match readManifest cas digest s with
  | .error e => .error e
  | .ok m =>
    match readChunks cas (dirOf s.objects digest) m.chunks with
    | .error e => .error e
    | .ok plaintext =>
      if sha256Digest cas plaintext ≠ digest ∨ sha256Digest cas plaintext ≠ m.plaintextDigest then .error .digestMismatch
      else .ok plaintext

/-- `head`. -/
def head (digest : String) (s : Store) : Except StorageError ArtifactRefV1 :=
  match readManifest cas digest s with
  | .error e => .error e
  | .ok m =>
    match AList.lookup digest s.index.artifacts with
    | none => .error (.notFound digest)
    | some row =>
      (ensureArtifactContract (artifactContractFromManifest digest m) row.sizeBytes row.mediaType row.storageClass
        row.requiredReplicas).map fun _ => (artifactContractFromManifest digest m).artifact

/-- `verify`. -/
def verify (digest : String) (s : Store) : Except StorageError ArtifactRefV1 :=
  match verifyObject cas digest s with
  | .error e => .error e
  | .ok verified => (head cas digest s).map fun _ => verified.artifact

/-- `chunk_layout`. -/
def chunkLayout (digest : String) (s : Store) : Except StorageError ArtifactChunkLayout :=
  (readManifest cas digest s).map fun m => ⟨m.plaintextDigest, m.plaintextSize, m.chunks.length % 2 ^ 32⟩

/-- `get_chunk`. -/
def getChunk (digest : String) (index : Nat) (s : Store) : Except StorageError Bytes :=
  match readManifest cas digest s with
  | .error e => .error e
  | .ok m =>
    match m.chunks[index]?.filter (·.index = index) with
    | none => .error .chunkOutOfRange
    | some r => openChunk cas (dirOf s.objects digest) r

end Rampage.Storage
