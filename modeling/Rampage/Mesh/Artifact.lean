/-
The controller's end of an artifact transfer. Every call sends one request over a connection of its own and checks the
answer against it: the schema, the request it answers, the bound on the payload, the status. What is at the other end is a
parameter: a `Peer` takes a request and answers with anything, or not at all.
-/
import Rampage.Lib.Handler
import Rampage.Lib.Saturating
import Rampage.Protocol.Storage

namespace Rampage.Protocol

/-- `ArtifactTransferProgressV1::is_valid`. -/
def ArtifactTransferProgressV1.isValid (p : ArtifactTransferProgressV1) : Bool :=
  p.schema == schemaName && p.sessionId != 0 && isSha256Digest p.digest && decide (0 < p.sizeBytes) &&
    decide (p.sizeBytes ≤ maxArtifactTransferBytes) && p.chunkSize == artifactTransferChunkBytes &&
    p.chunkCount == (if U64.divCeil p.sizeBytes p.chunkSize < 2 ^ 32 then U64.divCeil p.sizeBytes p.chunkSize else 0) &&
    (p.receivedChunks ++ p.missingChunks).all fun index => decide (index < p.chunkCount)

/-- What a worker answers a request of a transfer; the chunk is the payload. -/
structure ArtifactTransferResponseV2 where
  schema : String
  requestId : Uuid
  status : Nat
  artifact : Option ArtifactRefV1
  progress : Option ArtifactTransferProgressV1
  chunkIndex : Option Nat
  chunkDigest : Option String
  payloadSize : Nat
  replicaReceipt : Option ArtifactReplicaReceiptV1
  error : Option String
deriving DecidableEq

/-- `ArtifactTransferResponseV2::SCHEMA`. -/
def ArtifactTransferResponseV2.schemaName : String := "rampage.artifact-transfer-response.v2"

end Rampage.Protocol

namespace Rampage.Mesh

open Rampage.Protocol Handler

/-- What can go wrong in a transfer. -/
inductive TransferError
  /-- No connection, or one that ends too early, or a header that cannot be written or read. -/
  | connection
  /-- "artifact transfer header is invalid or too large" -/
  | invalidArtifactHeader
  /-- "artifact payload size does not match its lease" -/
  | artifactSizeMismatch
  /-- "mesh response did not match the request" -/
  | mismatchedResponse
  /-- "artifact peer rejected the transfer: " and the peer's reason -/
  | artifactRejected (reason : String)
deriving DecidableEq

/-- What comes back for a request: the header of the response and the bytes after it, if there is one. -/
abbrev Answer := Option (ArtifactTransferResponseV2 × List UInt8)

/-- The other end of the protocol, with a state of its own: it is given where the request goes, the request and its
payload. -/
abbrev Peer (P : Type) := MeshEndpointRecordV1 → ArtifactTransferRequestV2 → List UInt8 → P → Answer × P

/-- A request acts on the peer or fails. -/
abbrev Exchange (P α : Type) := Handler P TransferError α

variable {P : Type} (peer : Peer P)

/-- `artifact_request` once the request is sent: the checks of the answer. -/
def readAnswer (request : ArtifactTransferRequestV2) : Answer → Except TransferError (ArtifactTransferResponseV2 × List UInt8)
  | none => .error .connection
  | some (response, rest) =>
    if response.schema ≠ ArtifactTransferResponseV2.schemaName ∨ response.requestId ≠ request.requestId ∨
        artifactTransferChunkBytes < response.payloadSize then .error .mismatchedResponse
    else if response.status < 200 ∨ 300 ≤ response.status then
      .error (.artifactRejected (response.error.getD "unknown error"))
    else if rest.length < response.payloadSize then .error .connection
    else .ok (response, rest.take response.payloadSize)

/-- The bytes that follow the header of a request: `expected_request_payload`. -/
def expectedRequestPayload (request : ArtifactTransferRequestV2) : Nat :=
  if request.action = .putChunk then request.payloadSize else 0

/-- `artifact_request`. -/
def artifactRequest (destination : MeshEndpointRecordV1) (request : ArtifactTransferRequestV2) (payload : List UInt8) :
    Exchange P (ArtifactTransferResponseV2 × List UInt8) := fun p =>
  if request.isValid = false then (.error .invalidArtifactHeader, p)
  else if payload.length ≠ expectedRequestPayload request then (.error .artifactSizeMismatch, p)
  else
    let answer := peer destination request payload p
    (readAnswer request answer.1, answer.2)

/-- What all requests of one transfer share. -/
structure ArtifactTransferContext where
  destination : MeshEndpointRecordV1
  lease : StorageLeaseV1
  mediaType : String
  sessionId : Uuid
  challengeNonce : String

/-- The request of a context: what all five calls have in common. -/
def ArtifactTransferContext.request (context : ArtifactTransferContext) (requestId : Uuid) (action : ArtifactTransferActionV2)
    (chunkIndex : Option Nat) (chunkDigest : Option String) (payloadSize : Nat) : ArtifactTransferRequestV2 where
  schema := ArtifactTransferRequestV2.schemaName
  requestId := requestId
  sessionId := context.sessionId
  lease := context.lease
  mediaType := context.mediaType
  action := action
  chunkSize := artifactTransferChunkBytes
  chunkIndex := chunkIndex
  chunkDigest := chunkDigest
  payloadSize := payloadSize
  challengeNonce := context.challengeNonce

/-- The value is there. -/
def required {α : Type} : Option α → Exchange P α
  | some a => pure a
  | none => fail .invalidArtifactHeader

/-- `artifact_put`. -/
def artifactPut (context : ArtifactTransferContext) (requestId : Uuid) : Exchange P ArtifactTransferProgressV1 := do
  ensure (context.lease.operation = .put) .invalidArtifactHeader
  let response ← artifactRequest peer context.destination (context.request requestId .begin none none 0) []
  ensure response.2.isEmpty .artifactSizeMismatch
  required response.1.progress

/-- `artifact_put_chunk`. -/
def artifactPutChunk (context : ArtifactTransferContext) (requestId : Uuid) (chunkIndex : Nat) (chunkDigest : String)
    (chunk : List UInt8) : Exchange P ArtifactTransferProgressV1 := do
  ensure (context.lease.operation = .put) .invalidArtifactHeader
  let response ← artifactRequest peer context.destination
    (context.request requestId .putChunk (some chunkIndex) (some chunkDigest) chunk.length) chunk
  ensure response.2.isEmpty .artifactSizeMismatch
  required response.1.progress

/-- The artifact and the receipt of a response. -/
def artifactAndReceipt (response : ArtifactTransferResponseV2) : Exchange P (ArtifactRefV1 × ArtifactReplicaReceiptV1) := do
  let artifact ← required response.artifact
  let receipt ← required response.replicaReceipt
  return (artifact, receipt)

/-- `artifact_commit`. -/
def artifactCommit (context : ArtifactTransferContext) (requestId : Uuid) :
    Exchange P (ArtifactRefV1 × ArtifactReplicaReceiptV1) := do
  ensure (context.lease.operation = .put) .invalidArtifactHeader
  let response ← artifactRequest peer context.destination (context.request requestId .commit none none 0) []
  ensure response.2.isEmpty .artifactSizeMismatch
  artifactAndReceipt response.1

/-- `artifact_head`. -/
def artifactHead (context : ArtifactTransferContext) (requestId : Uuid) :
    Exchange P (ArtifactRefV1 × ArtifactReplicaReceiptV1) := do
  ensure (context.lease.operation = .get) .invalidArtifactHeader
  let response ← artifactRequest peer context.destination (context.request requestId .head none none 0) []
  ensure response.2.isEmpty .artifactSizeMismatch
  artifactAndReceipt response.1

/-- `artifact_get_chunk`. -/
def artifactGetChunk (context : ArtifactTransferContext) (requestId : Uuid) (chunkIndex : Nat) :
    Exchange P (ArtifactRefV1 × String × List UInt8) := do
  ensure (context.lease.operation = .get) .invalidArtifactHeader
  let response ← artifactRequest peer context.destination (context.request requestId .getChunk (some chunkIndex) none 0) []
  ensure (response.1.chunkIndex = some chunkIndex ∧ response.1.chunkDigest.isSome = true ∧
    response.1.payloadSize = response.2.length) .artifactSizeMismatch
  let artifact ← required response.1.artifact
  let digest ← required response.1.chunkDigest
  return (artifact, digest, response.2)

/-! ## Answered calls -/

section

variable {peer} {p q : P} {destination : MeshEndpointRecordV1} {request : ArtifactTransferRequestV2} {payload : List UInt8}
  {context : ArtifactTransferContext} {requestId : Uuid}

theorem required_ok {α : Type} {o : Option α} {a : α} (h : required o p = (.ok a, q)) : o = some a ∧ p = q := by
  cases o with
  | none => cases h
  | some b =>
    obtain ⟨rfl, rfl⟩ := pure_ok h
    exact ⟨rfl, rfl⟩

theorem readAnswer_ok {answer : Answer} {r : ArtifactTransferResponseV2 × List UInt8} (h : readAnswer request answer = .ok r) :
    ∃ rest, answer = some (r.1, rest) ∧ r.1.requestId = request.requestId ∧ r.2 = rest.take r.1.payloadSize := by
  rcases answer with _ | ⟨response, rest⟩
  · cases h
  · unfold readAnswer at h
    dsimp only at h
    by_cases hmatches : response.schema ≠ ArtifactTransferResponseV2.schemaName ∨ response.requestId ≠ request.requestId ∨
        artifactTransferChunkBytes < response.payloadSize
    · rw [if_pos hmatches] at h
      cases h
    rw [if_neg hmatches] at h
    by_cases hstatus : response.status < 200 ∨ 300 ≤ response.status
    · rw [if_pos hstatus] at h
      cases h
    rw [if_neg hstatus] at h
    by_cases hrest : rest.length < response.payloadSize
    · rw [if_pos hrest] at h
      cases h
    rw [if_neg hrest] at h
    cases h
    push Not at hmatches
    exact ⟨rest, rfl, hmatches.2.1, rfl⟩

/-- An answer that is read is the peer's answer to this request. -/
theorem artifactRequest_ok {r : ArtifactTransferResponseV2 × List UInt8} (h : artifactRequest peer destination request payload p = (.ok r, q)) :
    request.isValid = true ∧ ∃ rest, peer destination request payload p = (some (r.1, rest), q) ∧
      r.1.requestId = request.requestId ∧ r.2 = rest.take r.1.payloadSize := by
  unfold artifactRequest at h
  split at h
  · cases h
  rename_i hvalid
  split at h
  · cases h
  rw [Prod.mk.injEq] at h
  obtain ⟨hread, rfl⟩ := h
  refine ⟨by simpa using hvalid, ?_⟩
  obtain ⟨rest, hanswer, hid, hbody⟩ := readAnswer_ok hread
  exact ⟨rest, Prod.ext hanswer rfl, hid, hbody⟩

theorem artifactAndReceipt_ok {response : ArtifactTransferResponseV2} {r : ArtifactRefV1 × ArtifactReplicaReceiptV1}
    (h : artifactAndReceipt response p = (.ok r, q)) :
    response.artifact = some r.1 ∧ response.replicaReceipt = some r.2 ∧ p = q := by
  obtain ⟨artifact, p₁, ha, h⟩ := bind_ok h
  obtain ⟨receipt, p₂, hr, h⟩ := bind_ok h
  obtain ⟨hartifact, rfl⟩ := required_ok ha
  obtain ⟨hreceipt, rfl⟩ := required_ok hr
  obtain ⟨rfl, rfl⟩ := pure_ok h
  exact ⟨hartifact, hreceipt, rfl⟩

/-- What a commit answered with is what the peer answered to it. -/
theorem artifactCommit_ok {r : ArtifactRefV1 × ArtifactReplicaReceiptV1} (h : artifactCommit peer context requestId p = (.ok r, q)) :
    ∃ response rest, peer context.destination (context.request requestId .commit none none 0) [] p = (some (response, rest), q) ∧
      response.artifact = some r.1 ∧ response.replicaReceipt = some r.2 := by
  obtain ⟨_, p₁, hput, h⟩ := bind_ok h
  obtain ⟨_, rfl⟩ := ensure_ok hput
  obtain ⟨answer, p₂, hrequest, h⟩ := bind_ok h
  obtain ⟨-, rest, hpeer, -, -⟩ := artifactRequest_ok hrequest
  obtain ⟨_, p₃, hempty, h⟩ := bind_ok h
  obtain ⟨_, rfl⟩ := ensure_ok hempty
  obtain ⟨hartifact, hreceipt, rfl⟩ := artifactAndReceipt_ok h
  exact ⟨answer.1, rest, hpeer, hartifact, hreceipt⟩

/-- What a possession challenge answered with is what the peer answered to it. -/
theorem artifactHead_ok {r : ArtifactRefV1 × ArtifactReplicaReceiptV1} (h : artifactHead peer context requestId p = (.ok r, q)) :
    ∃ response rest, peer context.destination (context.request requestId .head none none 0) [] p = (some (response, rest), q) ∧
      response.artifact = some r.1 ∧ response.replicaReceipt = some r.2 := by
  obtain ⟨_, p₁, hget, h⟩ := bind_ok h
  obtain ⟨_, rfl⟩ := ensure_ok hget
  obtain ⟨answer, p₂, hrequest, h⟩ := bind_ok h
  obtain ⟨-, rest, hpeer, -, -⟩ := artifactRequest_ok hrequest
  obtain ⟨_, p₃, hempty, h⟩ := bind_ok h
  obtain ⟨_, rfl⟩ := ensure_ok hempty
  obtain ⟨hartifact, hreceipt, rfl⟩ := artifactAndReceipt_ok h
  exact ⟨answer.1, rest, hpeer, hartifact, hreceipt⟩

end

/-! ## What every call keeps -/

section

variable {peer} {R : P → P → Prop} [Std.Refl R]

/-- Whatever the call ends with, the peer has taken at most the one request. -/
theorem keeps_artifactRequest {destination : MeshEndpointRecordV1} {request : ArtifactTransferRequestV2} {payload : List UInt8}
    (h : request.isValid = true → ∀ p, R p (peer destination request payload p).2) :
    Keeps R (artifactRequest peer destination request payload) := by
  intro p
  unfold artifactRequest
  split
  · exact refl_of R p
  rename_i hvalid
  split
  · exact refl_of R p
  · exact h (by simpa using hvalid) p

theorem keeps_required {α : Type} (o : Option α) : Keeps R (required o : Exchange P α) := by
  cases o with
  | none => exact Keeps.fail _
  | some a => exact Keeps.pure a

variable [IsTrans P R]

theorem keeps_artifactAndReceipt (response : ArtifactTransferResponseV2) :
    Keeps R (artifactAndReceipt response : Exchange P _) :=
  .bind (keeps_required _) fun _ => .bind (keeps_required _) fun _ => .pure _

variable {context : ArtifactTransferContext} {requestId : Uuid}

theorem keeps_artifactPut
    (h : ∀ request, request = context.request requestId .begin none none 0 → request.isValid = true →
      ∀ p, R p (peer context.destination request [] p).2) : Keeps R (artifactPut peer context requestId) :=
  .bind (.ensure _ _) fun _ => .bind (keeps_artifactRequest (h _ rfl)) fun _ => .bind (.ensure _ _) fun _ => keeps_required _

theorem keeps_artifactPutChunk {chunkIndex : Nat} {chunkDigest : String} {chunk : List UInt8}
    (h : ∀ request, request = context.request requestId .putChunk (some chunkIndex) (some chunkDigest) chunk.length →
      request.isValid = true → ∀ p, R p (peer context.destination request chunk p).2) :
    Keeps R (artifactPutChunk peer context requestId chunkIndex chunkDigest chunk) :=
  .bind (.ensure _ _) fun _ => .bind (keeps_artifactRequest (h _ rfl)) fun _ => .bind (.ensure _ _) fun _ => keeps_required _

theorem keeps_artifactCommit
    (h : ∀ request, request = context.request requestId .commit none none 0 → request.isValid = true →
      ∀ p, R p (peer context.destination request [] p).2) : Keeps R (artifactCommit peer context requestId) :=
  .bind (.ensure _ _) fun _ => .bind (keeps_artifactRequest (h _ rfl)) fun _ => .bind (.ensure _ _) fun _ =>
    keeps_artifactAndReceipt _

theorem keeps_artifactHead
    (h : ∀ request, request = context.request requestId .head none none 0 → request.isValid = true →
      ∀ p, R p (peer context.destination request [] p).2) : Keeps R (artifactHead peer context requestId) :=
  .bind (.ensure _ _) fun _ => .bind (keeps_artifactRequest (h _ rfl)) fun _ => .bind (.ensure _ _) fun _ =>
    keeps_artifactAndReceipt _

theorem keeps_artifactGetChunk {chunkIndex : Nat}
    (h : ∀ request, request = context.request requestId .getChunk (some chunkIndex) none 0 → request.isValid = true →
      ∀ p, R p (peer context.destination request [] p).2) : Keeps R (artifactGetChunk peer context requestId chunkIndex) :=
  .bind (.ensure _ _) fun _ => .bind (keeps_artifactRequest (h _ rfl)) fun _ => .bind (.ensure _ _) fun _ =>
    .bind (keeps_required _) fun _ => .bind (keeps_required _) fun _ => .pure _

end

end Rampage.Mesh
