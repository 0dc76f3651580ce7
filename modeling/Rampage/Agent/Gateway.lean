/-
The artifact gateway of a worker: what `serve_worker_gateway` does with a transfer request on its store. Each request
is checked (peer, header, the Governor's signature, the lease) and then begins, stores, commits or reads under the
epoch of its lease. The state records, beside the store, which authorities were accepted and which replica receipts
were signed. `stale_lease_is_fenced` is the fence: below an accepted epoch no request succeeds and none is signed for,
unless its session is complete already.
-/
import Rampage.Lib.Handler
import Rampage.Protocol.Storage
import Rampage.Storage.Fence
import Rampage.Storage.Scenario

namespace Rampage.Agent

open Rampage.Protocol Rampage.Storage

/-! ## The worker -/

/-- A worker: its store, who it is, whom it serves, and the signatures it checks and makes. -/
structure Worker where
  cas : CasStore
  controllerEndpointId : String
  nodeId : Uuid
  /-- `verify_storage_lease_with_key` under the Governor's public key. -/
  verifyStorageLease : StorageLeaseV1 → Bool
  /-- `sign_artifact_replica_receipt` under the worker's key. -/
  signReplicaReceipt : ArtifactReplicaReceiptV1 → String

/-- The store, and what was accepted (scope and epoch) and signed so far. -/
structure Gateway where
  store : Store
  accepted : List (String × Nat)
  signed : List ArtifactReplicaReceiptV1

/-- What a request of a transfer fails with. -/
inductive GatewayError
  | invalidFrame
  | invalidArtifactHeader
  /-- The signature of the lease is not the Governor's. -/
  | denial
  /-- "storage lease is not active for this node" -/
  | leaseNotActive
  | storage (e : StorageError)
  /-- "stored artifact did not match its lease" -/
  | artifactMismatch
  /-- "stored artifact metadata did not match its lease" -/
  | metadataMismatch
deriving DecidableEq

/-- A request acts on the gateway or fails. -/
abbrev Serve (α : Type) := Handler Gateway GatewayError α

/-- The clock readings and random values a request draws. -/
structure Draws where
  activeAt : Int
  acceptedAt : Int
  storedAt : Int
  createdAt : Int
  verifiedAt : Int
  nonce : Nonce
  receiptId : Uuid

/-- A request as it comes in on a connection: the peer, the header if it parses, and the bytes after it. -/
structure Incoming where
  peer : String
  header : Option ArtifactTransferRequestV2
  body : Bytes

/-- `ArtifactOperationResult`. -/
structure ArtifactOperationResult where
  requestId : Uuid
  artifact : Option ArtifactRefV1
  progress : Option ArtifactTransferProgressV1
  chunkIndex : Option Nat
  chunkDigest : Option String
  replicaReceipt : Option ArtifactReplicaReceiptV1
  payload : Bytes

/-- What `write_artifact_response` sends, with the error instead of its text. -/
structure ArtifactTransferResponseV2 where
  requestId : Uuid
  status : Nat
  artifact : Option ArtifactRefV1
  progress : Option ArtifactTransferProgressV1
  chunkIndex : Option Nat
  chunkDigest : Option String
  replicaReceipt : Option ArtifactReplicaReceiptV1
  payload : Bytes
  error : Option GatewayError

/-- `Uuid::simple`: 32 lower-case hexadecimal digits. -/
def simple (u : Uuid) : String := String.ofList ((List.range 32).map fun i => Nat.digitChar (u.toNat / 16 ^ (31 - i) % 16))

/-- `resumable_spec`. -/
def resumableSpec (request : ArtifactTransferRequestV2) : ResumablePutSpec where
  sessionId := simple request.sessionId
  leaseId := simple request.lease.leaseId
  authorityScope := "governor"
  fencingEpoch := request.lease.fencingEpoch
  authorityNonce := request.lease.nonce
  expiresAt := request.lease.expiresAt
  digest := request.lease.digest
  sizeBytes := request.lease.sizeBytes
  mediaType := request.mediaType
  storageClass := request.lease.storageClass
  requiredReplicas := if request.lease.storageClass = .«protected» then 2 else 1
  chunkSize := request.chunkSize

/-- `transfer_progress`. -/
def transferProgress (sessionId : Uuid) (status : ResumablePutStatus) : ArtifactTransferProgressV1 where
  schema := ArtifactTransferProgressV1.schemaName
  sessionId := sessionId
  digest := status.digest
  sizeBytes := status.sizeBytes
  chunkSize := status.chunkSize
  chunkCount := status.chunkCount
  receivedChunks := status.receivedChunks
  missingChunks := status.missingChunks
  complete := status.complete

section

variable (w : Worker)

/-! ## Calls of the store -/

/-- The authority a begun transfer has consumed, if it was not complete or unchanged. -/
def beginAuthority (now : Int) (spec : ResumablePutSpec) (s : Store) : List (String × Nat) :=
  match beginArrive now spec with
  | .error _ => []
  | .ok count =>
    match beginLocked w.cas now spec count s.index with
    | .ok (.accepted _) => [(spec.authorityScope, spec.fencingEpoch)]
    | _ => []

/-- A call of the store that accepts the given authorities. -/
def perform {α : Type} (operation : Store → Operation α) (authorities : Store → List (String × Nat)) : Serve α := fun g =>
  let plan := operation g.store
  (plan.result.mapError .storage,
    { g with store := storeEffects.applyAll plan.effects g.store, accepted := g.accepted ++ authorities g.store })

/-- A reading call of the store. -/
def readStore {α : Type} (f : Store → Except StorageError α) : Serve α := fun g => ((f g.store).mapError .storage, g)

/-- `store.begin_resumable_put(..)?`. -/
def beginPut (now : Int) (spec : ResumablePutSpec) : Serve ResumablePutStatus :=
  perform (beginResumablePut w.cas now spec) (beginAuthority w now spec)

/-- `store.put_resumable_chunk(..)?`. -/
def putChunk (now : Int) (nonce : Nonce) (sessionId : String) (index : Nat) (digest : String) (payload : Bytes) :
    Serve ResumablePutStatus :=
  perform (putResumableChunk w.cas now nonce sessionId index digest payload) fun _ => []

/-- `store.commit_resumable_put(..)?`. -/
def commitPut (now createdAt : Int) (sessionId : String) : Serve ArtifactRefV1 :=
  perform (commitResumablePut w.cas now createdAt sessionId) fun _ => []

/-- `store.accept_authority("governor", ..)?`. -/
def acceptLease (now : Int) (lease : StorageLeaseV1) : Serve Unit :=
  perform (acceptAuthority now "governor" lease.fencingEpoch lease.nonce lease.expiresAt) fun s =>
    match (acceptAuthority now "governor" lease.fencingEpoch lease.nonce lease.expiresAt s).result with
    | .ok () => [("governor", lease.fencingEpoch)]
    | .error _ => []

/-- `signed_replica_receipt`. -/
def signedReplicaReceipt (request : ArtifactTransferRequestV2) (d : Draws) : Serve ArtifactReplicaReceiptV1 := fun g =>
  let unsigned : ArtifactReplicaReceiptV1 :=
    { schema := ArtifactReplicaReceiptV1.schemaName
      receiptId := d.receiptId
      sessionId := request.sessionId
      leaseId := request.lease.leaseId
      nodeId := w.nodeId
      digest := request.lease.digest
      sizeBytes := request.lease.sizeBytes
      storageClass := request.lease.storageClass
      challengeNonce := request.challengeNonce
      verifiedAt := d.verifiedAt
      expiresAt := d.verifiedAt + minutes 10
      fencingEpoch := request.lease.fencingEpoch
      signature := "" }
  let receipt := { unsigned with signature := w.signReplicaReceipt unsigned }
  (.ok receipt, { g with signed := g.signed ++ [receipt] })

/-! ## Requests -/

/-- `read_artifact_request`. -/
def readArtifactRequest (incoming : Incoming) : Except GatewayError (ArtifactTransferRequestV2 × Bytes) :=
  match incoming.header with
  | none => .error .invalidFrame
  | some request =>
    if request.isValid = false then .error .invalidArtifactHeader
    else if request.action ≠ .putChunk then .ok (request, [])
    else if incoming.body.length < request.payloadSize then .error .invalidFrame
    else .ok (request, incoming.body.take request.payloadSize)

/-- The lease is the Governor's, for this node and active. -/
def checkLease (d : Draws) (request : ArtifactTransferRequestV2) : Except GatewayError Unit :=
  if w.verifyStorageLease request.lease = false then .error .denial
  else if request.lease.nodeId = w.nodeId ∧ request.lease.isActiveAt d.activeAt request.lease.fencingEpoch = true then .ok ()
  else .error .leaseNotActive

/-- The answer of `Begin` and `Status`. -/
def serveBegin (d : Draws) (request : ArtifactTransferRequestV2) : Serve ArtifactOperationResult := do
  let status ← beginPut w d.acceptedAt (resumableSpec request)
  return ⟨request.requestId, none, some (transferProgress request.sessionId status), none, none, none, []⟩

/-- The branch for a chunk; the session is opened again first. -/
def servePutChunk (d : Draws) (request : ArtifactTransferRequestV2) (payload : Bytes) : Serve ArtifactOperationResult := do
  let _ ← beginPut w d.acceptedAt (resumableSpec request)
  -- `is_valid` has checked that both are there
  let index := request.chunkIndex.getD 0
  let digest := request.chunkDigest.getD ""
  let status ← putChunk w d.storedAt d.nonce (simple request.sessionId) index digest payload
  return ⟨request.requestId, none, some (transferProgress request.sessionId status), some index, some digest, none, []⟩

/-- The branch for the end of a transfer; the receipt is signed here. -/
def serveCommit (d : Draws) (request : ArtifactTransferRequestV2) : Serve ArtifactOperationResult := do
  let _ ← beginPut w d.acceptedAt (resumableSpec request)
  let artifact ← commitPut w d.storedAt d.createdAt (simple request.sessionId)
  Handler.ensure (artifact.digest = request.lease.digest ∧ artifact.sizeBytes = request.lease.sizeBytes) .artifactMismatch
  let receipt ← signedReplicaReceipt w request d
  let status ← readStore (resumablePutStatus (simple request.sessionId))
  return ⟨request.requestId, some artifact, some (transferProgress request.sessionId status), none, none, some receipt, []⟩

/-- The branch for a chunk of a stored artifact. -/
def serveGetChunk (d : Draws) (request : ArtifactTransferRequestV2) : Serve ArtifactOperationResult := do
  acceptLease d.acceptedAt request.lease
  let stored ← readStore (head w.cas request.lease.digest)
  Handler.ensure (stored.storageClass = request.lease.storageClass ∧ stored.sizeBytes = request.lease.sizeBytes) .metadataMismatch
  let index := request.chunkIndex.getD 0
  let chunk ← readStore (getChunk w.cas request.lease.digest index)
  return ⟨request.requestId, some stored, none, some index, some (sha256Digest w.cas chunk), none, chunk⟩

/-- The branch for a stored artifact as a whole; a receipt is signed once it is verified. -/
def serveHead (d : Draws) (request : ArtifactTransferRequestV2) : Serve ArtifactOperationResult := do
  acceptLease d.acceptedAt request.lease
  let stored ← readStore (verify w.cas request.lease.digest)
  Handler.ensure (stored.storageClass = request.lease.storageClass ∧ stored.sizeBytes = request.lease.sizeBytes) .metadataMismatch
  let receipt ← signedReplicaReceipt w request d
  return ⟨request.requestId, some stored, none, none, none, some receipt, []⟩

/-- One checked request. -/
def serveAction (d : Draws) (request : ArtifactTransferRequestV2) (payload : Bytes) : Serve ArtifactOperationResult :=
  match request.action with
  | .begin | .status => serveBegin w d request
  | .putChunk => servePutChunk w d request payload
  | .commit => serveCommit w d request
  | .getChunk => serveGetChunk w d request
  | .head => serveHead w d request

/-- One request on the artifact protocol. -/
def serveRequest (d : Draws) (incoming : Incoming) : Serve ArtifactOperationResult := do
  let (request, payload) ← Handler.ofExcept (readArtifactRequest incoming)
  Handler.ofExcept (checkLease w d request)
  serveAction w d request payload

/-- The response to a request. -/
def artifactResponse (requestId : Uuid) : Except GatewayError ArtifactOperationResult → ArtifactTransferResponseV2
  | .ok r => ⟨r.requestId, 200, r.artifact, r.progress, r.chunkIndex, r.chunkDigest, r.replicaReceipt, r.payload, none⟩
  | .error e => ⟨requestId, 400, none, none, none, none, none, [], some e⟩

/-! ## Runs -/

/-- A request, or a call of the store by another part of the worker (job and model leases are accepted in the same
scope). -/
inductive Input
  | request (d : Draws) (incoming : Incoming)
  | store (op : Op)

/-- The authority a call of the store accepts. -/
def opAuthority (s : Store) : Op → List (String × Nat)
  | .begin now spec => beginAuthority w now spec s
  | .acceptAuthority now scope epoch nonce expiresAt =>
    match (acceptAuthority now scope epoch nonce expiresAt s).result with
    | .ok () => [(scope, epoch)]
    | .error _ => []
  | _ => []

/-- A connection of another peer is closed; otherwise the request is answered. -/
def gatewayStep : Input → Gateway → Option ArtifactTransferResponseV2 × Gateway
  | .request d incoming, g =>
    if incoming.peer ≠ w.controllerEndpointId then (none, g)
    else
      let requestId := match readArtifactRequest incoming with
        | .ok (request, _) => request.requestId
        | .error _ => 0
      let (result, g) := serveRequest w d incoming g
      (some (artifactResponse requestId result), g)
  | .store op, g =>
    (none, { g with store := (Storage.step w.cas op g.store).2, accepted := g.accepted ++ opAuthority w g.store op })

/-- The worker's gateway under requests and time. -/
def gateway : Machine Gateway Input (Option ArtifactTransferResponseV2) := ⟨gatewayStep w⟩

/-- No lease has been seen, over a store. -/
def Gateway.initial (s : Store) : Gateway := ⟨s, [], []⟩

end

/-! ## Accepted authorities stay on record -/

/-- The fence of every accepted authority is at its epoch or above. -/
def Covered (g : Gateway) : Prop :=
  ∀ scope epoch, (scope, epoch) ∈ g.accepted → ∃ f, AList.lookup scope g.store.index.fences = some f ∧ epoch ≤ f

/-- No fence is lowered and what is accepted is covered. -/
structure Advances (g g' : Gateway) : Prop where
  raised : Raised g.store.index.fences g'.store.index.fences
  covered : Covered g → Covered g'

instance : Std.Refl Advances := ⟨fun _ => ⟨Raised.refl _, id⟩⟩

instance : IsTrans Gateway Advances := ⟨fun _ _ _ h h' => ⟨h.raised.trans h'.raised, fun hc => h'.covered (h.covered hc)⟩⟩

/-- A call whose authorities are under the fences it leaves. -/
theorem advances_step {g : Gateway} {store : Store} {authorities : List (String × Nat)} {signed : List ArtifactReplicaReceiptV1}
    (h : Raised g.store.index.fences store.index.fences)
    (hnew : ∀ a ∈ authorities, ∃ f, AList.lookup a.1 store.index.fences = some f ∧ a.2 ≤ f) :
    Advances g ⟨store, g.accepted ++ authorities, signed⟩ := by
  refine ⟨h, ?_⟩
  intro hc scope epoch hmem
  rcases List.mem_append.1 hmem with hmem | hmem
  · obtain ⟨f, hf, hle⟩ := hc scope epoch hmem
    obtain ⟨f', hf', hle'⟩ := h scope f hf
    exact ⟨f', hf', Nat.le_trans hle hle'⟩
  · exact hnew _ hmem

section

variable {w : Worker}

/-- The authority a begun transfer consumed is under the fence. -/
theorem covered_begin {now : Int} {spec : ResumablePutSpec} {s : Store} :
    ∀ a ∈ beginAuthority w now spec s, ∃ f,
      AList.lookup a.1 (storeEffects.applyAll (beginResumablePut w.cas now spec s).effects s).index.fences = some f ∧ a.2 ≤ f := by
  intro a ha
  unfold beginAuthority at ha
  split at ha
  · cases ha
  rename_i count harrive
  split at ha
  · rename_i ix hb
    obtain rfl := List.mem_singleton.1 ha
    have heffects : (beginResumablePut w.cas now spec s).effects = [.commit ix, .createTransferDir spec.sessionId] := by
      unfold beginResumablePut
      rw [harrive]
      dsimp only
      rw [hb]
      rfl
    rw [heffects]
    rcases beginLocked_ok hb with ⟨_, _, _, _, hx⟩ | ⟨_, _, _, _, _, _, hx⟩ | ⟨session, taken, haccept, hx, _⟩
    · cases hx
    · cases hx
    · cases hx
      exact (raised_accept haccept).2
  · cases ha

/-- An accepted authority is under the fence. -/
theorem covered_accept {now : Int} {scope nonce : String} {epoch : Nat} {expiresAt : Int} {s : Store}
    (h : (acceptAuthority now scope epoch nonce expiresAt s).result = .ok ()) : ∃ f,
      AList.lookup scope (storeEffects.applyAll (acceptAuthority now scope epoch nonce expiresAt s).effects s).index.fences = some f ∧
        epoch ≤ f := by
  unfold acceptAuthority at h ⊢
  split at h
  · cases h
  split at h
  · cases h
  rename_i ix hix
  exact (raised_accept hix).2

theorem keeps_beginPut (now : Int) (spec : ResumablePutSpec) : Handler.Keeps Advances (beginPut w now spec) := by
  intro g
  exact advances_step (@raised_op w.cas g.store (.begin now spec)) covered_begin

theorem keeps_putChunk (now : Int) (nonce : Nonce) (sid : String) (i : Nat) (d : String) (p : Bytes) :
    Handler.Keeps Advances (putChunk w now nonce sid i d p) := by
  intro g
  exact advances_step (@raised_op w.cas g.store (.putChunk now nonce sid i d p)) fun a ha => (by cases ha)

theorem keeps_commitPut (now createdAt : Int) (sid : String) : Handler.Keeps Advances (commitPut w now createdAt sid) := by
  intro g
  exact advances_step (@raised_op w.cas g.store (.commit now createdAt sid)) fun a ha => (by cases ha)

theorem keeps_acceptLease (cas : CasStore) (now : Int) (lease : StorageLeaseV1) : Handler.Keeps Advances (acceptLease now lease) := by
  intro g
  refine advances_step (@raised_op cas g.store (.acceptAuthority now "governor" lease.fencingEpoch lease.nonce lease.expiresAt)) ?_
  intro a ha
  dsimp only at ha
  split at ha
  · rename_i hok
    obtain rfl := List.mem_singleton.1 ha
    exact covered_accept hok
  · cases ha

theorem keeps_readStore {α : Type} (f : Store → Except StorageError α) : Handler.Keeps Advances (readStore f) :=
  fun g => refl_of Advances g

theorem keeps_signedReplicaReceipt (request : ArtifactTransferRequestV2) (d : Draws) :
    Handler.Keeps Advances (signedReplicaReceipt w request d) :=
  fun _ => ⟨Raised.refl _, id⟩

/-- Every checked request keeps the fences and what they cover. -/
theorem keeps_serveAction (d : Draws) (request : ArtifactTransferRequestV2) (payload : Bytes) :
    Handler.Keeps Advances (serveAction w d request payload) := by
  have hbegin : Handler.Keeps Advances (serveBegin w d request) :=
    .bind (keeps_beginPut _ _) fun _ => .pure _
  unfold serveAction
  cases request.action with
  | begin => exact hbegin
  | status => exact hbegin
  | putChunk => exact .bind (keeps_beginPut _ _) fun _ => .bind (keeps_putChunk _ _ _ _ _ _) fun _ => .pure _
  | commit =>
    exact .bind (keeps_beginPut _ _) fun _ => .bind (keeps_commitPut _ _ _) fun _ => .bind (.ensure _ _) fun _ =>
      .bind (keeps_signedReplicaReceipt _ _) fun _ => .bind (keeps_readStore _) fun _ => .pure _
  | getChunk =>
    exact .bind (keeps_acceptLease w.cas _ _) fun _ => .bind (keeps_readStore _) fun _ => .bind (.ensure _ _) fun _ =>
      .bind (keeps_readStore _) fun _ => .pure _
  | head =>
    exact .bind (keeps_acceptLease w.cas _ _) fun _ => .bind (keeps_readStore _) fun _ => .bind (.ensure _ _) fun _ =>
      .bind (keeps_signedReplicaReceipt _ _) fun _ => .pure _

theorem keeps_serveRequest (d : Draws) (incoming : Incoming) : Handler.Keeps Advances (serveRequest w d incoming) :=
  .bind (.ofExcept _) fun _ => .bind (.ofExcept _) fun _ => keeps_serveAction _ _ _

/-- Every step of the gateway. -/
theorem advances_gatewayStep (i : Input) (g : Gateway) : Advances g (gatewayStep w i g).2 := by
  cases i with
  | request d incoming =>
    unfold gatewayStep
    dsimp only
    split
    · exact refl_of Advances g
    · exact keeps_serveRequest d incoming g
  | store op =>
    refine advances_step (@raised_op w.cas g.store op) ?_
    intro a ha
    cases op with
    | begin now spec => exact covered_begin a ha
    | acceptAuthority now scope epoch nonce expiresAt =>
      unfold opAuthority at ha
      dsimp only at ha
      split at ha
      · rename_i hok
        obtain rfl := List.mem_singleton.1 ha
        exact covered_accept hok
      · cases ha
    | _ => cases ha

/-- After every run, what was accepted is under the fences. -/
theorem covered_run (inputs : List Input) (s : Store) : Covered ((gateway w).exec inputs (Gateway.initial s)) := by
  refine (gateway w).state_invariant (C := fun _ _ => True) (fun g i hg _ => (advances_gatewayStep i g).covered hg) inputs ?_
    ((gateway w).meets_of_forall (fun _ _ => trivial) _ _)
  intro scope epoch hmem
  cases hmem

/-! ## The fence -/

/-- The action opens the session of the transfer before anything else. -/
def opensSession : ArtifactTransferActionV2 → Bool
  | .begin | .status | .putChunk | .commit => true
  | .getChunk | .head => false

/-- No request of the controller under an active lease below the fence opens a session that is complete with the
request's contract. -/
def avoidsComplete (w : Worker) (g : Gateway) : Input → Bool
  | .store _ => true
  | .request d incoming =>
    match incoming.header with
    | none => true
    | some request =>
      !(incoming.peer == w.controllerEndpointId && (checkLease w d request).isOk && opensSession request.action &&
        isFenced "governor" request.lease.fencingEpoch g.store && isCompleteFor (resumableSpec request) g.store)

/-- A call that is refused changes nothing in the store. -/
theorem perform_fail {α : Type} {operation : Store → Operation α} {authorities : Store → List (String × Nat)} {g : Gateway}
    {e : StorageError} (h : operation g.store = .fail e) :
    perform operation authorities g = (.error (.storage e), { g with accepted := g.accepted ++ authorities g.store }) := by
  unfold perform
  rw [h]
  rfl

/-- The first call of a stale request fails: nothing is answered or signed. -/
theorem serveAction_fenced {d : Draws} {request : ArtifactTransferRequestV2} {payload : Bytes} {g : Gateway}
    (h : isFenced "governor" request.lease.fencingEpoch g.store = true)
    (hc : opensSession request.action = true → isCompleteFor (resumableSpec request) g.store = false) :
    ∃ e g', serveAction w d request payload g = (.error e, g') ∧ g'.signed = g.signed := by
  have hbegin (ho : opensSession request.action = true) :
      ∃ e g', beginPut w d.acceptedAt (resumableSpec request) g = (.error e, g') ∧ g'.signed = g.signed := by
    obtain ⟨e, he⟩ := @begin_fenced w.cas g.store d.acceptedAt (resumableSpec request) h (hc ho)
    exact ⟨.storage e, _, perform_fail he, rfl⟩
  have haccept : ∃ e g', acceptLease d.acceptedAt request.lease g = (.error e, g') ∧ g'.signed = g.signed := by
    obtain ⟨e, he⟩ := @acceptAuthority_fenced g.store d.acceptedAt "governor" request.lease.nonce request.lease.fencingEpoch
      request.lease.expiresAt h
    exact ⟨.storage e, _, perform_fail he, rfl⟩
  obtain ⟨e', g₂, ha, hsa⟩ := haccept
  unfold serveAction
  -- what opens the session fails there, and a download fails where the lease is accepted
  cases haction : request.action with
  | getChunk => exact ⟨e', g₂, Handler.bind_of_error ha, hsa⟩
  | head => exact ⟨e', g₂, Handler.bind_of_error ha, hsa⟩
  | begin | status | putChunk | commit =>
    obtain ⟨e, g₁, hb, hsb⟩ := hbegin (by rw [haction]; rfl)
    exact ⟨e, g₁, Handler.bind_of_error hb, hsb⟩

/-- A stale request is answered with an error and no receipt is signed for it. -/
theorem serveRequest_fenced {d : Draws} {incoming : Incoming} {request : ArtifactTransferRequestV2} {g : Gateway}
    (hr : incoming.header = some request) (h : isFenced "governor" request.lease.fencingEpoch g.store = true)
    (hc : (checkLease w d request).isOk = true → opensSession request.action = true →
      isCompleteFor (resumableSpec request) g.store = false) :
    ∃ e g', serveRequest w d incoming g = (.error e, g') ∧ g'.signed = g.signed := by
  unfold serveRequest
  cases hread : readArtifactRequest incoming with
  | error e => exact ⟨e, g, Handler.bind_of_error rfl, rfl⟩
  | ok parsed =>
    obtain ⟨parsed, payload⟩ := parsed
    -- what was read is the header
    obtain rfl : parsed = request := by
      unfold readArtifactRequest at hread
      rw [hr] at hread
      dsimp only at hread
      split at hread
      · cases hread
      split at hread
      · cases hread
        rfl
      split at hread
      · cases hread
      · cases hread
        rfl
    cases hlease : checkLease w d parsed with
    | error e =>
      refine ⟨e, g, ?_, rfl⟩
      rw [Handler.bind_of_ok (rfl : Handler.ofExcept (.ok (parsed, payload)) g = (.ok (parsed, payload), g))]
      dsimp only
      rw [hlease]
      exact Handler.bind_of_error rfl
    | ok u =>
      obtain ⟨e, g', hserve, hsigned⟩ := @serveAction_fenced w d parsed payload g h (hc (by rw [hlease]; rfl))
      refine ⟨e, g', ?_, hsigned⟩
      rw [Handler.bind_of_ok (rfl : Handler.ofExcept (.ok (parsed, payload)) g = (.ok (parsed, payload), g))]
      dsimp only
      rw [hlease]
      exact (Handler.bind_of_ok rfl).trans hserve

end

/-- In every run in which no stale transfer request opens a session that is complete with its contract: once an authority
of epoch `e` was accepted in the storage scope, a request under a lower epoch does not succeed, whatever it asks for, and
no replica receipt is signed for it. -/
theorem stale_lease_is_fenced (w : Worker) (s : Store) (inputs : List Input) (d : Draws) (incoming : Incoming)
    (request : ArtifactTransferRequestV2) (e : Nat)
    (hm : (gateway w).Meets (fun g i => avoidsComplete w g i = true) (inputs ++ [.request d incoming]) (Gateway.initial s))
    (he : ("governor", e) ∈ ((gateway w).exec inputs (Gateway.initial s)).accepted) (hr : incoming.header = some request)
    (hlt : request.lease.fencingEpoch < e) :
    let g := (gateway w).exec inputs (Gateway.initial s)
    (∀ response, (gatewayStep w (.request d incoming) g).1 = some response →
      response.status = 400 ∧ response.replicaReceipt = none) ∧
      (gatewayStep w (.request d incoming) g).2.signed = g.signed := by
  intro g
  obtain ⟨f, hf, hle⟩ := covered_run inputs s "governor" e he
  have hfenced : isFenced "governor" request.lease.fencingEpoch g.store = true := by
    unfold isFenced
    rw [hf]
    simp only [Option.any_some, decide_eq_true_eq]
    omega
  have hlast : avoidsComplete w g (.request d incoming) = true := ((Machine.meets_append _ _ _ _ _).1 hm).2.1
  unfold gatewayStep
  dsimp only
  split
  · refine ⟨?_, rfl⟩
    intro response hresponse
    cases hresponse
  · rename_i hpeer
    have hcomplete : (checkLease w d request).isOk = true → opensSession request.action = true →
        isCompleteFor (resumableSpec request) g.store = false := by
      intro hlease hopens
      simpa [avoidsComplete, hr, hfenced, not_not.1 hpeer, hlease, hopens] using hlast
    obtain ⟨err, g', hserve, hsigned⟩ := @serveRequest_fenced w d incoming request g hr hfenced hcomplete
    rw [hserve]
    refine ⟨?_, hsigned⟩
    intro response hresponse
    cases hresponse
    exact ⟨rfl, rfl⟩

/-! ## A run -/

section

open Scenario

/-- A lease of epoch 1 to store the artifact of one byte. -/
def staleLease : StorageLeaseV1 where
  schema := StorageLeaseV1.schemaName
  leaseId := 5
  nodeId := 7
  digest := sha256Digest Scenario.cas [1]
  operation := .put
  storageClass := .cache
  sizeBytes := 1
  issuedAt := 0
  expiresAt := millis 1000
  nonce := "n1"
  fencingEpoch := 1
  signature := "signed"

/-- The Governor has signed this lease. -/
def worker : Worker where
  cas := Scenario.cas
  controllerEndpointId := "controller"
  nodeId := 7
  verifyStorageLease := fun lease => lease = staleLease
  signReplicaReceipt := fun _ => "receipt"

/-- A transfer request under the lease. -/
def staleRequest (action : ArtifactTransferActionV2) : ArtifactTransferRequestV2 where
  schema := ArtifactTransferRequestV2.schemaName
  requestId := 9
  sessionId := 1
  lease := staleLease
  mediaType := "application/octet-stream"
  action := action
  chunkSize := artifactTransferChunkBytes
  chunkIndex := if action = .putChunk then some 0 else none
  chunkDigest := if action = .putChunk then some (sha256Digest Scenario.cas [1]) else none
  payloadSize := if action = .putChunk then 1 else 0
  challengeNonce := "challenge"

/-- The request as it comes in from the controller. -/
def incomingStale (action : ArtifactTransferActionV2) : Incoming := ⟨"controller", some (staleRequest action), [1]⟩

/-- Every clock reads 0. -/
def draws : Draws := ⟨0, 0, 0, 0, 0, nonce 0, 11⟩

/-- A job lease of epoch 2 is accepted. -/
def acceptNewer : Input := .store (.acceptAuthority 0 "governor" 2 "n2" (millis 1000))

theorem stale_lease_is_fenced_begin :
    ("governor", 2) ∈ ((gateway worker).exec [acceptNewer] (Gateway.initial Store.empty)).accepted ∧
      ∀ response, (gatewayStep worker (.request draws (incomingStale .begin))
        ((gateway worker).exec [acceptNewer] (Gateway.initial Store.empty))).1 = some response →
          response.status = 400 ∧ response.replicaReceipt = none := by
  have haccepted : ("governor", 2) ∈ ((gateway worker).exec [acceptNewer] (Gateway.initial Store.empty)).accepted := by
    decide +kernel
  refine ⟨haccepted, ?_⟩
  exact (stale_lease_is_fenced worker Store.empty [acceptNewer] draws (incomingStale .begin) (staleRequest .begin) 2
    (by decide +kernel) haccepted rfl (by decide)).1

/-- The transfer was completed under epoch 1, then epoch 2 was accepted: a request that begins the session again under
epoch 1 succeeds, and one that commits it succeeds with a signed receipt of epoch 1. -/
theorem stale_lease_succeeds_on_complete_session :
    let g := (gateway worker).exec [.request draws (incomingStale .putChunk), .request draws (incomingStale .commit), acceptNewer]
      (Gateway.initial Store.empty)
    ("governor", 2) ∈ g.accepted ∧ (staleRequest .commit).lease.fencingEpoch = 1 ∧
      ((gatewayStep worker (.request draws (incomingStale .begin)) g).1.map (·.status)) = some 200 ∧
      ((gatewayStep worker (.request draws (incomingStale .commit)) g).1.map (·.status)) = some 200 ∧
      ((gatewayStep worker (.request draws (incomingStale .commit)) g).1.bind (·.replicaReceipt)).map (·.fencingEpoch) = some 1 ∧
      (gatewayStep worker (.request draws (incomingStale .commit)) g).2.signed.length = g.signed.length + 1 := by
  decide +kernel

end

end Rampage.Agent
