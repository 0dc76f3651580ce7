/-
On whose word a worker acts. Everything a worker does for others it does under a lease that a peer brings along:
`serve_worker_gateway` checks the signature under the Governor's pinned key before its store or its models are touched, and
`handle_request` before the desktop is. Here the signatures are those of `Governor.Signing`. What was not granted changes
nothing (`worker_serves_granted`), and every input that reaches the desktop was granted as control of that session by a
decision of the Governor about this worker (`remote_input_is_granted`).
-/
import Rampage.Agent.Ollama
import Rampage.Agent.Sessions
import Rampage.Governor.Signing

namespace Rampage.Protocol

/-- `ModelSessionLeaseV1::is_active_at`. -/
def ModelSessionLeaseV1.isActiveAt (lease : ModelSessionLeaseV1) (now : Int) (currentEpoch : Nat) : Bool :=
  lease.schema == ModelSessionLeaseV1.schemaName && leaseHasStarted lease.issuedAt now && now < lease.expiresAt &&
    lease.fencingEpoch == currentEpoch && lease.backend = .localOllama && lease.parallelism = .wholeModel &&
    lease.controllerEndpointId != "" && isAscii lease.controllerEndpointId && !trimIsEmpty lease.modelId &&
    isSha256Digest lease.modelDigest && !trimIsEmpty lease.runtimeDigest && lease.nonce != "" &&
    lease.nonce.utf8ByteSize ≤ 128 && isAscii lease.nonce && 0 < lease.maxPromptBytes &&
    lease.maxPromptBytes ≤ maxModelPromptBytes && 0 < lease.maxOutputTokens &&
    lease.maxOutputTokens ≤ maxModelOutputTokens && lease.signature != ""

end Rampage.Protocol

namespace Rampage.Agent

open Rampage.Protocol Rampage.Governor Rampage.Storage

/-! ## Decisions of the Governor -/

section

variable (calls : List (GovernorConfig × Call))

/-- The Governor has granted the transfer: to the node of an offer that was live and, for an artifact to be stored, had room
for it. -/
def StorageGrant (lease : StorageLeaseV1) : Prop :=
  ∃ config offer, (config, Call.authorizeStorageAtEpoch offer lease.digest lease.sizeBytes lease.storageClass lease.operation
      lease.fencingEpoch lease.issuedAt lease.leaseId lease.nonce) ∈ calls ∧
    config.killed = false ∧ offer.nodeId = lease.nodeId ∧ lease.issuedAt < offer.expiresAt ∧
    lease.expiresAt = lease.issuedAt + seconds (max config.leaseTtlSeconds 1) ∧
    (lease.operation = .put →
      ∃ r ∈ offer.resources, r.cls = storageResource lease.storageClass ∧ lease.sizeBytes ≤ r.available)

/-- The Governor has granted a session with this very model, which the node's live offer lists as installed. -/
def ModelSessionGrant (lease : ModelSessionLeaseV1) : Prop :=
  ∃ config offer runtime model limits, (config, Call.authorizeModelSessionAtEpoch offer runtime model
      lease.controllerEndpointId limits lease.fencingEpoch lease.issuedAt lease.leaseId lease.sessionId lease.nonce) ∈ calls ∧
    config.killed = false ∧ offer.nodeId = lease.nodeId ∧ lease.issuedAt < offer.expiresAt ∧
    lease.expiresAt = lease.issuedAt + seconds (max config.leaseTtlSeconds 1) ∧
    model.modelId = lease.modelId ∧ model.artifactDigest = lease.modelDigest ∧ listsRuntime offer runtime model = true ∧
    limits.isValid = true ∧ limits.maxPromptBytes = lease.maxPromptBytes ∧ limits.maxOutputTokens = lease.maxOutputTokens

/-- The Governor has granted the session in this mode, which the node's live offer advertises. -/
def RemoteDesktopGrant (lease : RemoteDesktopLeaseV1) : Prop :=
  ∃ config offer limits, (config, Call.authorizeRemoteDesktopAtEpoch offer lease.controllerEndpointId lease.sessionId
      lease.mode limits lease.fencingEpoch lease.issuedAt lease.leaseId lease.nonce) ∈ calls ∧
    config.killed = false ∧ offer.nodeId = lease.nodeId ∧ lease.issuedAt < offer.expiresAt ∧
    lease.expiresAt = lease.issuedAt + seconds (max 1 (min config.leaseTtlSeconds maxRemoteDesktopLeaseSeconds)) ∧
    "rampage.remote-assist.v1" ∈ offer.adapters ∧ advertisesRemoteDesktop offer lease.mode = true ∧
    offer.availability.foregroundAllowed = true

end

section

variable {x : SigningCrates} {calls : List (GovernorConfig × Call)} (htime : Function.Injective x.timeText)
include htime

theorem storage_grant {lease : StorageLeaseV1} (h : verifyStorageLeaseWithKey x x.governorKey lease = .ok ()) :
    StorageGrant calls lease ∨ Broken x calls (.storageLease lease) := by
  refine (accepted_was_granted htime calls 0 (.storageLease lease) h).imp_left ?_
  rintro ⟨g, hg, hsame⟩
  cases g with
  | storageLease minted =>
    obtain ⟨config, call, hcall, hrun⟩ := mem_granted.1 hg
    obtain ⟨offer, digest, size, cls, operation, epoch, now, leaseId, nonce, rfl, hminted⟩ := storageLease_of_run hrun
    unfold authorizeStorageAtEpoch at hminted
    split_ifs at hminted with hkilled hexpired hinvalid hroom
    cases hminted
    obtain ⟨⟩ := lease
    simp only [Contract.unsigned, Contract.storageLease.injEq, StorageLeaseV1.mk.injEq] at hsame
    obtain ⟨rfl, rfl, rfl, rfl, rfl, rfl, rfl, rfl, rfl, rfl, rfl, -⟩ := hsame
    have hfits : operation = .put → ∃ r ∈ offer.resources, r.cls = storageResource cls ∧ size ≤ r.available := by
      simpa using hroom
    exact ⟨config, offer, hcall, by simpa using hkilled, rfl, by simpa using hexpired, rfl, hfits⟩
  | _ => cases hsame

theorem model_session_grant {lease : ModelSessionLeaseV1}
    (h : verifyModelSessionLeaseWithKey x x.governorKey lease = .ok ()) :
    ModelSessionGrant calls lease ∨ Broken x calls (.modelSessionLease lease) := by
  refine (accepted_was_granted htime calls 0 (.modelSessionLease lease) h).imp_left ?_
  rintro ⟨g, hg, hsame⟩
  cases g with
  | modelSessionLease minted =>
    obtain ⟨config, call, hcall, hrun⟩ := mem_granted.1 hg
    obtain ⟨offer, runtime, model, controller, limits, epoch, now, leaseId, sessionId, nonce, rfl, hminted⟩ :=
      modelSessionLease_of_run hrun
    unfold authorizeModelSessionAtEpoch at hminted
    split_ifs at hminted with hkilled hexpired hlimits hdenied
    cases hminted
    obtain ⟨⟩ := lease
    simp only [Contract.unsigned, Contract.modelSessionLease.injEq, ModelSessionLeaseV1.mk.injEq] at hsame
    obtain ⟨rfl, rfl, rfl, rfl, rfl, rfl, rfl, rfl, rfl, rfl, rfl, rfl, rfl, rfl, rfl, rfl, -⟩ := hsame
    simp only [not_or] at hdenied
    exact ⟨config, offer, runtime, model, limits, hcall, by simpa using hkilled, rfl, by simpa using hexpired, rfl, rfl, rfl,
      by simpa using hdenied.2.2.2.2.2.2.2.2.2.2.1, by simpa using hlimits, rfl, rfl⟩
  | _ => cases hsame

theorem remote_desktop_grant {lease : RemoteDesktopLeaseV1}
    (h : verifyRemoteDesktopLeaseWithKey x x.governorKey lease = .ok ()) :
    RemoteDesktopGrant calls lease ∨ Broken x calls (.remoteDesktopLease lease) := by
  refine (accepted_was_granted htime calls 0 (.remoteDesktopLease lease) h).imp_left ?_
  rintro ⟨g, hg, hsame⟩
  cases g with
  | remoteDesktopLease minted =>
    obtain ⟨config, call, hcall, hrun⟩ := mem_granted.1 hg
    obtain ⟨offer, controller, sessionId, mode, limits, epoch, now, leaseId, nonce, rfl, hminted⟩ :=
      remoteDesktopLease_of_run hrun
    unfold authorizeRemoteDesktopAtEpoch at hminted
    split_ifs at hminted with hkilled hexpired hlimits hdenied
    cases hminted
    obtain ⟨⟩ := lease
    simp only [Contract.unsigned, Contract.remoteDesktopLease.injEq, RemoteDesktopLeaseV1.mk.injEq] at hsame
    obtain ⟨rfl, rfl, rfl, rfl, rfl, rfl, rfl, rfl, rfl, rfl, rfl, rfl, rfl, -⟩ := hsame
    simp only [not_or, not_not, Bool.not_eq_false] at hdenied
    exact ⟨config, offer, limits, hcall, by simpa using hkilled, rfl, by simpa using hexpired, rfl, hdenied.2.2.2.1,
      hdenied.2.2.2.2.1, hdenied.2.2.2.2.2⟩
  | _ => cases hsame

end

/-! ## The worker's gateway -/

/-- A node of the fabric: its store, its id, the endpoint of its controller and its receipts' signatures. -/
structure Node where
  cas : CasStore
  controllerEndpointId : String
  nodeId : Uuid
  signReplicaReceipt : ArtifactReplicaReceiptV1 → String

/-- The node's artifact gateway under the Governor's key. -/
def Node.artifacts (x : SigningCrates) (n : Node) : Worker where
  cas := n.cas
  controllerEndpointId := n.controllerEndpointId
  nodeId := n.nodeId
  verifyStorageLease lease := (verifyStorageLeaseWithKey x x.governorKey lease).isOk
  signReplicaReceipt := n.signReplicaReceipt

/-- The node's Remote Assist under the Governor's key. -/
def Node.desktop (x : SigningCrates) (n : Node) : RemoteAssist.Worker where
  cas := n.cas
  nodeId := n.nodeId
  controllerEndpointId := n.controllerEndpointId
  verifyRemoteDesktopLease lease := (verifyRemoteDesktopLeaseWithKey x x.governorKey lease).isOk

/-- `verify_local_ollama_model`, of what Ollama answers to `/api/tags`. -/
def verifyLocalOllamaModel (lease : ModelSessionLeaseV1) (payload : Json) : Bool :=
  match payload.get? "models" with
  | some (.arr models) => models.any fun model =>
    let identifier := ((model.get? "model").or (model.get? "name")).bind Json.asStr
    let digest := ((model.get? "digest").bind Json.asStr).map fun value =>
      if value.startsWith "sha256:" then value.map toAsciiLowercase else "sha256:" ++ value.map toAsciiLowercase
    identifier == some lease.modelId && digest == some lease.modelDigest &&
      ((model.get? "size").bind Json.asU64).any (0 < ·)
  | _ => false

/-- What a model session fails with before Ollama is asked. -/
inductive ModelGateError
  /-- The signature of the lease is not the Governor's. -/
  | denial
  /-- "model invocation is outside its signed authority" -/
  | outsideAuthority
  /-- "the leased Ollama model is not installed with the advertised digest" -/
  | notInstalled
  | storage (e : GatewayError)

/-- The clock readings of a model request, and what Ollama answers to `/api/tags`. -/
structure ModelDraws where
  activeAt : Int
  acceptedAt : Int
  tags : Option Json

/-- The gateway of a node, with the model requests that it has run. -/
structure Serving where
  gateway : Gateway
  invoked : List ModelInvocationRequestV1

section

variable (x : SigningCrates) (n : Node)

/-- `serve_model_connection`, of a request that was read, up to `run_ollama_invocation`. -/
def serveModel (d : ModelDraws) (request : ModelInvocationRequestV1) (s : Serving) : Except ModelGateError Unit × Serving :=
  let lease := request.lease
  if (verifyModelSessionLeaseWithKey x x.governorKey lease).isOk = false then (.error .denial, s)
  else if (lease.isActiveAt d.activeAt lease.fencingEpoch && request.isValidFor n.nodeId n.controllerEndpointId) = false then
    (.error .outsideAuthority, s)
  else if d.tags.any (verifyLocalOllamaModel lease) = false then (.error .notInstalled, s)
  else
    let accept := acceptAuthority d.acceptedAt "governor" lease.fencingEpoch lease.nonce lease.expiresAt
    let accepted := fun store => match (accept store).result with
      | .ok () => [("governor", lease.fencingEpoch)]
      | .error _ => []
    match perform accept accepted s.gateway with
    | (.error e, gateway) => (.error (.storage e), { s with gateway := gateway })
    | (.ok (), gateway) => (.ok (), { gateway := gateway, invoked := s.invoked ++ [request] })

/-- What reaches a node's store and models: a transfer request, a model request, or a call of the store by another part of the
worker. -/
inductive Access
  | transfer (d : Draws) (incoming : Incoming)
  | model (d : ModelDraws) (peer : String) (parsed : Option ModelInvocationRequestV1)
  | store (op : Op)

/-- A transfer is answered; of a model request, whether it is run. -/
inductive Answer
  | transfer (response : ArtifactTransferResponseV2)
  | model (invoked : Bool)

/-- The access was carried out. -/
def Answer.isSuccess : Answer → Bool
  | .transfer response => response.status == 200
  | .model invoked => invoked

/-- A connection of another peer than the controller is closed. -/
def servingStep : Access → Serving → Option Answer × Serving
  | .transfer d incoming, s =>
    let (response, gateway) := gatewayStep (n.artifacts x) (.request d incoming) s.gateway
    (response.map .transfer, { s with gateway := gateway })
  | .model d peer parsed, s =>
    if peer ≠ n.controllerEndpointId then (none, s)
    else
      match parsed with
      | none => (some (.model false), s)
      | some request =>
        match serveModel x n d request s with
        | (.ok (), s) => (some (.model true), s)
        | (.error _, s) => (some (.model false), s)
  | .store op, s => (none, { s with gateway := (gatewayStep (n.artifacts x) (.store op) s.gateway).2 })

/-- The worker under requests of every kind. -/
def serving : Machine Serving Access (Option Answer) := ⟨servingStep x n⟩

/-- The contract that an access brings along. -/
def Access.contract : Access → Option Contract
  | .transfer _ incoming => incoming.header.map fun request => .storageLease request.lease
  | .model _ _ parsed => parsed.map fun request => .modelSessionLease request.lease
  | .store _ => none

/-- The access was granted to this node, and comes before the grant expires. Calls of the node's own parts need no grant. -/
def Access.Granted (calls : List (GovernorConfig × Call)) : Access → Prop
  | .transfer d incoming => ∃ request, incoming.header = some request ∧ StorageGrant calls request.lease ∧
      request.lease.nodeId = n.nodeId ∧ d.activeAt < request.lease.expiresAt
  | .model d _ parsed => ∃ request, parsed = some request ∧ ModelSessionGrant calls request.lease ∧
      request.lease.nodeId = n.nodeId ∧ d.activeAt < request.lease.expiresAt
  | .store _ => True

end

section

variable {x : SigningCrates} {n : Node} {calls : List (GovernorConfig × Call)}

/-- A transfer request that fails the checks changes nothing and is not answered with success. -/
theorem serveRequest_of_check {w : Worker} {d : Draws} {incoming : Incoming} {g : Gateway}
    (h : ∀ request payload, readArtifactRequest incoming = .ok (request, payload) → checkLease w d request ≠ .ok ()) :
    ∃ e, serveRequest w d incoming g = (.error e, g) := by
  unfold serveRequest
  cases hread : readArtifactRequest incoming with
  | error e => exact ⟨e, rfl⟩
  | ok r =>
    obtain ⟨request, payload⟩ := r
    cases hcheck : checkLease w d request with
    | ok u => exact absurd hcheck (h request payload hread)
    | error e =>
      refine ⟨e, ?_⟩
      show (Handler.ofExcept (checkLease w d request) >>= fun _ => serveAction w d request payload) g = _
      rw [hcheck]
      rfl

theorem header_of_read {incoming : Incoming} {request : ArtifactTransferRequestV2} {payload : Bytes}
    (h : readArtifactRequest incoming = .ok (request, payload)) : incoming.header = some request := by
  unfold readArtifactRequest at h
  split at h
  · cases h
  · rename_i r hr
    split_ifs at h <;> cases h <;> exact hr

theorem checkLease_ok {w : Worker} {d : Draws} {request : ArtifactTransferRequestV2} (h : checkLease w d request = .ok ()) :
    w.verifyStorageLease request.lease = true ∧ request.lease.nodeId = w.nodeId ∧ d.activeAt < request.lease.expiresAt := by
  unfold checkLease at h
  split_ifs at h with hsigned hactive
  refine ⟨by simpa using hsigned, hactive.1, ?_⟩
  have := hactive.2
  simp only [StorageLeaseV1.isActiveAt, Bool.and_eq_true, decide_eq_true_eq] at this
  omega

/-- A model request that was not granted is refused before the store is asked. -/
theorem serveModel_of_check {d : ModelDraws} {request : ModelInvocationRequestV1} {s : Serving}
    (h : (verifyModelSessionLeaseWithKey x x.governorKey request.lease).isOk = false ∨
      request.lease.nodeId ≠ n.nodeId ∨ request.lease.expiresAt ≤ d.activeAt) :
    ∃ e, serveModel x n d request s = (.error e, s) := by
  unfold serveModel
  dsimp only
  split_ifs with hsigned hactive
  · exact ⟨_, rfl⟩
  · exact ⟨_, rfl⟩
  · exact ⟨_, rfl⟩
  · simp only [Bool.not_eq_false, Bool.and_eq_true] at hactive
    have hnode : request.lease.nodeId = n.nodeId := by
      have := hactive.2
      simp only [ModelInvocationRequestV1.isValidFor, Bool.and_eq_true, beq_iff_eq] at this
      tauto
    have htime : d.activeAt < request.lease.expiresAt := by
      have := hactive.1
      simp only [ModelSessionLeaseV1.isActiveAt, Bool.and_eq_true, decide_eq_true_eq] at this
      tauto
    rcases h with h | h | h
    · exact absurd h hsigned
    · exact absurd hnode h
    · omega

/-- An access that was not granted changes nothing and does not succeed. -/
theorem servingStep_of_not_granted (htime : Function.Injective x.timeText) {a : Access} {s : Serving}
    (ha : ¬ a.Granted n calls) (hsafe : ∀ c, a.contract = some c → ¬ Broken x calls c) :
    (servingStep x n a s).2 = s ∧ ∀ answer, (servingStep x n a s).1 = some answer → answer.isSuccess = false := by
  cases a with
  | store op => exact absurd trivial ha
  | transfer d incoming =>
    -- a lease that passes was granted, so the request was
    have hcheck : ∀ request payload, readArtifactRequest incoming = .ok (request, payload) →
        checkLease (n.artifacts x) d request ≠ .ok () := by
      intro request payload hread hok
      have hheader := header_of_read hread
      obtain ⟨hsigned, hnode, hlive⟩ := checkLease_ok hok
      have hbroken := hsafe (.storageLease request.lease) (by rw [Access.contract, hheader]; rfl)
      exact ha ⟨request, hheader, (storage_grant htime (isOk_iff.1 hsigned)).resolve_right hbroken, hnode, hlive⟩
    obtain ⟨e, he⟩ := @serveRequest_of_check (n.artifacts x) d incoming s.gateway hcheck
    unfold servingStep gatewayStep
    dsimp only
    split_ifs with hpeer
    · exact ⟨rfl, fun answer h => by cases h⟩
    · rw [he]
      refine ⟨rfl, fun answer h => ?_⟩
      cases h
      rfl
  | model d peer parsed =>
    unfold servingStep
    dsimp only
    split_ifs with hpeer
    · exact ⟨rfl, fun answer h => by cases h⟩
    · cases parsed with
      | none =>
        refine ⟨rfl, fun answer h => ?_⟩
        cases h
        rfl
      | some request =>
        have hbroken := hsafe (.modelSessionLease request.lease) rfl
        have hcheck : (verifyModelSessionLeaseWithKey x x.governorKey request.lease).isOk = false ∨
            request.lease.nodeId ≠ n.nodeId ∨ request.lease.expiresAt ≤ d.activeAt := by
          by_contra hpass
          simp only [not_or, Bool.not_eq_false, not_not, not_le] at hpass
          exact ha ⟨request, rfl, (model_session_grant htime (isOk_iff.1 hpass.1)).resolve_right hbroken, hpass.2⟩
        obtain ⟨e, he⟩ := @serveModel_of_check x n d request s hcheck
        dsimp only
        rw [he]
        refine ⟨rfl, fun answer h => ?_⟩
        cases h
        rfl

open Classical in
/-- Whatever is sent to a node: its store and its models end as if only what the Governor has granted had arrived, and only
that succeeds, as long as nothing sent breaks the signatures or the digests. -/
theorem worker_serves_granted (htime : Function.Injective x.timeText) (n : Node) (calls : List (GovernorConfig × Call))
    (accesses : List Access) (s : Serving)
    (hsafe : ∀ a ∈ accesses, ∀ c, a.contract = some c → ¬ Broken x calls c) :
    (serving x n).exec accesses s = (serving x n).exec (accesses.filter (Access.Granted n calls)) s ∧
      ∀ a answer, (a, some answer) ∈ (serving x n).trace accesses s → answer.isSuccess = true → a.Granted n calls := by
  induction accesses generalizing s with
  | nil => exact ⟨rfl, fun a answer h => by cases h⟩
  | cons a rest ih =>
    obtain ⟨hstate, hanswers⟩ := ih (servingStep x n a s).2 fun b hb => hsafe b (List.mem_cons_of_mem _ hb)
    constructor
    · by_cases ha : a.Granted n calls
      · rw [List.filter_cons_of_pos (by simpa using ha)]
        exact hstate
      · rw [List.filter_cons_of_neg (by simpa using ha)]
        have hsame := (servingStep_of_not_granted (s := s) htime ha (hsafe a List.mem_cons_self)).1
        rw [hsame] at hstate
        show (serving x n).exec rest (servingStep x n a s).2 = _
        rw [hsame]
        exact hstate
    · intro b answer hmem hsuccess
      rcases List.mem_cons.1 hmem with heq | hmem
      · obtain ⟨rfl, hanswer⟩ := Prod.mk.inj heq
        by_contra hb
        have := (servingStep_of_not_granted (s := s) htime hb (hsafe b List.mem_cons_self)).2 answer hanswer.symm
        rw [this] at hsuccess
        cases hsuccess
      · exact hanswers b answer hmem hsuccess

end

section

open Governor.Scenario

/-- The offer of node 7. -/
def contributorOffer : ResourceOfferV1 where
  schema := "rampage.resource-offer.v1"
  offerId := 5
  nodeId := 7
  observedAt := 0
  expiresAt := seconds 1000
  resources := []
  availability := ⟨true, none, 100, true, true⟩
  adapters := {"rampage.remote-assist.v1"}
  workloadCapabilities := [{
    schema := "rampage.workload-capability.v1"
    adapter := "rampage.remote-assist.v1"
    operations := {"view", "control"}
    executionPatterns := 1
    resourceClasses := 1
    runtimeDigest := "sha256:0000000000000000000000000000000000000000000000000000000000000000"
    status := .shipped
    qualificationDigest := none }]
  linkBenchmark := none
  meshEndpoint := some signedRoute
  signature := "signature"

/-- A node with the example's store. -/
def contributor : Node where
  cas := Storage.Scenario.cas
  controllerEndpointId := "controller"
  nodeId := 7
  signReplicaReceipt := fun _ => "receipt"

/-- A lease to read an artifact of one byte. -/
def readLease : StorageLeaseV1 where
  schema := StorageLeaseV1.schemaName
  leaseId := 5
  nodeId := 7
  digest := sha256Digest Storage.Scenario.cas [1]
  operation := .get
  storageClass := .cache
  sizeBytes := 1
  issuedAt := 0
  expiresAt := minutes 2
  nonce := "n1"
  fencingEpoch := 1
  signature := Hex.encode (List.replicate 64 0)

/-- The Governor grants it. -/
def readCalls : List (GovernorConfig × Call) :=
  [(.default, .authorizeStorageAtEpoch contributorOffer (sha256Digest Storage.Scenario.cas [1]) 1 .cache .get 1 0 5 "n1")]

theorem readLease_granted : granted crates readCalls = [.storageLease readLease] :=
  granted_singleton rfl

/-- Evidence of the artifact is asked for under this lease. -/
def readRequest : ArtifactTransferRequestV2 where
  schema := ArtifactTransferRequestV2.schemaName
  requestId := 9
  sessionId := 1
  lease := readLease
  mediaType := "application/octet-stream"
  action := .head
  chunkSize := artifactTransferChunkBytes
  chunkIndex := none
  chunkDigest := none
  payloadSize := 0
  challengeNonce := "challenge"

/-- Every clock reads 0. -/
def readDraws : Draws := ⟨0, 0, 0, 0, 0, Storage.Scenario.nonce 0, 3⟩

/-- A frame that does not parse comes in first. -/
def readAccesses : List Access :=
  [.transfer readDraws ⟨"controller", none, []⟩, .transfer readDraws ⟨"controller", some readRequest, []⟩]

open Classical in
theorem worker_serves_granted_read :
    (serving crates contributor).exec readAccesses ⟨Gateway.initial Store.empty, []⟩ =
        (serving crates contributor).exec (readAccesses.filter (Access.Granted contributor readCalls))
          ⟨Gateway.initial Store.empty, []⟩ ∧
      ∀ a answer, (a, some answer) ∈ (serving crates contributor).trace readAccesses ⟨Gateway.initial Store.empty, []⟩ →
        answer.isSuccess = true → a.Granted contributor readCalls := by
  refine worker_serves_granted instantText_injective contributor readCalls readAccesses _ ?_
  intro a ha c hc
  rcases List.mem_cons.1 ha with rfl | ha
  · cases hc
  · rw [List.mem_singleton.1 ha] at hc
    cases hc
    exact not_broken_of_granted readLease_granted

end

/-! ## The desktop -/

namespace RemoteAssist

section

variable {w : Worker} {x : SigningCrates} {calls : List (GovernorConfig × Call)}

/-- The request came in and passed the checks, at a reading of the clock at which its lease was active. -/
def CameIn (w : Worker) (trace : List (Move × Option Event)) (id : Nat) (request : RemoteDesktopRequestV1) : Prop :=
  ∃ d, (Move.start d request, some ⟨id, request, .started⟩) ∈ trace ∧ checkRequest w d request = .ok ()

theorem CameIn.later {trace : List (Move × Option Event)} {id : Nat} {request : RemoteDesktopRequestV1}
    (h : CameIn w trace id request) (e : Move × Option Event) : CameIn w (trace ++ [e]) id request := by
  obtain ⟨d, hmem, hcheck⟩ := h
  exact ⟨d, List.mem_append_left _ hmem, hcheck⟩

/-- What a step does something for is a request that came in now or was in flight. -/
theorem cameIn_of_step {trace : List (Move × Option Event)} {p : Process} {m : Move} {e : Event}
    (h : ∀ f ∈ p.flights, CameIn w trace f.id f.request) (he : (processStep w m p).1 = some e)
    (hdone : ∀ err, e.outcome ≠ .refused err) : CameIn w (trace ++ [(m, some e)]) e.id e.request := by
  have hs := steps_processStep w m p
  rw [he] at hs
  generalize (processStep w m p).2 = p' at hs
  cases hs with
  | turnedAway => exact absurd rfl (hdone _)
  | started check => exact ⟨_, List.mem_append_right _ List.mem_cons_self, check⟩
  | refused flight does => exact absurd rfl (hdone _)
  | wentOn flight does => exact (h _ (List.mem_of_getElem? flight)).later _

/-- Every request in flight has come in under its number. -/
theorem cameIn_step {trace : List (Move × Option Event)} {p : Process} {m : Move}
    (h : ∀ f ∈ p.flights, CameIn w trace f.id f.request) :
    ∀ f ∈ (processStep w m p).2.flights, CameIn w (trace ++ [(m, (processStep w m p).1)]) f.id f.request := by
  have hs := steps_processStep w m p
  generalize (processStep w m p).1 = o, (processStep w m p).2 = p' at hs
  cases hs with
  | turnedAway => exact fun f hf => (h f hf).later _
  | started check =>
    intro f hf
    rcases List.mem_append.1 hf with hf | hf
    · exact (h f hf).later _
    · rw [List.mem_singleton.1 hf]
      exact ⟨_, List.mem_append_right _ List.mem_cons_self, check⟩
  | idle => exact fun f hf => (h f hf).later _
  | refused flight does => exact fun f hf => (h f (List.mem_of_mem_eraseIdx hf)).later _
  | wentOn flight does =>
    intro f hf
    rcases mem_goOn hf with hf | ⟨f₀, hf₀, hid, heq⟩
    · exact (h f hf).later _
    · rw [hid, heq]
      exact (h f₀ (List.mem_of_getElem? hf₀)).later _

theorem cameIn_exec (s : Store) (moves : List Move) :
    ∀ f ∈ ((processMachine w).exec moves (Process.initial s)).flights,
      CameIn w ((processMachine w).trace moves (Process.initial s)) f.id f.request := by
  have hrun := (processMachine w).invariant (C := fun _ _ => True)
    (I := fun tr p => ∀ f ∈ p.flights, CameIn w tr f.id f.request) (fun tr p i h _ => cameIn_step h) moves []
    (Process.initial s) (fun f hf => by cases hf) ((processMachine w).meets_of_forall (fun _ _ => trivial) _ _)
  simpa using hrun

/-- In every interleaving of the requests that reach a worker, whatever its clock shows: what is done for a request was
granted by the Governor to this worker in the mode of its lease, the request itself came in before that lease expired, and
input is granted as control, unless the request breaks the signatures or the digests. -/
theorem remote_input_is_granted (htime : Function.Injective x.timeText) (n : Node) (calls : List (GovernorConfig × Call))
    (s : Store) (moves : List Move) (m : Move) (e : Event)
    (he : (processStep (n.desktop x) m ((processMachine (n.desktop x)).exec moves (Process.initial s))).1 = some e)
    (hdone : ∀ err, e.outcome ≠ .refused err) (hsafe : ¬ Broken x calls (.remoteDesktopLease e.request.lease)) :
    RemoteDesktopGrant calls e.request.lease ∧ e.request.lease.nodeId = n.nodeId ∧
      (e.request.action = .input → e.request.lease.mode = .control) ∧
      ∃ d, (.start d e.request, some ⟨e.id, e.request, .started⟩) ∈
          (processMachine (n.desktop x)).trace (moves ++ [m]) (Process.initial s) ∧
        d.activeAt < e.request.lease.expiresAt := by
  obtain ⟨d, hstart, hcheck⟩ := cameIn_of_step (cameIn_exec s moves) he hdone
  obtain ⟨hsigned, hactive, hvalid⟩ := checkRequest_ok hcheck
  simp only [RemoteDesktopRequestV1.isValidFor, Bool.and_eq_true, beq_iff_eq] at hvalid
  refine ⟨(remote_desktop_grant htime (isOk_iff.1 hsigned)).resolve_right hsafe, hvalid.1.1.2, ?_, d, ?_, ?_⟩
  · intro hinput
    have hshape := hvalid.2
    rw [RemoteDesktopRequestV1.inputShape, hinput] at hshape
    simp only [Bool.and_eq_true, decide_eq_true_eq] at hshape
    tauto
  · rw [Machine.trace_append]
    rw [← he] at hstart
    exact hstart
  · simp only [isActiveAt, Bool.and_eq_true, decide_eq_true_eq] at hactive
    tauto

end

section

open Governor.Scenario

/-- The first control lease, as signed here. -/
def signedControl : RemoteDesktopLeaseV1 := { controlLease 1 with signature := Hex.encode (List.replicate 64 0) }

/-- The Governor grants it. -/
def controlCalls : List (GovernorConfig × Call) :=
  [(.default, .authorizeRemoteDesktopAtEpoch contributorOffer "controller" 1 .control ⟨1280, 720, 10⟩ 1 0 1 "first")]

theorem signedControl_granted : granted crates controlCalls = [.remoteDesktopLease signedControl] :=
  granted_singleton rfl

/-- The request of the example under a signed lease. -/
def signedInput : RemoteDesktopRequestV1 := { inputRequest 1 1 with lease := signedControl }

/-- Input under it comes in at second 1 and its lease is admitted; input comes in again at second 29, shortly before the
lease ends. -/
def controlMoves : List Move :=
  [.start (drawsAt 1) signedInput, .run 0 (drawsAt 1), .start (drawsAt 29) { signedInput with inputSequence := some 2 },
    .run 1 (drawsAt 31)]

/-- The second input is applied at second 31. -/
theorem remote_input_is_granted_control :
    RemoteDesktopGrant controlCalls signedControl ∧ signedControl.nodeId = contributor.nodeId ∧
      (signedInput.action = .input → signedControl.mode = .control) ∧
      ∃ d, (.start d { signedInput with inputSequence := some 2 },
          some ⟨1, { signedInput with inputSequence := some 2 }, .started⟩) ∈
          (processMachine (contributor.desktop crates)).trace (controlMoves ++ [.run 1 (drawsAt 31)])
            (Process.initial Store.empty) ∧ d.activeAt < signedControl.expiresAt := by
  have hgranted := remote_input_is_granted instantText_injective contributor controlCalls Store.empty controlMoves
    (.run 1 (drawsAt 31)) ⟨1, { signedInput with inputSequence := some 2 }, .acted⟩ (by decide +kernel)
    (fun err h => by cases h) (not_broken_of_granted signedControl_granted)
  exact hgranted

end

end RemoteAssist

end Rampage.Agent
