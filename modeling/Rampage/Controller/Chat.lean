/-
The model gateway: chat requests to a model that a contributor serves. `validate_openai_request` bounds a request,
`start_model_invocation` chooses a candidate of the live catalog, has the Governor mint a lease and sends the invocation
over the mesh. `can_send_iff` says which accepted requests can be sent to which candidates: those whose invocation is
within the header bound of the mesh. A prompt may be sixteen times as long.
-/
import Mathlib.Data.Vector.Defs
import Rampage.Controller.Scenario
import Rampage.Governor.Model
import Rampage.Lib.Hex
import Rampage.Lib.Select
import Rampage.Mesh.Wire
import Rampage.Planner.Session

namespace Rampage.Controller

open Rampage.Protocol Rampage.Governor Rampage.Planner Rampage.Mesh

/-! ## Chat requests -/

/-- A message of a chat. -/
structure OpenAiChatMessage where
  role : String
  content : String
deriving DecidableEq

/-- The body of `POST /v1/chat/completions`. -/
structure OpenAiChatCompletionRequest where
  model : String
  messages : List OpenAiChatMessage
  stream : Bool
  maxTokens : Option Nat
  maxCompletionTokens : Option Nat
  temperature : Option F32
  topP : Option F32
deriving DecidableEq

/-- Why a completion fails, with what the OpenAI API says of it. -/
structure ModelGatewayFailure where
  status : Nat
  kind : String
  code : String
  message : String
deriving DecidableEq

/-- `invalid_model_request`. -/
def invalidModelRequest (message : String) : ModelGatewayFailure :=
  { status := 400, kind := "invalid_request_error", code := "invalid_model_request", message := message }

/-- The message as the worker gets it. -/
def OpenAiChatMessage.toModel (m : OpenAiChatMessage) : ModelChatMessageV1 := ⟨m.role, m.content⟩

/-- The messages as the invocation carries them. -/
def OpenAiChatCompletionRequest.modelMessages (r : OpenAiChatCompletionRequest) : List ModelChatMessageV1 :=
  r.messages.map OpenAiChatMessage.toModel

/-- The `prompt_bytes` of a request. -/
def OpenAiChatCompletionRequest.promptBytes (r : OpenAiChatCompletionRequest) : Nat :=
  r.messages.foldl (fun total m => U64.satAdd (U64.satAdd total m.role.utf8ByteSize) m.content.utf8ByteSize) 0

/-- `validate_openai_request`: the output tokens of an accepted request. -/
def validateOpenaiRequest (r : OpenAiChatCompletionRequest) : Except ModelGatewayFailure Nat :=
  let maxOutputTokens := (r.maxCompletionTokens.or r.maxTokens).getD 512
  if trimIsEmpty r.model ∨ 200 < r.model.utf8ByteSize ∨ isAscii r.model = false then
    .error (invalidModelRequest "model must be a non-empty ASCII identifier")
  else if r.messages = [] ∨ 256 < r.messages.length then
    .error (invalidModelRequest "messages must contain between 1 and 256 entries")
  else if r.messages.any fun m => !(m.role == "system" || m.role == "user" || m.role == "assistant") || m.content == "" then
    .error (invalidModelRequest "only non-empty system, user, and assistant text messages are supported")
  else if maxModelPromptBytes < r.promptBytes then
    .error
      { status := 413
        kind := "invalid_request_error"
        code := "prompt_too_large"
        message := "message text exceeds Rampage's one MiB prompt limit" }
  else if r.maxTokens.isSome ∧ r.maxCompletionTokens.isSome ∧ r.maxTokens ≠ r.maxCompletionTokens then
    .error (invalidModelRequest "max_tokens and max_completion_tokens conflict")
  else if maxOutputTokens = 0 ∨ maxModelOutputTokens < maxOutputTokens then
    .error (invalidModelRequest "requested output token limit is outside the supported range")
  else if F32.fits F32.two r.temperature = false ∨ F32.fits F32.one r.topP = false then
    .error (invalidModelRequest "temperature or top_p is outside the supported range")
  else .ok maxOutputTokens

/-! ## The catalog -/

/-- A model on a runtime of an offer. -/
structure ModelCandidate where
  offer : ResourceOfferV1
  runtime : ModelRuntimeOfferV1
  model : InstalledModelV1
deriving DecidableEq

/-- The offers whose node may serve a model now. -/
def servesModels (excluded : Finset Uuid) (now : Int) (offer : ResourceOfferV1) : Bool :=
  now < offer.expiresAt && decide (offer.nodeId ∉ excluded) && offer.meshEndpoint.isSome &&
    offer.availability.foregroundAllowed && 15 ≤ offer.availability.thermalHeadroomPercent &&
      (offer.availability.onAcPower || 50 ≤ offer.availability.batteryPercent.getD 100)

/-- The runtimes of an offer that serve a whole model. -/
def servesWholeModel (offer : ResourceOfferV1) (runtime : ModelRuntimeOfferV1) : Bool :=
  runtime.schema == ModelRuntimeOfferV1.schemaName && runtime.backend == .localOllama && runtime.status == .shippedLocal &&
    runtime.adapter == "rampage.ollama.v1" && decide (runtime.adapter ∈ offer.adapters) &&
      decide (.wholeModel ∈ runtime.supportedParallelism)

/-- A valid model that fits the runtime with a fifth to spare; `runtime_capacity_from_offer` is the planner's
`runtime_capacity`. -/
def fitsRuntime (offer : ResourceOfferV1) (runtime : ModelRuntimeOfferV1) (model : InstalledModelV1) : Bool :=
  model.isValid && guardedModelBytes model ≤ runtimeCapacity offer runtime

/-- All candidates, in the map's order. -/
def modelCandidates (order : IterOrder) (s : AppState) (now : Int) : List ModelCandidate :=
  ((order.apply s.offers.values).filter (servesModels s.excludedNodes now)).flatMap fun offer =>
    (offer.modelRuntimes.filter (servesWholeModel offer)).flatMap fun runtime =>
      (runtime.installedModels.filter (fitsRuntime offer runtime)).map fun model => ⟨offer, runtime, model⟩

/-- An entry of `live_model_catalog`: the candidates of a model, if they agree on its digest. -/
def liveModelCatalog (order : IterOrder) (s : AppState) (now : Int) (modelId : String) : Option (List ModelCandidate) :=
  let candidates := (modelCandidates order s now).filter (·.model.modelId == modelId)
  if (candidates.map (·.model.artifactDigest)).toFinset.card = 1 then some candidates else none

/-! ## Invocations -/

/-- What a gateway runs with. -/
structure ModelGateway where
  governor : GovernorConfig
  /-- The Governor's signature of a lease, an Ed25519 signature. -/
  signModelSession : ModelSessionLeaseV1 → { b : List UInt8 // b.length = 64 }
  /-- `state.mesh.endpoint_id()`. -/
  endpointId : String
  /-- `endpoint_addr_from_record` accepts the record. -/
  endpointAddr : MeshEndpointRecordV1 → Except String Unit
  codec : ModelCodec

/-- The clock readings, ids and outcomes that one invocation meets. -/
structure ModelDraws where
  order : IterOrder
  catalogTime : Int
  leaseTime : Int
  leaseId : Uuid
  sessionId : Uuid
  nonce : Uuid
  requestId : Uuid
  /-- The failure of the ledger, if it fails. -/
  evidence : Option String
  /-- The worker cannot be reached. -/
  unreachable : Option ModelGatewayFailure

/-- `Uuid::simple`. -/
def simpleText (u : Uuid) : String := Hex.encode (Uuid.toBytes u)

/-- `bounded_gateway_error`. -/
def boundedGatewayError (text : String) : String := String.ofList (text.toList.take 512)

section

variable (g : ModelGateway) (d : ModelDraws)

/-- The lease that the gateway asks the Governor for. -/
def modelSessionLease (epoch : Nat) (c : ModelCandidate) (request : OpenAiChatCompletionRequest) (maxOutputTokens : Nat) :
    Except Denial ModelSessionLeaseV1 :=
  authorizeModelSessionAtEpoch g.governor (fun lease => Hex.encode (g.signModelSession lease).1) c.offer c.runtime c.model
    g.endpointId ⟨Nat.max request.promptBytes 1, maxOutputTokens⟩ epoch d.leaseTime d.leaseId d.sessionId (simpleText d.nonce)

/-- The invocation under a lease. -/
def modelInvocation (lease : ModelSessionLeaseV1) (request : OpenAiChatCompletionRequest) (maxOutputTokens : Nat) :
    ModelInvocationRequestV1 where
  schema := ModelInvocationRequestV1.schemaName
  requestId := d.requestId
  lease := lease
  messages := request.modelMessages
  maxOutputTokens := maxOutputTokens
  stream := request.stream
  temperature := request.temperature
  topP := request.topP

/-- `start_model_invocation`, once the candidate is chosen: the invocation and what is written to the worker. -/
def invokeCandidate (epoch : Nat) (c : ModelCandidate) (request : OpenAiChatCompletionRequest) (maxOutputTokens : Nat) :
    Except ModelGatewayFailure (ModelInvocationRequestV1 × List UInt8) :=
  match modelSessionLease g d epoch c request maxOutputTokens with
  | .error denial =>
    .error { status := 403, kind := "server_error", code := "model_authority_denied", message := denial.text }
  | .ok lease =>
    match c.offer.meshEndpoint.elim (.ok ()) g.endpointAddr with
    | .error text => .error { status := 502, kind := "server_error", code := "worker_endpoint_invalid", message := text }
    | .ok () =>
      let invocation := modelInvocation d lease request maxOutputTokens
      if invocation.isValidFor c.offer.nodeId g.endpointId = false then
        .error
          { status := 400
            kind := "invalid_request_error"
            code := "invalid_model_request"
            message := "request does not fit its bounded model-session authority" }
      else
        match d.evidence, d.unreachable with
        | some text, _ =>
          .error { status := 500, kind := "server_error", code := "evidence_write_failed", message := text }
        | none, some failure => .error failure
        | none, none =>
          match invokeModel g.codec invocation with
          | .error _ =>
            .error
              { status := 502
                kind := "server_error"
                code := "worker_unavailable"
                message := boundedGatewayError "artifact transfer header is invalid or too large" }
          | .ok bytes => .ok (invocation, bytes)

/-- `start_model_invocation`. -/
def startModelInvocation (s : AppState) (request : OpenAiChatCompletionRequest) (maxOutputTokens : Nat) :
    Except ModelGatewayFailure (ModelInvocationRequestV1 × List UInt8) :=
  if s.killLatch then
    .error { status := 423, kind := "server_error", code := "owner_stop_active", message := "owner STOP is active" }
  else
    match (liveModelCatalog d.order s d.catalogTime request.model).bind (Select.maxByKey (·.runtime.availableModelBytes.toNat)) with
    | none =>
      .error
        { status := 404
          kind := "invalid_request_error"
          code := "model_not_found"
          message := "model is not consistently installed on an eligible contributor" }
    | some c => invokeCandidate g d s.fencingEpoch c request maxOutputTokens

end

/-! ## What an accepted request guarantees -/

/-- The checks an accepted request has passed. -/
structure OpenAiChatCompletionRequest.Accepted (r : OpenAiChatCompletionRequest) (maxOutputTokens : Nat) : Prop where
  some_message : r.messages ≠ []
  few_messages : r.messages.length ≤ 256
  texts : ∀ m ∈ r.messages, m.toModel.isText = true
  prompt : r.promptBytes ≤ maxModelPromptBytes
  output_pos : 0 < maxOutputTokens
  output_le : maxOutputTokens ≤ maxModelOutputTokens
  temperature : F32.fits F32.two r.temperature = true
  topP : F32.fits F32.one r.topP = true

theorem accepted_of_validate {r : OpenAiChatCompletionRequest} {maxOutputTokens : Nat}
    (h : validateOpenaiRequest r = .ok maxOutputTokens) : r.Accepted maxOutputTokens := by
  unfold validateOpenaiRequest at h
  dsimp only at h
  split at h
  · cases h
  split at h
  · cases h
  rename_i hcount
  split at h
  · cases h
  rename_i htexts
  split at h
  · cases h
  rename_i hprompt
  split at h
  · cases h
  split at h
  · cases h
  rename_i houtput
  split at h
  · cases h
  rename_i hfloats
  cases h
  simp only [not_or, not_lt] at hcount houtput
  simp only [not_or, Bool.not_eq_false] at hfloats
  refine ⟨hcount.1, hcount.2, ?_, not_lt.1 hprompt, Nat.pos_of_ne_zero houtput.1, houtput.2, hfloats.1, hfloats.2⟩
  intro m hm
  have hno : (!(m.role == "system" || m.role == "user" || m.role == "assistant") || m.content == "") = false := by
    have := mt (List.any_eq_true.2 ⟨m, hm, ·⟩) htexts
    simpa using this
  simp only [Bool.or_eq_false_iff, Bool.not_eq_false', beq_eq_false_iff_ne] at hno
  unfold OpenAiChatMessage.toModel ModelChatMessageV1.isText
  simp only [Bool.and_eq_true, bne_iff_ne]
  exact hno

/-- Both sides count the prompt alike. -/
theorem promptBytesOf_modelMessages (r : OpenAiChatCompletionRequest) : promptBytesOf r.modelMessages = r.promptBytes := by
  unfold promptBytesOf OpenAiChatCompletionRequest.modelMessages OpenAiChatCompletionRequest.promptBytes
  rw [List.foldl_map]
  rfl

/-- The limits the gateway asks for are valid. -/
theorem OpenAiChatCompletionRequest.Accepted.limits {r : OpenAiChatCompletionRequest} {maxOutputTokens : Nat}
    (h : r.Accepted maxOutputTokens) : (ModelSessionLimits.mk (Nat.max r.promptBytes 1) maxOutputTokens).isValid = true := by
  have hprompt := h.prompt
  have hpos := h.output_pos
  have hle := h.output_le
  have hone : 1 ≤ maxModelPromptBytes := by decide
  unfold ModelSessionLimits.isValid
  simp only [Bool.and_eq_true, decide_eq_true_eq]
  refine ⟨⟨⟨?_, ?_⟩, hpos⟩, hle⟩
  · exact lt_of_lt_of_le Nat.one_pos (Nat.le_max_right ..)
  · exact Nat.max_le.2 ⟨hprompt, hone⟩

/-! ## What the catalog guarantees -/

/-- The conditions under which the catalog lists a candidate. -/
structure ModelCandidate.Listed (s : AppState) (now : Int) (c : ModelCandidate) : Prop where
  offer : c.offer ∈ s.offers.values
  live : servesModels s.excludedNodes now c.offer = true
  runtime : c.runtime ∈ c.offer.modelRuntimes
  whole : servesWholeModel c.offer c.runtime = true
  model : c.model ∈ c.runtime.installedModels
  fits : fitsRuntime c.offer c.runtime c.model = true

theorem mem_modelCandidates {order : IterOrder} {s : AppState} {now : Int} {c : ModelCandidate} :
    c ∈ modelCandidates order s now ↔ c.Listed s now := by
  unfold modelCandidates
  simp only [List.mem_flatMap, List.mem_filter, List.mem_map, IterOrder.mem_apply]
  constructor
  · rintro ⟨offer, ⟨hoffer, hlive⟩, runtime, ⟨hruntime, hwhole⟩, model, ⟨hmodel, hfits⟩, rfl⟩
    exact ⟨hoffer, hlive, hruntime, hwhole, hmodel, hfits⟩
  · intro h
    exact ⟨_, ⟨h.offer, h.live⟩, _, ⟨h.runtime, h.whole⟩, _, ⟨h.model, h.fits⟩, rfl⟩

theorem listed_of_catalog {order : IterOrder} {s : AppState} {now : Int} {modelId : String} {l : List ModelCandidate}
    (h : liveModelCatalog order s now modelId = some l) {c : ModelCandidate} (hc : c ∈ l) : c.Listed s now := by
  unfold liveModelCatalog at h
  dsimp only at h
  split at h
  · cases h
    exact mem_modelCandidates.1 (List.mem_of_mem_filter hc)
  · cases h

section

variable {g : ModelGateway} {d : ModelDraws} {s : AppState} {epoch : Nat} {c : ModelCandidate}
  {request : OpenAiChatCompletionRequest} {maxOutputTokens : Nat}

/-- On a listed candidate the Governor refuses what is killed or has expired meanwhile, and nothing else. -/
theorem modelSessionLease_isOk_iff (hc : c.Listed s d.catalogTime) (hvalid : request.Accepted maxOutputTokens) :
    (∃ lease, modelSessionLease g d epoch c request maxOutputTokens = .ok lease) ↔
      g.governor.killed = false ∧ d.leaseTime < c.offer.expiresAt ∧ g.endpointId ≠ "" ∧ isAscii g.endpointId = true := by
  -- what the catalog checks covers all the Governor asks but time, latch and endpoint
  have hlive := hc.live
  have hwhole := hc.whole
  have hfits := hc.fits
  simp only [servesModels, servesWholeModel, fitsRuntime, Bool.and_eq_true, Bool.or_eq_true, decide_eq_true_eq,
    beq_iff_eq] at hlive hwhole hfits
  obtain ⟨⟨⟨⟨⟨-, -⟩, hmesh⟩, hforeground⟩, hthermal⟩, hpower⟩ := hlive
  obtain ⟨⟨⟨⟨⟨hschema, hbackend⟩, hstatus⟩, hadapter⟩, hin⟩, hparallel⟩ := hwhole
  obtain ⟨hmodel, hguarded⟩ := hfits
  have hcapacity : guardedModelBytes c.model ≤ c.runtime.availableModelBytes.toNat :=
    le_trans hguarded (Nat.min_le_left ..)
  have hlists : listsRuntime c.offer c.runtime c.model = true := by
    refine List.any_eq_true.2 ⟨c.runtime, hc.runtime, ?_⟩
    simp [hschema, hc.model]
  unfold modelSessionLease authorizeModelSessionAtEpoch
  constructor
  · rintro ⟨lease, h⟩
    split at h
    · cases h
    rename_i hkilled
    split at h
    · cases h
    rename_i hexpired
    split at h
    · cases h
    split at h
    · cases h
    rename_i hdenied
    simp only [not_or] at hdenied
    exact ⟨by simpa using hkilled, not_le.1 hexpired, hdenied.1, by simpa using hdenied.2.1⟩
  · rintro ⟨hkilled, hexpires, hne, hascii⟩
    rw [if_neg (by simp [hkilled]), if_neg (not_le.2 hexpires), if_neg (by simp [hvalid.limits]), if_neg]
    · exact ⟨_, rfl⟩
    · have hsome : c.offer.meshEndpoint ≠ none := Option.isSome_iff_ne_none.1 hmesh
      rw [hadapter] at hin
      simp only [not_or, not_and, not_lt, not_not]
      refine ⟨hne, by simp [hascii], hsome, hin, hadapter, hbackend, hstatus, hparallel, by simp [hmodel], hcapacity,
        by simp [hlists], by simp [hforeground], hthermal, fun hac => ?_⟩
      rcases hpower with hpower | hpower
      · rw [hac] at hpower
        cases hpower
      · exact hpower

/-- The invocation is valid under the lease that is minted for it. -/
theorem isValidFor_modelInvocation {lease : ModelSessionLeaseV1} (hvalid : request.Accepted maxOutputTokens)
    (h : modelSessionLease g d epoch c request maxOutputTokens = .ok lease) :
    (modelInvocation d lease request maxOutputTokens).isValidFor c.offer.nodeId g.endpointId = true := by
  obtain ⟨hnode, hendpoint, hprompt, houtput⟩ := authorizeModelSessionAtEpoch_ok h
  unfold ModelInvocationRequestV1.isValidFor modelInvocation
  simp only [ModelInvocationRequestV1.promptBytes, promptBytesOf_modelMessages, hnode, hendpoint, hprompt, houtput,
    hvalid.temperature, hvalid.topP, beq_self_eq_true, Bool.and_eq_true, Bool.and_true, decide_eq_true_eq, true_and,
    Bool.not_eq_true', List.isEmpty_eq_false_iff, List.all_eq_true]
  unfold OpenAiChatCompletionRequest.modelMessages
  refine ⟨⟨⟨⟨⟨?_, ?_⟩, ?_⟩, Nat.le_max_left ..⟩, hvalid.output_pos⟩, Nat.le_refl _⟩
  · simpa using hvalid.some_message
  · simpa using hvalid.few_messages
  · simpa using hvalid.texts

/-! ## The size of an invocation -/

/-- The bytes of the lease of a candidate: two texts of ids and one signature have fixed lengths. -/
def modelLeaseLen (g : ModelGateway) (d : ModelDraws) (epoch : Nat) (c : ModelCandidate)
    (request : OpenAiChatCompletionRequest) (maxOutputTokens : Nat) : Nat :=
  576 + quotedLen g.endpointId + quotedLen c.model.modelId + quotedLen c.model.artifactDigest +
    quotedLen c.runtime.backend.text + quotedLen c.runtime.runtimeDigest + decimalLen (Nat.max request.promptBytes 1) +
    decimalLen maxOutputTokens + quotedLen (g.codec.timeText d.leaseTime) +
    quotedLen (g.codec.timeText (d.leaseTime + seconds (max g.governor.leaseTtlSeconds 1))) + decimalLen epoch

/-- The bytes of the invocation of a candidate. -/
def modelInvocationLen (g : ModelGateway) (d : ModelDraws) (epoch : Nat) (c : ModelCandidate)
    (request : OpenAiChatCompletionRequest) (maxOutputTokens : Nat) : Nat :=
  153 + modelLeaseLen g d epoch c request maxOutputTokens + messagesLen request.modelMessages +
    decimalLen maxOutputTokens + boolLen request.stream + floatLen g.codec.toModelTexts 11 request.temperature +
    floatLen g.codec.toModelTexts 5 request.topP

theorem size_modelInvocation {lease : ModelSessionLeaseV1} (hvalid : request.Accepted maxOutputTokens)
    (h : modelSessionLease g d epoch c request maxOutputTokens = .ok lease) :
    ((modelInvocation d lease request maxOutputTokens).toJson g.codec.toModelTexts).size =
      modelInvocationLen g d epoch c request maxOutputTokens := by
  have hmessages : (modelInvocation d lease request maxOutputTokens).messages ≠ [] := by
    simpa [modelInvocation, OpenAiChatCompletionRequest.modelMessages] using hvalid.some_message
  have hfixed : quotedLen ModelSessionLeaseV1.schemaName = 32 ∧ quotedLen ModelInvocationRequestV1.schemaName = 37 ∧
      quotedLen ModelParallelism.wholeModel.text = 13 := by decide
  have hnonce : quotedLen (simpleText d.nonce) = 34 := by
    rw [simpleText, quotedLen_encode, Uuid.toBytes, BigEndian.length_bytes]
  have hsignature : ∀ l, quotedLen (Hex.encode (g.signModelSession l).1) = 130 := by
    intro l
    rw [quotedLen_encode, (g.signModelSession l).2]
  rw [ModelInvocationRequestV1.size_toJson _ hmessages, size_lease]
  simp only [modelInvocation, authorizeModelSessionAtEpoch_lease h, unsignedModelLease, hfixed, hnonce, hsignature,
    modelInvocationLen, modelLeaseLen]
  omega

/-! ## What can be sent -/

/-- A request can be sent to a candidate: the Governor does not refuse it for its limits, and under every lease it mints
the invocation is valid, is transmitted and is accepted by the worker. -/
def CanSend (g : ModelGateway) (d : ModelDraws) (epoch : Nat) (c : ModelCandidate) (request : OpenAiChatCompletionRequest)
    (maxOutputTokens : Nat) : Prop :=
  modelSessionLease g d epoch c request maxOutputTokens ≠ .error .invalidModelSession ∧
    ∀ lease, modelSessionLease g d epoch c request maxOutputTokens = .ok lease →
      (modelInvocation d lease request maxOutputTokens).isValidFor c.offer.nodeId g.endpointId = true ∧
        ((modelInvocation d lease request maxOutputTokens).toJson g.codec.toModelTexts).size ≤ maxArtifactHeaderBytes ∧
        ∃ bytes, invokeModel g.codec (modelInvocation d lease request maxOutputTokens) = .ok bytes ∧
          readModelRequest g.codec bytes = .ok (modelInvocation d lease request maxOutputTokens)

/-- An accepted request can be sent to a listed candidate unless a lease is minted for an invocation over the bound. -/
theorem can_send_iff {candidates : List ModelCandidate} (hvalid : validateOpenaiRequest request = .ok maxOutputTokens)
    (hcatalog : liveModelCatalog d.order s d.catalogTime request.model = some candidates) (hc : c ∈ candidates)
    (hread : ∀ lease, modelSessionLease g d epoch c request maxOutputTokens = .ok lease →
      g.codec.ReadsRequest (modelInvocation d lease request maxOutputTokens)) :
    CanSend g d epoch c request maxOutputTokens ↔
      (g.governor.killed = false ∧ d.leaseTime < c.offer.expiresAt ∧ g.endpointId ≠ "" ∧ isAscii g.endpointId = true →
        modelInvocationLen g d epoch c request maxOutputTokens ≤ maxArtifactHeaderBytes) := by
  have hlisted := listed_of_catalog hcatalog hc
  have haccepted := accepted_of_validate hvalid
  constructor
  · rintro ⟨-, hsend⟩ hgranted
    obtain ⟨lease, hlease⟩ := (modelSessionLease_isOk_iff hlisted haccepted).2 hgranted
    rw [← size_modelInvocation haccepted hlease]
    exact (hsend lease hlease).2.1
  · intro hbound
    refine ⟨authorizeModelSessionAtEpoch_limits haccepted.limits, fun lease hlease => ?_⟩
    have hsize := hbound ((modelSessionLease_isOk_iff hlisted haccepted).1 ⟨lease, hlease⟩)
    rw [← size_modelInvocation haccepted hlease] at hsize
    obtain ⟨bytes, hbytes⟩ := (invokeModel_isOk_iff rfl).2 hsize
    exact ⟨isValidFor_modelInvocation haccepted hlease, hsize, bytes, hbytes, readModelRequest_invokeModel (hread lease hlease) hbytes⟩

/-- The prompt is part of the invocation. -/
theorem promptBytes_lt_modelInvocationLen : request.promptBytes < modelInvocationLen g d epoch c request maxOutputTokens := by
  have hfold : ∀ (messages : List ModelChatMessageV1) (n : Nat),
      messages.foldl (fun total m => U64.satAdd (U64.satAdd total m.role.utf8ByteSize) m.content.utf8ByteSize) n ≤
        n + messagesLen messages := by
    intro messages
    induction messages with
    | nil => exact fun n => Nat.le_add_right ..
    | cons m messages ih =>
      intro n
      have hrole := utf8ByteSize_le_quotedLen m.role
      have hcontent := utf8ByteSize_le_quotedLen m.content
      have hsat : U64.satAdd (U64.satAdd n m.role.utf8ByteSize) m.content.utf8ByteSize ≤
          n + m.role.utf8ByteSize + m.content.utf8ByteSize :=
        le_trans (Nat.min_le_left ..) (Nat.add_le_add_right (Nat.min_le_left ..) _)
      have hrest := ih (U64.satAdd (U64.satAdd n m.role.utf8ByteSize) m.content.utf8ByteSize)
      have hlen : messagesLen (m :: messages) = 21 + quotedLen m.role + quotedLen m.content + messagesLen messages := by
        rw [messagesLen, List.map_cons, List.sum_cons]
        rfl
      rw [List.foldl_cons, hlen]
      omega
  have hprompt := hfold request.modelMessages 0
  rw [← promptBytesOf_modelMessages]
  unfold modelInvocationLen promptBytesOf
  omega

/-- A prompt as long as the header bound is never sent, although prompts may be sixteen times as long. -/
theorem not_canSend_of_long (hvalid : request.Accepted maxOutputTokens) {lease : ModelSessionLeaseV1}
    (hlease : modelSessionLease g d epoch c request maxOutputTokens = .ok lease)
    (hlong : maxArtifactHeaderBytes ≤ request.promptBytes) : ¬ CanSend g d epoch c request maxOutputTokens := by
  rintro ⟨-, hsend⟩
  obtain ⟨-, hsize, -⟩ := hsend lease hlease
  rw [size_modelInvocation hvalid hlease] at hsize
  exact absurd (lt_of_le_of_lt hlong promptBytes_lt_modelInvocationLen) (not_lt.2 hsize)

end

/-! ## A contributor with one model -/

namespace Scenario

/-- The model of the example: `llama3`. -/
def installedModel : InstalledModelV1 where
  schema := InstalledModelV1.schemaName
  modelId := "llama3"
  artifactDigest := "sha256:aaaaaaaaaaaaaaaaaaaaaaaaaaaaaaaaaaaaaaaaaaaaaaaaaaaaaaaaaaaaaaaa"
  artifactSizeBytes := 1000

/-- A runtime that has it ready. -/
def ollama : ModelRuntimeOfferV1 where
  schema := ModelRuntimeOfferV1.schemaName
  adapter := "rampage.ollama.v1"
  backend := .localOllama
  runtimeDigest := "sha256:bbbbbbbbbbbbbbbbbbbbbbbbbbbbbbbbbbbbbbbbbbbbbbbbbbbbbbbbbbbbbbbb"
  compatibilityKey := "ollama"
  memoryKind := .host
  availableModelBytes := 4000
  supportedParallelism := {.wholeModel}
  status := .shippedLocal
  installedModels := [installedModel]
  certificationDigest := none

/-- The node serves the model. -/
def modelOffer : ResourceOfferV1 :=
  { offer with
    resources := [⟨.ramWorkingSet, 4000, 4000, "byte", []⟩]
    adapters := {"rampage.ollama.v1"}
    modelRuntimes := [ollama]
    meshEndpoint := some ⟨"rampage.mesh-endpoint-record.v1", "worker", [], [], 0, seconds 1000, "signature"⟩ }

/-- The controller with an offer of that runtime. -/
def serving : AppState := { start.toAppState with offers := (∅ : Table Uuid ResourceOfferV1).insert 77 modelOffer }

/-- The one candidate there is. -/
def servingCandidate : ModelCandidate := ⟨modelOffer, ollama, installedModel⟩

/-- The texts of the two instants of the lease. -/
def sessionTexts : ModelTexts where
  timeText := fun t => if t ≤ 0 then "1970-01-01T00:00:00Z" else "1970-01-01T00:02:00Z"
  f32Text := fun _ => .ofNat 0

/-- The example's gateway, with signatures of zeros. -/
def gateway (codec : ModelCodec) : ModelGateway where
  governor := .default
  signModelSession := fun _ => List.Vector.replicate 64 0
  endpointId := "controller"
  endpointAddr := fun _ => .ok ()
  codec := codec

/-- Every clock reads 0, and the worker is reached. -/
def modelDraws : ModelDraws where
  order := .entries
  catalogTime := 0
  leaseTime := 0
  leaseId := 1
  sessionId := 2
  nonce := 3
  requestId := 4
  evidence := none
  unreachable := none

/-- One user message. -/
def chatRequest (content : String) : OpenAiChatCompletionRequest where
  model := "llama3"
  messages := [⟨"user", content⟩]
  stream := false
  maxTokens := none
  maxCompletionTokens := none
  temperature := none
  topP := none

/-- The lease for a chat. -/
def chatLease (content : String) : ModelSessionLeaseV1 :=
  { unsignedModelLease .default modelOffer ollama installedModel "controller"
      ⟨Nat.max (chatRequest content).promptBytes 1, 512⟩ 0 0 1 2 (simpleText 3) with
    signature := Hex.encode (List.replicate 64 0) }

/-- What the worker gets for it. -/
def chatInvocation (content : String) : ModelInvocationRequestV1 :=
  modelInvocation modelDraws (chatLease content) (chatRequest content) 512

/-- The reader of one invocation. -/
def readChat (content : String) : ModelCodec :=
  { sessionTexts with
    readRequest := fun b => if b = ((chatInvocation content).toJson sessionTexts).toVec then some (chatInvocation content) else none
    readFrame := fun _ => none }

theorem readsRequest_chat (content : String) : (readChat content).ReadsRequest (chatInvocation content) := if_pos rfl

theorem serving_catalog : liveModelCatalog .entries serving 0 "llama3" = some [servingCandidate] := by
  decide +kernel

theorem modelSessionLease_chat {codec : ModelCodec} {content : String} (h : (chatRequest content).Accepted 512) :
    modelSessionLease (gateway codec) modelDraws 0 servingCandidate (chatRequest content) 512 =
      .ok (chatLease content) := by
  have hlisted : servingCandidate.Listed serving 0 := listed_of_catalog serving_catalog (List.mem_singleton.2 rfl)
  obtain ⟨lease, hlease⟩ := (@modelSessionLease_isOk_iff (gateway codec) modelDraws serving 0 _ _ _ hlisted h).2
    ⟨rfl, by decide, show "controller" ≠ "" by decide, show isAscii "controller" = true by decide⟩
  rw [hlease, authorizeModelSessionAtEpoch_lease hlease]
  rfl

end Scenario

open Scenario in
/-- A short request can be sent. -/
theorem can_send_iff_hello :
    let codec := readChat "hello"
    CanSend (gateway codec) modelDraws 0 servingCandidate (chatRequest "hello") 512 ↔
      (false = false ∧ 0 < modelOffer.expiresAt ∧ "controller" ≠ "" ∧ isAscii "controller" = true →
        modelInvocationLen (gateway codec) modelDraws 0 servingCandidate (chatRequest "hello") 512 ≤ maxArtifactHeaderBytes) := by
  intro codec
  have hvalid : validateOpenaiRequest (chatRequest "hello") = .ok 512 := by decide
  refine @can_send_iff (gateway codec) modelDraws serving 0 servingCandidate _ _ _ hvalid serving_catalog
    (List.mem_singleton.2 rfl) ?_
  intro lease hlease
  rw [modelSessionLease_chat (accepted_of_validate hvalid)] at hlease
  rw [← Except.ok.inj hlease]
  exact readsRequest_chat "hello"

namespace Scenario

theorem promptBytes_chat {content : String} (h : content.utf8ByteSize ≤ maxModelPromptBytes) :
    (chatRequest content).promptBytes = 4 + content.utf8ByteSize := by
  have hrole : U64.satAdd 0 4 = 4 := by decide
  show U64.satAdd (U64.satAdd 0 4) content.utf8ByteSize = _
  rw [hrole]
  unfold maxModelPromptBytes at h
  exact Nat.min_eq_left (by unfold U64.max; omega)

/-- A chat within the prompt limit is accepted. -/
theorem validate_chat {content : String} (hne : content ≠ "") (h : 4 + content.utf8ByteSize ≤ maxModelPromptBytes) :
    validateOpenaiRequest (chatRequest content) = .ok 512 := by
  have hprompt := @promptBytes_chat content (by omega)
  unfold validateOpenaiRequest
  dsimp only
  rw [if_neg (by simp only [chatRequest]; decide), if_neg (by simp [chatRequest]), if_neg (by simp [chatRequest, hne]),
    if_neg (by rw [hprompt]; omega), if_neg (by simp [chatRequest]), if_neg (by simp only [chatRequest]; decide),
    if_neg (by simp only [chatRequest]; decide)]
  rfl

/-- A chat of 64 KiB is accepted and cannot be sent. -/
theorem long_chat {content : String} (hsize : content.utf8ByteSize = 65536) :
    validateOpenaiRequest (chatRequest content) = .ok 512 ∧
      ¬ CanSend (gateway (readChat content)) modelDraws 0 servingCandidate (chatRequest content) 512 := by
  have hmax : maxModelPromptBytes = 1048576 := by decide
  have hbound : maxArtifactHeaderBytes = 65536 := by decide
  have hne : content ≠ "" := by
    rintro rfl
    cases hsize
  have hvalid := validate_chat hne (by omega)
  have haccepted := accepted_of_validate hvalid
  refine ⟨hvalid, not_canSend_of_long haccepted (modelSessionLease_chat haccepted) ?_⟩
  rw [promptBytes_chat (by omega)]
  omega

theorem utf8ByteSize_as (n : Nat) : (String.ofList (List.replicate n 'a')).utf8ByteSize = n := by
  have hplain : ∀ c ∈ List.replicate n 'a', isPlain c = true := by
    intro c hc
    rw [List.eq_of_mem_replicate hc]
    decide
  rw [utf8ByteSize_ofList, byteLen_of_isPlain hplain, List.length_replicate]

end Scenario

open Scenario in
/-- One message of 64 KiB is accepted, its model is in the catalog, and it cannot be sent. -/
theorem accepted_prompt_cannot_be_sent :
    ∃ content : String, content = String.ofList (List.replicate 65536 'a') ∧
      validateOpenaiRequest (chatRequest content) = .ok 512 ∧
      liveModelCatalog .entries serving 0 (chatRequest content).model = some [servingCandidate] ∧
      ¬ CanSend (gateway (readChat content)) modelDraws 0 servingCandidate (chatRequest content) 512 := by
  obtain ⟨hvalid, hno⟩ := long_chat (utf8ByteSize_as 65536)
  exact ⟨_, rfl, hvalid, serving_catalog, hno⟩

end Rampage.Controller
