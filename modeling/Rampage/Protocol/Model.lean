/-
The contracts of a model session: its lease, the invocation the controller sends, the frames the worker answers with
and its receipt, with the JSON serde writes for them. An `f32` is its bits. The texts serde writes for instants and for
finite floats are parameters (`ModelTexts`). `ModelInvocationRequestV1.size_toJson` is the size of an invocation in
bytes, in terms of the sizes of its texts; `toJson_injective` says that the JSON determines the value.
-/
import Rampage.Lib.Json
import Rampage.Lib.Saturating
import Rampage.Protocol.Contracts
import Rampage.Protocol.Uuid

namespace Rampage.Protocol

/-- All messages of an invocation together, in bytes. -/
def maxModelPromptBytes : Nat := 1024 * 1024

/-- The text of an answer, in bytes. -/
def maxModelOutputBytes : Nat := 16 * 1024 * 1024

/-- The most tokens a request may ask for. -/
def maxModelOutputTokens : Nat := 32 * 1024

/-- The most memory a session may be planned for, in bytes. -/
def maxModelSessionBytes : Nat := 16 * 1024 * 1024 * 1024 * 1024

/-- The most machines a session may be spread over. -/
def maxModelSessionNodes : Nat := 64

/-! ## Floats -/

/-- The bits of an `f32`. -/
abbrev F32 := BitVec 32

/-- `f32::is_finite`. -/
def F32.isFinite (v : F32) : Bool := v &&& 0x7F800000#32 != 0x7F800000#32

/-- `(0.0..=upper).contains(&v)`, of a positive `upper`: the bits of positive floats are ordered as they are, and
negative zero is zero. -/
def F32.upTo (upper v : F32) : Bool := v == 0x80000000#32 || decide (v.toNat ≤ upper.toNat)

/-- 1.0 -/
def F32.one : F32 := 0x3F800000#32

/-- 2.0 -/
def F32.two : F32 := 0x40000000#32

/-- Any value left out, or finite and at most `upper`. -/
def F32.fits (upper : F32) (v : Option F32) : Bool := v.all fun v => F32.isFinite v && F32.upTo upper v

/-! ## Installed models -/

/-- `InstalledModelV1::SCHEMA`. -/
def InstalledModelV1.schemaName : String := "rampage.installed-model.v1"

/-- `ModelRuntimeOfferV1::SCHEMA`. -/
def ModelRuntimeOfferV1.schemaName : String := "rampage.model-runtime-offer.v1"

/-- `InstalledModelV1::is_valid`. -/
def InstalledModelV1.isValid (m : InstalledModelV1) : Bool :=
  m.schema == InstalledModelV1.schemaName && !trimIsEmpty m.modelId && m.modelId.utf8ByteSize ≤ 200 && isAscii m.modelId &&
    isSha256Digest m.artifactDigest && 0 < m.artifactSizeBytes && m.artifactSizeBytes ≤ maxModelSessionBytes

/-- `ModelRuntimeOfferV1::is_qualified_for_distributed`. -/
def ModelRuntimeOfferV1.isQualifiedForDistributed (r : ModelRuntimeOfferV1) : Bool :=
  r.schema == schemaName && r.status == .qualified && r.certificationDigest.any isSha256Digest &&
    isSha256Digest r.runtimeDigest && !trimIsEmpty r.compatibilityKey && r.availableModelBytes != 0 &&
    (decide (.pipeline ∈ r.supportedParallelism) || decide (.tensor ∈ r.supportedParallelism))

/-! ## Session requests -/

/-- The owner's objective for additional compute. -/
inductive ComputeStrategy
  | maximumModelSize | speedBoost | maximumThroughput | efficiency | autonomousBalanced
deriving DecidableEq

/-- What is asked of the planner: a model, its size and how it may be spread. -/
structure ModelSessionRequestV1 where
  schema : String
  sessionId : Uuid
  modelId : String
  estimatedWeightBytes : Nat
  kvCacheBytes : Nat
  contextTokens : Nat
  strategy : ComputeStrategy
  maxNodes : Nat
  deadline : Int
  idempotencyKey : String
deriving DecidableEq

/-- `ModelSessionRequestV1::SCHEMA`. -/
def ModelSessionRequestV1.schemaName : String := "rampage.model-session-request.v1"

/-- `required_bytes`: the weights and the cache, as a saturating sum. -/
def ModelSessionRequestV1.requiredBytes (r : ModelSessionRequestV1) : Nat := U64.satAdd r.estimatedWeightBytes r.kvCacheBytes

/-- `ModelSessionRequestV1::validate_at`. -/
def ModelSessionRequestV1.validateAt (r : ModelSessionRequestV1) (now : Int) : Except ContractError Unit :=
  if r.schema ≠ schemaName then .error (.wrongSchema schemaName r.schema)
  else if r.deadline ≤ now then .error .deadlineExpired
  else if trimIsEmpty r.idempotencyKey then .error .emptyIdempotencyKey
  else if trimIsEmpty r.modelId then .error .emptyModelId
  else if r.estimatedWeightBytes = 0 ∨ maxModelSessionBytes < r.requiredBytes then .error .invalidModelSize
  else if r.contextTokens = 0 then .error .invalidContextTokens
  else if r.maxNodes = 0 ∨ maxModelSessionNodes < r.maxNodes then .error .invalidModelNodeCount
  else .ok ()

/-! ## Leases and invocations -/

/-- What the Governor grants a node for one model session: the model by its digest, and how much
it may answer. -/
structure ModelSessionLeaseV1 where
  schema : String
  leaseId : Uuid
  sessionId : Uuid
  nodeId : Uuid
  controllerEndpointId : String
  modelId : String
  modelDigest : String
  backend : ModelBackend
  runtimeDigest : String
  parallelism : ModelParallelism
  maxPromptBytes : Nat
  maxOutputTokens : Nat
  issuedAt : Int
  expiresAt : Int
  nonce : String
  fencingEpoch : Nat
  signature : String
deriving DecidableEq

/-- `ModelSessionLeaseV1::SCHEMA`. -/
def ModelSessionLeaseV1.schemaName : String := "rampage.model-session-lease.v1"

/-- A message of a chat, as the worker gets it. -/
structure ModelChatMessageV1 where
  role : String
  content : String
deriving DecidableEq

/-- The bytes of a list of messages, as the two sides count them. -/
def promptBytesOf (messages : List ModelChatMessageV1) : Nat :=
  messages.foldl (fun total m => U64.satAdd (U64.satAdd total m.role.utf8ByteSize) m.content.utf8ByteSize) 0

/-- `matches!(role, "system" | "user" | "assistant")`, with a content. -/
def ModelChatMessageV1.isText (m : ModelChatMessageV1) : Bool :=
  (m.role == "system" || m.role == "user" || m.role == "assistant") && m.content != ""

/-- What the controller sends to a worker: the messages, under the lease of the session. -/
structure ModelInvocationRequestV1 where
  schema : String
  requestId : Uuid
  lease : ModelSessionLeaseV1
  messages : List ModelChatMessageV1
  maxOutputTokens : Nat
  stream : Bool
  temperature : Option F32
  topP : Option F32
deriving DecidableEq

/-- `ModelInvocationRequestV1::SCHEMA`. -/
def ModelInvocationRequestV1.schemaName : String := "rampage.model-invocation-request.v1"

/-- `ModelInvocationRequestV1::prompt_bytes`. -/
def ModelInvocationRequestV1.promptBytes (r : ModelInvocationRequestV1) : Nat := promptBytesOf r.messages

/-- `ModelInvocationRequestV1::is_valid_for`. -/
def ModelInvocationRequestV1.isValidFor (r : ModelInvocationRequestV1) (nodeId : Uuid) (controllerEndpointId : String) : Bool :=
  r.schema == ModelInvocationRequestV1.schemaName && r.lease.nodeId == nodeId &&
    r.lease.controllerEndpointId == controllerEndpointId && !r.messages.isEmpty && r.messages.length ≤ 256 &&
    r.messages.all ModelChatMessageV1.isText && r.promptBytes ≤ r.lease.maxPromptBytes && 0 < r.maxOutputTokens &&
    r.maxOutputTokens ≤ r.lease.maxOutputTokens && F32.fits F32.two r.temperature && F32.fits F32.one r.topP

/-! ## Frames and receipts -/

/-- A frame brings text, or is the last one, with or without success. -/
inductive ModelInvocationFrameKind
  | delta | complete | error
deriving DecidableEq

/-- The tokens a session used, as the worker counts them. -/
structure ModelUsageV1 where
  promptTokens : Nat
  completionTokens : Nat
deriving DecidableEq

/-- What the worker reports of a session, under its signature: the digest of the text is that of
all deltas together. -/
structure ModelExecutionReceiptV1 where
  schema : String
  receiptId : Uuid
  leaseId : Uuid
  sessionId : Uuid
  requestId : Uuid
  nodeId : Uuid
  state : JobState
  startedAt : Int
  finishedAt : Int
  outputDigest : String
  outputBytes : Nat
  usage : Option ModelUsageV1
  error : Option String
  signature : String
deriving DecidableEq

/-- `ModelExecutionReceiptV1::SCHEMA`. -/
def ModelExecutionReceiptV1.schemaName : String := "rampage.model-execution-receipt.v1"

/-- A frame of the worker's answer; the receipt comes with the last one. -/
structure ModelInvocationFrameV1 where
  schema : String
  requestId : Uuid
  sequence : Nat
  kind : ModelInvocationFrameKind
  content : String
  finishReason : Option String
  error : Option String
  receipt : Option ModelExecutionReceiptV1
deriving DecidableEq

/-- `ModelInvocationFrameV1::SCHEMA`. -/
def ModelInvocationFrameV1.schemaName : String := "rampage.model-invocation-frame.v1"

/-! ## JSON -/

/-- The name serde writes for it. -/
def ModelBackend.text : ModelBackend → String
  | .localOllama => "local_ollama"
  | .exoMlx => "exo_mlx"
  | .vllmRay => "vllm_ray"

/-- The name serde writes for it. -/
def ModelParallelism.text : ModelParallelism → String
  | .wholeModel => "whole_model"
  | .pipeline => "pipeline"
  | .tensor => "tensor"
  | .replica => "replica"
  | .speculative => "speculative"

/-- The name serde writes for it. -/
def JobState.text : JobState → String
  | .proposed => "proposed"
  | .admitted => "admitted"
  | .prepared => "prepared"
  | .running => "running"
  | .succeeded => "succeeded"
  | .failed => "failed"
  | .ambiguous => "ambiguous"
  | .cancelled => "cancelled"
  | .fenced => "fenced"

/-- The name serde writes for it. -/
def ModelInvocationFrameKind.text : ModelInvocationFrameKind → String
  | .delta => "delta"
  | .complete => "complete"
  | .error => "error"

/-- The texts that serde's writers make of instants and of finite floats. -/
structure ModelTexts where
  timeText : Int → String
  f32Text : F32 → JsonNumber

/-- A UUID in JSON. -/
def Uuid.toJson (u : Uuid) : Json := .str (Uuid.hyphenated u)

/-- A natural number in JSON. -/
def jsonNat (n : Nat) : Json := .num (.ofNat n)

/-- The fields as serde writes them, in the order of the struct. -/
def ModelUsageV1.toJson (u : ModelUsageV1) : Json :=
  .obj [("prompt_tokens", jsonNat u.promptTokens), ("completion_tokens", jsonNat u.completionTokens)]

/-- The fields as serde writes them, in the order of the struct. -/
def ModelChatMessageV1.toJson (m : ModelChatMessageV1) : Json := .obj [("role", .str m.role), ("content", .str m.content)]

section

variable (texts : ModelTexts)

/-- A float in JSON: what is not finite is written as null. -/
def F32.toJson (v : F32) : Json := if F32.isFinite v then .num (texts.f32Text v) else .null

/-- The fields as serde writes them; times are texts that the parameters give. -/
def ModelSessionLeaseV1.toJson (l : ModelSessionLeaseV1) : Json :=
  .obj [("schema", .str l.schema), ("lease_id", Uuid.toJson l.leaseId), ("session_id", Uuid.toJson l.sessionId),
    ("node_id", Uuid.toJson l.nodeId), ("controller_endpoint_id", .str l.controllerEndpointId),
    ("model_id", .str l.modelId), ("model_digest", .str l.modelDigest), ("backend", .str l.backend.text),
    ("runtime_digest", .str l.runtimeDigest), ("parallelism", .str l.parallelism.text),
    ("max_prompt_bytes", jsonNat l.maxPromptBytes), ("max_output_tokens", jsonNat l.maxOutputTokens),
    ("issued_at", .str (texts.timeText l.issuedAt)), ("expires_at", .str (texts.timeText l.expiresAt)),
    ("nonce", .str l.nonce), ("fencing_epoch", jsonNat l.fencingEpoch), ("signature", .str l.signature)]

/-- The fields as serde writes them; the two numbers of sampling are left out where they are not
set. -/
def ModelInvocationRequestV1.toJson (r : ModelInvocationRequestV1) : Json :=
  .obj ([("schema", .str r.schema), ("request_id", Uuid.toJson r.requestId), ("lease", r.lease.toJson texts),
    ("messages", .arr (r.messages.map ModelChatMessageV1.toJson)), ("max_output_tokens", jsonNat r.maxOutputTokens),
    ("stream", .bool r.stream)] ++ (Json.field? "temperature" (r.temperature.map (F32.toJson texts)) ++
      Json.field? "top_p" (r.topP.map (F32.toJson texts))))

/-- The fields as serde writes them; usage and error are left out where there are none. -/
def ModelExecutionReceiptV1.toJson (r : ModelExecutionReceiptV1) : Json :=
  .obj ([("schema", .str r.schema), ("receipt_id", Uuid.toJson r.receiptId), ("lease_id", Uuid.toJson r.leaseId),
    ("session_id", Uuid.toJson r.sessionId), ("request_id", Uuid.toJson r.requestId), ("node_id", Uuid.toJson r.nodeId),
    ("state", .str r.state.text), ("started_at", .str (texts.timeText r.startedAt)),
    ("finished_at", .str (texts.timeText r.finishedAt)), ("output_digest", .str r.outputDigest),
    ("output_bytes", jsonNat r.outputBytes)] ++ (Json.field? "usage" (r.usage.map ModelUsageV1.toJson) ++
      (Json.field? "error" (r.error.map .str) ++ [("signature", .str r.signature)])))

/-- The fields as serde writes them; what a delta does not have is left out. -/
def ModelInvocationFrameV1.toJson (f : ModelInvocationFrameV1) : Json :=
  .obj ([("schema", .str f.schema), ("request_id", Uuid.toJson f.requestId), ("sequence", jsonNat f.sequence),
    ("kind", .str f.kind.text), ("content", .str f.content)] ++ (Json.field? "finish_reason" (f.finishReason.map .str) ++
      (Json.field? "error" (f.error.map .str) ++ Json.field? "receipt" (f.receipt.map (·.toJson texts)))))

end

/-! ## Sizes -/

/-- The digits of a number. -/
def decimalLen (n : Nat) : Nat := (Nat.toDigits 10 n).length

/-- The bytes of a truth value. -/
def boolLen (b : Bool) : Nat := if b then 4 else 5

/-- The bytes of the messages of an invocation, with their commas. -/
def messagesLen (messages : List ModelChatMessageV1) : Nat :=
  (messages.map fun m => 21 + quotedLen m.role + quotedLen m.content).sum

@[simp] theorem size_uuid (u : Uuid) : (Uuid.toJson u).size = 38 := by
  rw [Uuid.toJson, Json.size_str, quotedLen_of_isPlain (Uuid.isPlain_hyphenated u), Uuid.length_hyphenated]

@[simp] theorem size_jsonNat (n : Nat) : (jsonNat n).size = decimalLen n := Json.size_num _

@[simp] theorem size_bool (b : Bool) : (Json.bool b).size = boolLen b := by
  cases b
  · exact Json.size_false
  · exact Json.size_true

theorem quotedLen_encode (l : List UInt8) : quotedLen (Hex.encode l) = 2 * l.length + 2 := by
  have hlist : (Hex.encode l).toList = Hex.digits l := String.toList_ofList
  rw [quotedLen_of_isPlain (by rw [hlist]; exact Uuid.isPlain_digits l), hlist, Hex.length_digits]

theorem decimalLen_le {n k : Nat} (hk : 0 < k) (h : n < 10 ^ k) : decimalLen n ≤ k :=
  (Nat.length_toDigits_le_iff (by decide) hk).2 h

theorem size_message (m : ModelChatMessageV1) : m.toJson.size = 20 + quotedLen m.role + quotedLen m.content := by
  have hkeys : quotedLen "role" = 6 ∧ quotedLen "content" = 9 := by decide
  rw [ModelChatMessageV1.toJson, Json.size_obj (List.cons_ne_nil _ _)]
  simp only [List.map_cons, List.map_nil, List.sum_cons, List.sum_nil, Json.entrySize, Json.size_str, hkeys]
  omega

theorem size_messages {messages : List ModelChatMessageV1} (h : messages ≠ []) :
    (Json.arr (messages.map ModelChatMessageV1.toJson)).size = 1 + messagesLen messages := by
  have hone : ∀ l : List ModelChatMessageV1,
      ((l.map ModelChatMessageV1.toJson).map fun v => 1 + v.size).sum = messagesLen l := by
    intro l
    induction l with
    | nil => rfl
    | cons m l ih =>
      have hl : messagesLen (m :: l) = 21 + quotedLen m.role + quotedLen m.content + messagesLen l := by
        rw [messagesLen, List.map_cons, List.sum_cons]
        rfl
      rw [List.map_cons, List.map_cons, List.sum_cons, ih, size_message, hl]
      omega
  rw [Json.size_arr (by simpa using h), hone]

section

variable (texts : ModelTexts)

/-- The bytes of a float that may be left out, under a key of the given length. -/
def floatLen (key : Nat) (v : Option F32) : Nat :=
  match v with
  | none => 0
  | some v => key + 4 + (F32.toJson texts v).size

theorem size_lease (l : ModelSessionLeaseV1) : (l.toJson texts).size =
    367 + quotedLen l.schema + quotedLen l.controllerEndpointId + quotedLen l.modelId + quotedLen l.modelDigest +
      quotedLen l.backend.text + quotedLen l.runtimeDigest + quotedLen l.parallelism.text + decimalLen l.maxPromptBytes +
      decimalLen l.maxOutputTokens + quotedLen (texts.timeText l.issuedAt) + quotedLen (texts.timeText l.expiresAt) +
      quotedLen l.nonce + decimalLen l.fencingEpoch + quotedLen l.signature := by
  have hkeys : quotedLen "schema" = 8 ∧ quotedLen "lease_id" = 10 ∧ quotedLen "session_id" = 12 ∧
      quotedLen "node_id" = 9 ∧ quotedLen "controller_endpoint_id" = 24 ∧ quotedLen "model_id" = 10 ∧
      quotedLen "model_digest" = 14 ∧ quotedLen "backend" = 9 ∧ quotedLen "runtime_digest" = 16 ∧
      quotedLen "parallelism" = 13 ∧ quotedLen "max_prompt_bytes" = 18 ∧ quotedLen "max_output_tokens" = 19 ∧
      quotedLen "issued_at" = 11 ∧ quotedLen "expires_at" = 12 ∧ quotedLen "nonce" = 7 ∧
      quotedLen "fencing_epoch" = 15 ∧ quotedLen "signature" = 11 := by decide
  rw [ModelSessionLeaseV1.toJson, Json.size_obj (List.cons_ne_nil _ _)]
  simp only [List.map_cons, List.map_nil, List.sum_cons, List.sum_nil, Json.entrySize, Json.size_str, size_uuid,
    size_jsonNat, hkeys]
  omega

/-- The size of an invocation, in terms of the sizes of what it carries. -/
theorem ModelInvocationRequestV1.size_toJson {r : ModelInvocationRequestV1} (h : r.messages ≠ []) :
    (r.toJson texts).size = 116 + quotedLen r.schema + (r.lease.toJson texts).size + messagesLen r.messages +
      decimalLen r.maxOutputTokens + boolLen r.stream + floatLen texts 11 r.temperature + floatLen texts 5 r.topP := by
  have hkeys : quotedLen "schema" = 8 ∧ quotedLen "request_id" = 12 ∧ quotedLen "lease" = 7 ∧
      quotedLen "messages" = 10 ∧ quotedLen "max_output_tokens" = 19 ∧ quotedLen "stream" = 8 := by decide
  -- a number that is left out takes its key with it
  have hfloat : ∀ (k : String) (v : Option F32), quotedLen k = k.toList.length + 2 →
      ((Json.field? k (v.map (F32.toJson texts))).map Json.entrySize).sum = floatLen texts k.toList.length v := by
    intro k v hk
    cases v with
    | none => rfl
    | some v =>
      simp only [Json.field?, Option.map_some, Option.toList_some, List.map_cons, List.map_nil, List.sum_cons,
        List.sum_nil, Json.entrySize, hk, floatLen]
      omega
  have htemperature := hfloat "temperature" r.temperature (by decide)
  have htop := hfloat "top_p" r.topP (by decide)
  rw [show ("temperature" : String).toList.length = 11 by decide] at htemperature
  rw [show ("top_p" : String).toList.length = 5 by decide] at htop
  rw [ModelInvocationRequestV1.toJson, Json.size_obj (by simp), List.map_append, List.map_append, List.sum_append,
    List.sum_append, htemperature, htop]
  simp only [List.map_cons, List.map_nil, List.sum_cons, List.sum_nil, Json.entrySize, Json.size_str, size_uuid,
    size_jsonNat, size_bool, size_messages h, hkeys]
  omega

/-- The bytes of a text that may be left out, under a key of the given length. -/
def textLen (key : Nat) (v : Option String) : Nat :=
  match v with
  | none => 0
  | some s => key + 4 + quotedLen s

theorem size_field_text {k : String} (hk : quotedLen k = k.toList.length + 2) (v : Option String) :
    ((Json.field? k (v.map .str)).map Json.entrySize).sum = textLen k.toList.length v := by
  cases v with
  | none => rfl
  | some s =>
    simp only [Json.field?, Option.map_some, Option.toList_some, List.map_cons, List.map_nil, List.sum_cons, List.sum_nil,
      Json.entrySize, Json.size_str, hk, textLen]
    omega

/-- The bytes of a usage that may be left out. -/
def usageLen (v : Option ModelUsageV1) : Nat :=
  match v with
  | none => 0
  | some u => 48 + decimalLen u.promptTokens + decimalLen u.completionTokens

theorem size_field_usage (v : Option ModelUsageV1) :
    ((Json.field? "usage" (v.map ModelUsageV1.toJson)).map Json.entrySize).sum = usageLen v := by
  have hkeys : quotedLen "usage" = 7 ∧ quotedLen "prompt_tokens" = 15 ∧ quotedLen "completion_tokens" = 19 := by decide
  cases v with
  | none => rfl
  | some u =>
    simp only [Json.field?, Option.map_some, Option.toList_some, List.map_cons, List.map_nil, List.sum_cons, List.sum_nil,
      Json.entrySize, ModelUsageV1.toJson, Json.size_obj (List.cons_ne_nil _ _), size_jsonNat, hkeys, usageLen]
    omega

theorem ModelExecutionReceiptV1.size_toJson (r : ModelExecutionReceiptV1) : (r.toJson texts).size =
    350 + quotedLen r.schema + quotedLen r.state.text + quotedLen (texts.timeText r.startedAt) +
      quotedLen (texts.timeText r.finishedAt) + quotedLen r.outputDigest + decimalLen r.outputBytes + usageLen r.usage +
      textLen 5 r.error + quotedLen r.signature := by
  have hkeys : quotedLen "schema" = 8 ∧ quotedLen "receipt_id" = 12 ∧ quotedLen "lease_id" = 10 ∧
      quotedLen "session_id" = 12 ∧ quotedLen "request_id" = 12 ∧ quotedLen "node_id" = 9 ∧ quotedLen "state" = 7 ∧
      quotedLen "started_at" = 12 ∧ quotedLen "finished_at" = 13 ∧ quotedLen "output_digest" = 15 ∧
      quotedLen "output_bytes" = 14 ∧ quotedLen "signature" = 11 := by decide
  have herror := @size_field_text "error" (by decide) r.error
  rw [show ("error" : String).toList.length = 5 by decide] at herror
  rw [ModelExecutionReceiptV1.toJson, Json.size_obj (by simp), List.map_append, List.map_append, List.map_append,
    List.sum_append, List.sum_append, List.sum_append, size_field_usage, herror]
  simp only [List.map_cons, List.map_nil, List.sum_cons, List.sum_nil, Json.entrySize, Json.size_str, size_uuid,
    size_jsonNat, hkeys]
  omega

/-- The bytes of a receipt that may be left out. -/
def receiptLen (v : Option ModelExecutionReceiptV1) : Nat :=
  match v with
  | none => 0
  | some r => 11 + (r.toJson texts).size

/-- The size of a frame, in terms of the sizes of what it carries. -/
theorem ModelInvocationFrameV1.size_toJson (f : ModelInvocationFrameV1) : (f.toJson texts).size =
    94 + quotedLen f.schema + decimalLen f.sequence + quotedLen f.kind.text + quotedLen f.content +
      textLen 13 f.finishReason + textLen 5 f.error + receiptLen texts f.receipt := by
  have hkeys : quotedLen "schema" = 8 ∧ quotedLen "request_id" = 12 ∧ quotedLen "sequence" = 10 ∧ quotedLen "kind" = 6 ∧
      quotedLen "content" = 9 ∧ quotedLen "receipt" = 9 := by decide
  have hreason := @size_field_text "finish_reason" (by decide) f.finishReason
  have herror := @size_field_text "error" (by decide) f.error
  rw [show ("finish_reason" : String).toList.length = 13 by decide] at hreason
  rw [show ("error" : String).toList.length = 5 by decide] at herror
  have hreceipt : ((Json.field? "receipt" (f.receipt.map (·.toJson texts))).map Json.entrySize).sum =
      receiptLen texts f.receipt := by
    cases f.receipt with
    | none => rfl
    | some r =>
      simp only [Json.field?, Option.map_some, Option.toList_some, List.map_cons, List.map_nil, List.sum_cons,
        List.sum_nil, Json.entrySize, hkeys, receiptLen]
      omega
  rw [ModelInvocationFrameV1.toJson, Json.size_obj (by simp), List.map_append, List.map_append, List.map_append,
    List.sum_append, List.sum_append, List.sum_append, hreason, herror, hreceipt]
  simp only [List.map_cons, List.map_nil, List.sum_cons, List.sum_nil, Json.entrySize, Json.size_str, size_uuid,
    size_jsonNat, hkeys]
  omega

end

/-! ## The JSON determines the value -/

/-- The floats of an invocation are finite. -/
def ModelInvocationRequestV1.IsFinite (r : ModelInvocationRequestV1) : Prop :=
  (∀ v ∈ r.temperature, F32.isFinite v = true) ∧ ∀ v ∈ r.topP, F32.isFinite v = true

theorem jsonNat_inj {m n : Nat} : jsonNat m = jsonNat n ↔ m = n := by
  constructor
  · intro h
    have := JsonNumber.toNat?_ofNat m
    rw [Json.num.inj h, JsonNumber.toNat?_ofNat] at this
    exact (Option.some.inj this).symm
  · exact congrArg jsonNat

theorem uuidJson_inj {u v : Uuid} : Uuid.toJson u = Uuid.toJson v ↔ u = v :=
  ⟨fun h => Uuid.hyphenated_injective (Json.str.inj h), congrArg Uuid.toJson⟩

theorem ModelBackend.text_inj {a b : ModelBackend} : a.text = b.text ↔ a = b := by
  cases a <;> cases b <;> decide

theorem ModelParallelism.text_inj {a b : ModelParallelism} : a.text = b.text ↔ a = b := by
  cases a <;> cases b <;> decide

theorem JobState.text_inj {a b : JobState} : a.text = b.text ↔ a = b := by
  cases a <;> cases b <;> decide

theorem ModelInvocationFrameKind.text_inj {a b : ModelInvocationFrameKind} : a.text = b.text ↔ a = b := by
  cases a <;> cases b <;> decide

theorem usageJson_inj {a b : ModelUsageV1} : a.toJson = b.toJson ↔ a = b := by
  obtain ⟨p, c⟩ := a
  obtain ⟨p', c'⟩ := b
  simp [ModelUsageV1.toJson, jsonNat_inj]

theorem messages_inj : Function.Injective fun l : List ModelChatMessageV1 => l.map ModelChatMessageV1.toJson := by
  refine List.map_injective_iff.2 ?_
  rintro ⟨r, c⟩ ⟨r', c'⟩ h
  simpa [ModelChatMessageV1.toJson] using h

section

variable {texts : ModelTexts} (htime : Function.Injective texts.timeText) (hfloat : Function.Injective texts.f32Text)
include htime

theorem leaseJson_inj : Function.Injective (ModelSessionLeaseV1.toJson texts) := by
  intro a b h
  obtain ⟨⟩ := a
  obtain ⟨⟩ := b
  simpa [ModelSessionLeaseV1.toJson, uuidJson_inj, jsonNat_inj, ModelBackend.text_inj, ModelParallelism.text_inj,
    htime.eq_iff] using h

theorem receiptJson_inj : Function.Injective (ModelExecutionReceiptV1.toJson texts) := by
  intro a b h
  obtain ⟨s, i, l, se, r, n, st, t0, t1, d, o, usage, error, sig⟩ := a
  obtain ⟨s', i', l', se', r', n', st', t0', t1', d', o', usage', error', sig'⟩ := b
  -- a field that only one of them has shows in the keys
  cases usage <;> cases usage' <;> cases error <;> cases error' <;>
    simp_all [ModelExecutionReceiptV1.toJson, Json.field?, uuidJson_inj, jsonNat_inj, JobState.text_inj, usageJson_inj,
      htime.eq_iff]

theorem frameJson_inj : Function.Injective (ModelInvocationFrameV1.toJson texts) := by
  intro a b h
  obtain ⟨s, r, n, k, c, reason, error, receipt⟩ := a
  obtain ⟨s', r', n', k', c', reason', error', receipt'⟩ := b
  cases reason <;> cases reason' <;> cases error <;> cases error' <;> cases receipt <;> cases receipt' <;>
    simp_all [ModelInvocationFrameV1.toJson, Json.field?, uuidJson_inj, jsonNat_inj, ModelInvocationFrameKind.text_inj,
      (receiptJson_inj htime).eq_iff]

include hfloat in
theorem requestJson_inj {a b : ModelInvocationRequestV1} (ha : a.IsFinite) (hb : b.IsFinite)
    (h : a.toJson texts = b.toJson texts) : a = b := by
  obtain ⟨s, i, l, m, o, st, temperature, top⟩ := a
  obtain ⟨s', i', l', m', o', st', temperature', top'⟩ := b
  -- only finite floats are written apart: the others are all null
  have hvalue : ∀ v w : F32, F32.isFinite v = true → F32.isFinite w = true →
      (F32.toJson texts v = F32.toJson texts w ↔ v = w) := by
    intro v w hv hw
    rw [F32.toJson, F32.toJson, if_pos hv, if_pos hw]
    exact ⟨fun h => hfloat (Json.num.inj h), fun h => by rw [h]⟩
  unfold ModelInvocationRequestV1.IsFinite at ha hb
  cases temperature <;> cases temperature' <;> cases top <;> cases top' <;>
    simp_all [ModelInvocationRequestV1.toJson, Json.field?, uuidJson_inj, jsonNat_inj, messages_inj.eq_iff,
      (leaseJson_inj htime).eq_iff]

end

end Rampage.Protocol
