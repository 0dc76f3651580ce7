/-
The two chat APIs of the gateway: `openai_chat_completions` and `anthropic_messages`, over one model session. A request of
the second kind is translated to one of the first (`translate_anthropic_request`). An answer is one JSON text, or a stream
of events to which `consume_model_invocation` adds an event for each delta it accepts.
-/
import Mathlib
import Rampage.Controller.Transcript
import Rampage.Lib.Sse

/-- An integer. -/
def JsonNumber.ofInt : Int → JsonNumber
  | .ofNat n => .ofNat n
  | .negSucc n =>
    { text := '-' :: Nat.toDigits 10 (n + 1)
      begins := rfl
      chars := by
        intro c hc
        rcases List.mem_cons.1 hc with rfl | hc
        · rfl
        · simp [isNumberChar, Nat.isDigit_of_mem_toDigits (by omega) (by omega) hc] }

namespace Rampage.Controller

open Rampage.Protocol Rampage.Mesh Rampage.Agent

/-! ## Responses -/

/-- An HTTP response: the status code, the headers in the order they are set, and the body. -/
structure Response where
  status : Nat
  headers : List (String × String)
  body : List UInt8
deriving DecidableEq

/-- `Json::into_response`, with a status. -/
def jsonResponse (status : Nat) (value : Json) : Response :=
  { status := status, headers := [("content-type", "application/json")], body := value.toVec }

/-- One more header, after the others. -/
def Response.withHeader (r : Response) (name value : String) : Response := { r with headers := r.headers ++ [(name, value)] }

/-- A streamed response. -/
def eventResponse (headers : List (String × String)) (events : List Sse.Event) : Response :=
  { status := 200
    headers := [("content-type", "text/event-stream"), ("cache-control", "no-cache")] ++ headers
    body := events.flatMap Sse.Event.encode }

/-- The error of an answer in the first API. -/
def openaiErrorValue (message kind : String) (param : Option String) (code : String) : Json :=
  .obj [("error", .obj [("code", .str code), ("message", .str message), ("param", param.elim .null .str), ("type", .str kind)])]

/-- `openai_error`. -/
def openaiError (status : Nat) (message kind : String) (param : Option String) (code : String) : Response :=
  jsonResponse status (openaiErrorValue message kind param code)

/-- `gateway_failure_response`: what the OpenAI API answers when a completion fails. -/
def gatewayFailureResponse (error : ModelGatewayFailure) : Response :=
  openaiError error.status (boundedGatewayError error.message) error.kind none error.code

/-- The error of an answer in the second API. -/
def anthropicErrorValue (message kind : String) : Json :=
  .obj [("error", .obj [("message", .str message), ("type", .str kind)]), ("type", .str "error")]

/-- `anthropic_error`. -/
def anthropicError (status : Nat) (message kind : String) : Response := jsonResponse status (anthropicErrorValue message kind)

/-- `anthropic_failure_kind`. -/
def anthropicFailureKind (status : Nat) : String :=
  if status = 400 ∨ status = 413 then "invalid_request_error"
  else if status = 401 then "authentication_error"
  else if status = 403 then "permission_error"
  else if status = 404 then "not_found_error"
  else if status = 429 then "rate_limit_error"
  else "api_error"

/-- `anthropic_gateway_failure_response`: what the Anthropic API answers when a completion fails. -/
def anthropicGatewayFailureResponse (error : ModelGatewayFailure) : Response :=
  anthropicError error.status (boundedGatewayError error.message) (anthropicFailureKind error.status)

/-- `anthropic_stop_reason`. -/
def anthropicStopReason (finishReason : String) : String := if finishReason = "length" then "max_tokens" else "end_turn"

/-! ## Events -/

/-- `openai_sse`: the event has no name. -/
def openaiSse (value : Json) : Sse.Event := ⟨[], value.toVec⟩

/-- `anthropic_sse`: the event has the name its `type` says. -/
def anthropicSse (event : String) (value : Json) : Sse.Event := ⟨utf8 event, value.toVec⟩

/-- `data: [DONE]`. -/
def doneSse : Sse.Event := ⟨[], utf8 "[DONE]"⟩

/-- `DateTime::timestamp`. -/
def timestamp (t : Int) : Int := t / 1000000000

section

variable (invocation : ModelInvocationRequestV1)

/-- The id of an answer in the first API. -/
def completionId : String := "chatcmpl-" ++ simpleText invocation.requestId

/-- A chunk of an answer. -/
def openaiChunk (modelId : String) (delta finishReason : Json) : Json :=
  .obj
    [("choices", .arr [.obj [("delta", delta), ("finish_reason", finishReason), ("index", jsonNat 0)]]),
      ("created", .num (.ofInt (timestamp invocation.lease.issuedAt))), ("id", .str (completionId invocation)),
      ("model", .str modelId), ("object", .str "chat.completion.chunk")]

/-- The event of a delta, in the first API. -/
def openaiDelta (content : String) : Sse.Event :=
  openaiSse (openaiChunk invocation invocation.lease.modelId (.obj [("content", .str content)]) .null)

/-- The event of a delta, in the second API. -/
def anthropicDelta (content : String) : Sse.Event :=
  anthropicSse "content_block_delta"
    (.obj [("delta", .obj [("text", .str content), ("type", .str "text_delta")]), ("index", jsonNat 0),
      ("type", .str "content_block_delta")])

/-- `consume_model_invocation` with a channel, from a turn of its loop on: the contents of the deltas it sends, and what it
returns. -/
def streamModelInvocation (k : ModelConsumer) (turn expected : Nat) (output : String) (stream : List UInt8) :
    List String × Except ModelGatewayFailure ModelGatewayCompletion :=
  match interruption invocation.lease.expiresAt (k.turn turn) with
  -- the lease has expired, or the client is gone
  | some failure => ([], .error failure)
  | none =>
    match _h : nextFrame k.codec invocation.requestId stream with
    | .error e => ([], .error (invalidWorkerStream (boundedGatewayError (k.faultText e))))
    | .ok (frame, rest) =>
      if frame.sequence ≠ expected then ([], .error (invalidWorkerStream "model frame sequence is not contiguous"))
      else if frame.kind = .delta then
        -- a delta is sent on before the receipt is known
        match acceptDelta k (k.turn turn).disconnected frame output with
        | .error e => ([], .error e)
        | .ok output =>
          let next := streamModelInvocation k (turn + 1) (U64.satAdd expected 1) output rest
          (frame.content :: next.1, next.2)
      else ([], acceptTerminal k invocation frame expected output)
termination_by stream.length
decreasing_by exact length_lt_of_nextFrame (by assumption)

/-! ## Answers of the first API -/

/-- The last event of an answer before `[DONE]`. -/
def openaiLast (modelId : String) : Except ModelGatewayFailure ModelGatewayCompletion → Sse.Event
  | .ok completion => openaiSse (openaiChunk invocation modelId (.obj []) (.str completion.finishReason))
  | .error error => openaiSse (openaiErrorValue error.message error.kind none error.code)

/-- The events that the task of a streamed answer sends. -/
def openaiEvents (k : ModelConsumer) (modelId : String) (stream : List UInt8) : List Sse.Event :=
  let run := streamModelInvocation invocation { k with streaming := true } 0 0 "" stream
  openaiSse (openaiChunk invocation modelId (.obj [("role", .str "assistant")]) .null) ::
    (run.1.map (openaiDelta invocation) ++ [openaiLast invocation modelId run.2, doneSse])

/-- The `usage` object of a complete answer; the total saturates. -/
def openaiUsage (usage : ModelUsageV1) : Json :=
  .obj [("completion_tokens", jsonNat usage.completionTokens), ("prompt_tokens", jsonNat usage.promptTokens),
    ("total_tokens", jsonNat (U64.satAdd usage.promptTokens usage.completionTokens))]

/-- A whole answer. -/
def openaiCompletion (modelId : String) (completion : ModelGatewayCompletion) : Json :=
  .obj
    ([("choices", .arr [.obj [("finish_reason", .str completion.finishReason), ("index", jsonNat 0),
        ("message", .obj [("content", .str completion.content), ("role", .str "assistant")])]]),
      ("created", .num (.ofInt (timestamp invocation.lease.issuedAt))), ("id", .str (completionId invocation)),
      ("model", .str modelId), ("object", .str "chat.completion")] ++
      completion.usage.elim [] fun usage => [("usage", openaiUsage usage)])

/-- `openai_chat_completions`, once the invocation is started. -/
def openaiAnswer (k : ModelConsumer) (modelId : String) (wantsStream : Bool) (stream : List UInt8) : Response :=
  let session := Uuid.hyphenated invocation.lease.sessionId
  if wantsStream then eventResponse [("x-rampage-session-id", session)] (openaiEvents invocation k modelId stream)
  else
    match consumeModelInvocation { k with streaming := false } invocation 0 0 "" stream with
    | .ok completion =>
      (jsonResponse 200 (openaiCompletion invocation modelId completion)).withHeader "x-rampage-session-id" session
    | .error error => gatewayFailureResponse error

/-! ## Answers of the second API -/

/-- The message of a completion whose receipt carries no usage. -/
def missingUsage : String := "worker omitted required verified token usage"

/-- The id of an answer in the second API. -/
def messageId : String := "msg_" ++ simpleText invocation.requestId

/-- The `usage` object of a message. -/
def anthropicUsage (promptTokens completionTokens : Nat) : Json :=
  .obj [("input_tokens", jsonNat promptTokens), ("output_tokens", jsonNat completionTokens)]

/-- The event that begins an answer. -/
def messageStart (modelId : String) : Sse.Event :=
  anthropicSse "message_start"
    (.obj
      [("message", .obj
        [("content", .arr []), ("id", .str (messageId invocation)), ("model", .str modelId), ("role", .str "assistant"),
          ("stop_reason", .null), ("stop_sequence", .null), ("type", .str "message"), ("usage", anthropicUsage 0 0)]),
        ("type", .str "message_start")])

/-- A message has one text block, with index 0. -/
def contentBlockStart : Sse.Event :=
  anthropicSse "content_block_start"
    (.obj [("content_block", .obj [("text", .str ""), ("type", .str "text")]), ("index", jsonNat 0),
      ("type", .str "content_block_start")])

/-- The end of the text block. -/
def contentBlockStop : Sse.Event :=
  anthropicSse "content_block_stop" (.obj [("index", jsonNat 0), ("type", .str "content_block_stop")])

/-- The stop reason and the usage, before the end of the message. -/
def messageDelta (finishReason : String) (usage : ModelUsageV1) : Sse.Event :=
  anthropicSse "message_delta"
    (.obj
      [("delta", .obj [("stop_reason", .str (anthropicStopReason finishReason)), ("stop_sequence", .null)]),
        ("type", .str "message_delta"), ("usage", anthropicUsage usage.promptTokens usage.completionTokens)])

/-- The last event of a stream that succeeded. -/
def messageStop : Sse.Event := anthropicSse "message_stop" (.obj [("type", .str "message_stop")])

/-- The last events of an answer. -/
def anthropicLast : Except ModelGatewayFailure ModelGatewayCompletion → List Sse.Event
  | .ok completion =>
    match completion.usage with
    | some usage => [contentBlockStop, messageDelta completion.finishReason usage, messageStop]
    -- without usage the deltas stand, but the answer ends in an error
    | none => [anthropicSse "error" (anthropicErrorValue missingUsage "api_error")]
  | .error error =>
    [anthropicSse "error" (anthropicErrorValue (boundedGatewayError error.message) (anthropicFailureKind error.status))]

/-- The events that the task of a streamed answer sends. -/
def anthropicEvents (k : ModelConsumer) (modelId : String) (stream : List UInt8) : List Sse.Event :=
  let run := streamModelInvocation invocation { k with streaming := true } 0 0 "" stream
  messageStart invocation modelId :: contentBlockStart :: (run.1.map anthropicDelta ++ anthropicLast run.2)

/-- A whole answer. -/
def anthropicMessage (modelId : String) (completion : ModelGatewayCompletion) (usage : ModelUsageV1) : Json :=
  .obj
    [("content", .arr [.obj [("text", .str completion.content), ("type", .str "text")]]), ("id", .str (messageId invocation)),
      ("model", .str modelId), ("role", .str "assistant"),
      ("stop_reason", .str (anthropicStopReason completion.finishReason)), ("stop_sequence", .null), ("type", .str "message"),
      ("usage", anthropicUsage usage.promptTokens usage.completionTokens)]

/-- `anthropic_messages`, once the invocation is started. -/
def anthropicAnswer (k : ModelConsumer) (modelId : String) (wantsStream : Bool) (stream : List UInt8) : Response :=
  let session := Uuid.hyphenated invocation.lease.sessionId
  let request := "req_" ++ simpleText invocation.requestId
  if wantsStream then
    eventResponse [("x-rampage-session-id", session), ("request-id", request)] (anthropicEvents invocation k modelId stream)
  else
    match consumeModelInvocation { k with streaming := false } invocation 0 0 "" stream with
    | .ok completion =>
      match completion.usage with
      | none => anthropicError 502 missingUsage "api_error"
      | some usage =>
        ((jsonResponse 200 (anthropicMessage invocation modelId completion usage)).withHeader
          "x-rampage-session-id" session).withHeader "request-id" request
    | .error error => anthropicGatewayFailureResponse error

end

/-! ## Requests of the second API -/

/-- A block of content; only the text blocks of the API are read. -/
structure AnthropicTextBlock where
  type : String
  text : String
deriving DecidableEq

/-- Content is a text or a list of blocks. -/
inductive AnthropicContent
  | text (text : String)
  | blocks (blocks : List AnthropicTextBlock)
deriving DecidableEq

/-- A message of the conversation. -/
structure AnthropicMessage where
  role : String
  content : AnthropicContent
deriving DecidableEq

/-- The body of `POST /v1/messages`. -/
structure AnthropicMessagesRequest where
  model : String
  maxTokens : Nat
  messages : List AnthropicMessage
  system : Option AnthropicContent
  stream : Bool
  temperature : Option F32
  topP : Option F32
deriving DecidableEq

/-- `anthropic_content_text`. -/
def anthropicContentText (content : AnthropicContent) : Except ModelGatewayFailure String :=
  let text : Except ModelGatewayFailure String :=
    match content with
    | .text text => .ok text
    | .blocks blocks =>
      if blocks = [] ∨ blocks.any (fun block => block.type != "text" || block.text == "") = true then
        .error (invalidModelRequest "only non-empty Anthropic text content blocks are supported")
      else .ok (String.join (blocks.map (·.text)))
  match text with
  | .error e => .error e
  | .ok text => if text = "" then .error (invalidModelRequest "Anthropic message content must not be empty") else .ok text

/-- The loop of `translate_anthropic_request` over the messages. -/
def translateMessages : List AnthropicMessage → Except ModelGatewayFailure (List OpenAiChatMessage)
  | [] => .ok []
  | message :: messages =>
    if ¬ (message.role = "user" ∨ message.role = "assistant") then
      .error (invalidModelRequest "Anthropic messages support only user and assistant roles")
    else
      match anthropicContentText message.content with
      | .error e => .error e
      | .ok content =>
        match translateMessages messages with
        | .error e => .error e
        | .ok rest => .ok (⟨message.role, content⟩ :: rest)

/-- The message of the system, if there is one. -/
def translateSystem : Option AnthropicContent → Except ModelGatewayFailure (List OpenAiChatMessage)
  | none => .ok []
  | some system =>
    match anthropicContentText system with
    | .error e => .error e
    | .ok content => .ok [⟨"system", content⟩]

/-- `translate_anthropic_request`. -/
def translateAnthropicRequest (request : AnthropicMessagesRequest) : Except ModelGatewayFailure OpenAiChatCompletionRequest :=
  if request.maxTokens = 0 then
    .error (invalidModelRequest "max_tokens must be positive; prompt-cache-only requests are not supported")
  else
    match translateSystem request.system with
    | .error e => .error e
    | .ok system =>
      match translateMessages request.messages with
      | .error e => .error e
      | .ok messages =>
        .ok
          { model := request.model
            messages := system ++ messages
            stream := request.stream
            -- the field of this API is mandatory and maps to the newer of the two
            maxTokens := none
            maxCompletionTokens := some request.maxTokens
            temperature := request.temperature
            topP := request.topP }

/-! ## The two handlers -/

section

variable (g : ModelGateway) (d : ModelDraws) (k : ModelConsumer) (s : AppState) (worker : List UInt8 → List UInt8)

/-- `openai_chat_completions`, of a request or the text of its rejection; `worker` is the stream that a worker answers what
is written to it with. -/
def openaiChatCompletions (payload : Except String OpenAiChatCompletionRequest) : Response :=
  match payload with
  | .error error => openaiError 400 (boundedGatewayError error) "invalid_request_error" none "invalid_json"
  | .ok request =>
    match validateOpenaiRequest request with
    | .error error => gatewayFailureResponse error
    | .ok maxOutputTokens =>
      match startModelInvocation g d s request maxOutputTokens with
      | .error error => gatewayFailureResponse error
      | .ok (invocation, sent) => openaiAnswer invocation k request.model request.stream (worker sent)

/-- `anthropic_messages`. -/
def anthropicMessages (payload : Except String AnthropicMessagesRequest) : Response :=
  match payload with
  | .error error => anthropicError 400 (boundedGatewayError error) "invalid_request_error"
  | .ok request =>
    match translateAnthropicRequest request with
    | .error error => anthropicGatewayFailureResponse error
    | .ok openaiRequest =>
      match validateOpenaiRequest openaiRequest with
      | .error error => anthropicGatewayFailureResponse error
      | .ok maxOutputTokens =>
        match startModelInvocation g d s openaiRequest maxOutputTokens with
        | .error error => anthropicGatewayFailureResponse error
        | .ok (invocation, sent) => anthropicAnswer invocation k request.model request.stream (worker sent)

end

end Rampage.Controller
