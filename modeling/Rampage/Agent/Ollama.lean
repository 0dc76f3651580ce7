/-
A worker's side of a model session. `run_ollama_invocation` reads the lines of the local Ollama, writes their text to the
controller in delta frames of at most 16 KiB of text and ends with a frame that carries its signed receipt. The request
to Ollama itself is not modelled: a run begins with its response.
-/
import Rampage.Lib.Cut
import Rampage.Lib.Handler
import Rampage.Mesh.Wire

namespace Rampage.Agent

open Rampage.Protocol Rampage.Mesh

/-! ## Lines -/

/-- A line of Ollama's answer. -/
structure OllamaChatChunk where
  model : Option String
  /-- The content of its message. -/
  content : Option String
  done : Bool
  doneReason : Option String
  promptEvalCount : Option UInt64
  evalCount : Option UInt64
  error : Option String
deriving DecidableEq

/-- What the last line of an answer says. -/
structure OllamaCompletion where
  finishReason : String
  usage : Option ModelUsageV1
deriving DecidableEq

/-- `bounded_error`. -/
def boundedError (error : String) : String := String.ofList (error.toList.take 512)

/-- `utf8_chunks`: the longest pieces that end between characters. -/
def utf8Chunks (value : String) (maxBytes : Nat) : List String :=
  if value.utf8ByteSize ≤ maxBytes then [value]
  else (Cut.pieces Char.utf8Size maxBytes value.toList).map String.ofList

/-- `u8::is_ascii_whitespace`. -/
def isAsciiWhitespace (b : UInt8) : Bool := b == 32 || b == 9 || b == 10 || b == 12 || b == 13

/-! ## Serving -/

/-- What a worker serves model sessions with. -/
structure OllamaWorker where
  codec : ModelCodec
  /-- `serde_json::from_slice`, of a line. -/
  readChunk : List UInt8 → Except String OllamaChatChunk
  sha256 : List UInt8 → { b : List UInt8 // b.length = 32 }
  /-- The worker's Ed25519 signature. -/
  signModelReceipt : ModelExecutionReceiptV1 → { b : List UInt8 // b.length = 64 }
  /-- The text of a failed write. -/
  faultText : MeshError → String

/-- The frames a worker makes, what it has written of them, the text it has read and the number of its next frame. -/
structure ModelStream where
  produced : List ModelInvocationFrameV1
  written : List UInt8
  output : List UInt8
  sequence : Nat

/-- Nothing is read and nothing is written. -/
def ModelStream.start : ModelStream := ⟨[], [], [], 0⟩

/-- The loop acts on the stream or fails with a text. -/
abbrev ModelRun (α : Type) := Handler ModelStream String α

section

variable (x : OllamaWorker) (request : ModelInvocationRequestV1)

/-- A frame that brings text. -/
def deltaFrame (sequence : Nat) (content : String) : ModelInvocationFrameV1 where
  schema := ModelInvocationFrameV1.schemaName
  requestId := request.requestId
  sequence := sequence
  kind := .delta
  content := content
  finishReason := none
  error := none
  receipt := none

/-- `write_model_frame`, on the stream of the session. -/
def writeFrame (frame : ModelInvocationFrameV1) : ModelRun Unit := fun s =>
  match writeModelFrame x.codec frame with
  | .error e => (.error (x.faultText e), { s with produced := s.produced ++ [frame] })
  | .ok bytes => (.ok (), { s with produced := s.produced ++ [frame], written := s.written ++ bytes })

/-- The text goes out in the next frame. -/
def sendDelta (content : String) : ModelRun Unit := do
  let s ← Handler.get
  writeFrame x (deltaFrame request s.sequence content)
  Handler.modify fun s => { s with sequence := U64.satAdd s.sequence 1 }

/-- The text of a line is counted, kept and sent. -/
def sendContent (content : String) : ModelRun Unit := do
  let s ← Handler.get
  Handler.ensure (U64.satAdd s.output.length content.utf8ByteSize ≤ maxModelOutputBytes)
    "model output exceeded the bounded response size"
  Handler.modify fun s => { s with output := s.output ++ utf8 content }
  Handler.forEach (sendDelta x request) (utf8Chunks content (16 * 1024))

/-- A line without text sends nothing. -/
def sendText (content : String) : ModelRun Unit := if content = "" then pure () else sendContent x request content

/-- The usage is there if both counts are. -/
def OllamaChatChunk.completion (chunk : OllamaChatChunk) : OllamaCompletion where
  finishReason := chunk.doneReason.getD "stop"
  usage := chunk.promptEvalCount.bind fun prompt => chunk.evalCount.map fun completion => ⟨prompt.toNat, completion.toNat⟩

/-- `process_ollama_line`. -/
def processOllamaLine (line : List UInt8) : ModelRun (Option OllamaCompletion) := do
  let chunk ← Handler.ofExcept (x.readChunk line)
  Handler.ensure chunk.error.isNone ("Ollama stream failed: " ++ boundedError (chunk.error.getD ""))
  Handler.ensure (chunk.model.all (· == request.lease.modelId)) "Ollama response model differs from its lease"
  sendText x request (chunk.content.getD "")
  pure (if chunk.done then some chunk.completion else none)

/-- The lines of a buffer, up to the one that completes the response. -/
def processLines : List (List UInt8) → ModelRun (Option OllamaCompletion)
  | [] => pure none
  | line :: rest =>
    if line.all isAsciiWhitespace then processLines rest
    else do
      match ← processOllamaLine x request line with
      | some completion => pure (some completion)
      | none => processLines rest

/-- The most bytes that wait for the end of their line. -/
def maxBufferedBytes : Nat := 256 * 1024

/-- The chunks of the response, up to the one that completes it; what is left of the buffer. -/
def readResponse (buffered : List UInt8) : List (Except String (List UInt8)) → ModelRun (Option OllamaCompletion × List UInt8)
  | [] => pure (none, buffered)
  | received :: rest => do
    let chunk ← Handler.ofExcept received
    let buffered := buffered ++ chunk
    Handler.ensure (buffered.length ≤ maxBufferedBytes) "Ollama emitted an oversized frame"
    match ← processLines x request (buffered.splitOn 10).dropLast with
    | some completion => pure (some completion, buffered)
    | none => readResponse ((buffered.splitOn 10).getLastD []) rest

/-- A response has to complete, with some text. -/
def complete (completion : Option OllamaCompletion) : ModelRun OllamaCompletion :=
  match completion with
  | none => Handler.fail "Ollama stream ended without a terminal frame"
  | some completion => do
    let s ← Handler.get
    Handler.ensure (!s.output.isEmpty) "Ollama completed without user-visible answer text"
    pure completion

/-- The `execution` of a session. -/
def execution (response : List (Except String (List UInt8))) : ModelRun OllamaCompletion := do
  let (completion, buffered) ← readResponse x request [] response
  if completion.isNone && !buffered.all isAsciiWhitespace then processOllamaLine x request buffered >>= complete
  else complete completion

/-- The clock readings and the identifier of a session. -/
structure ServeDraws where
  startedAt : Int
  finishedAt : Int
  receiptId : Uuid

/-- `format!("sha256:{}", hex::encode(..))`. -/
def digestText (sha256 : List UInt8 → { b : List UInt8 // b.length = 32 }) (bytes : List UInt8) : String :=
  "sha256:" ++ Hex.encode (sha256 bytes).1

variable (d : ServeDraws) (result : Except String OllamaCompletion) (s : ModelStream)

/-- The receipt before the worker signs it. -/
def unsignedModelReceipt : ModelExecutionReceiptV1 where
  schema := ModelExecutionReceiptV1.schemaName
  receiptId := d.receiptId
  leaseId := request.lease.leaseId
  sessionId := request.lease.sessionId
  requestId := request.requestId
  nodeId := request.lease.nodeId
  state := match result with
    | .ok _ => .succeeded
    | .error _ => .failed
  startedAt := d.startedAt
  finishedAt := d.finishedAt
  outputDigest := digestText x.sha256 s.output
  outputBytes := s.output.length
  usage := match result with
    | .ok completion => completion.usage
    | .error _ => none
  error := match result with
    | .ok _ => none
    | .error e => some (boundedError e)
  signature := ""

/-- `sign_model_receipt`. -/
def OllamaWorker.signed (x : OllamaWorker) (r : ModelExecutionReceiptV1) : ModelExecutionReceiptV1 :=
  { r with signature := Hex.encode (x.signModelReceipt r).1 }

/-- The last frame of a session. -/
def terminalFrame : ModelInvocationFrameV1 where
  schema := ModelInvocationFrameV1.schemaName
  requestId := request.requestId
  sequence := s.sequence
  kind := match result with
    | .ok _ => .complete
    | .error _ => .error
  content := ""
  finishReason := match result with
    | .ok completion => some completion.finishReason
    | .error _ => none
  error := match result with
    | .ok _ => none
    | .error e => some (boundedError e)
  receipt := some (x.signed (unsignedModelReceipt x request d result s))

/-- `run_ollama_invocation`, from the response on. -/
def runOllamaInvocation (response : List (Except String (List UInt8))) : Except String Unit × ModelStream :=
  let (result, s) := execution x request response .start
  writeFrame x (terminalFrame x request d result s) s

/-- The receipt that the run signs. -/
def servedReceipt (response : List (Except String (List UInt8))) : ModelExecutionReceiptV1 :=
  let (result, s) := execution x request response .start
  x.signed (unsignedModelReceipt x request d result s)

end

end Rampage.Agent
