/-
The controller's side of a model session: `consume_model_invocation` reads the frames of a worker's stream until the last
one, whose signed receipt has to match the text read before it (`verify_terminal_model_receipt`). `stream_agrees_iff` says
which responses of a model the two sides agree on: those whose delta frames are within the header bound of the mesh. A
worker cuts text into pieces of 16 KiB, and the JSON of such a piece may be six times as long.
-/
import Rampage.Agent.Sent
import Rampage.Controller.Chat

namespace Rampage.Controller

open Rampage.Protocol Rampage.Governor Rampage.Mesh Rampage.Agent

/-! ## Consuming a stream -/

/-- What may happen instead of the next frame. -/
inductive Interruption
  | cancelled | timedOut
deriving DecidableEq

/-- What a turn of the loop meets. -/
structure Turn where
  now : Int
  interrupted : Option Interruption
  /-- The client of a streamed answer is gone. -/
  disconnected : Bool

/-- What a controller consumes a session with. -/
structure ModelConsumer where
  codec : ModelCodec
  sha256 : List UInt8 → { b : List UInt8 // b.length = 32 }
  nodes : Table Uuid NodeIdentityV1
  /-- `verify_contract_signature` of a receipt, by a public key. -/
  verifyModelReceiptSignature : String → ModelExecutionReceiptV1 → Bool
  /-- The text of a failed read. -/
  faultText : MeshError → String
  streaming : Bool
  turn : Nat → Turn
  /-- The failure of the ledger, if it fails. -/
  evidence : Option String

/-- What the controller tells a client in the end, once the receipt is verified. -/
structure ModelGatewayCompletion where
  content : String
  finishReason : String
  usage : Option ModelUsageV1
deriving DecidableEq

/-- `invalid_worker_stream`. -/
def invalidWorkerStream (message : String) : ModelGatewayFailure :=
  { status := 502, kind := "server_error", code := "invalid_worker_stream", message := message }

/-- `model_timeout`. -/
def modelTimeout : ModelGatewayFailure :=
  { status := 504
    kind := "server_error"
    code := "model_session_timeout"
    message := "model session lease expired before completion" }

/-- The failure of a session whose receipt says it was cancelled. -/
def modelCancelled : ModelGatewayFailure :=
  { status := 408, kind := "server_error", code := "model_session_cancelled", message := "model session was cancelled" }

/-- The failure of a stream that nobody reads any more. -/
def clientDisconnected : ModelGatewayFailure :=
  { status := 408, kind := "server_error", code := "client_disconnected", message := "streaming client disconnected" }

/-- The failure of a session whose receipt says so, with the worker's message. -/
def modelExecutionFailed (message : String) : ModelGatewayFailure :=
  { status := 502, kind := "server_error", code := "model_execution_failed", message := message }

section

variable (k : ModelConsumer) (request : ModelInvocationRequestV1)

/-- `verify_model_receipt`. -/
def verifyModelReceipt (identity : NodeIdentityV1) (receipt : ModelExecutionReceiptV1) : Except Denial Unit :=
  if identity.nodeId ≠ receipt.nodeId then .error .nodeMismatch
  else if k.verifyModelReceiptSignature identity.publicKey receipt then .ok ()
  else .error .invalidSignature

/-- The receipt is one for this invocation and this text. -/
def receiptMatchesTranscript (receipt : ModelExecutionReceiptV1) (output : String) : Bool :=
  receipt.schema == ModelExecutionReceiptV1.schemaName && receipt.leaseId == request.lease.leaseId &&
    receipt.sessionId == request.lease.sessionId && receipt.requestId == request.requestId &&
    receipt.nodeId == request.lease.nodeId &&
    (receipt.state == .succeeded || receipt.state == .failed || receipt.state == .cancelled) &&
    decide (receipt.startedAt ≤ receipt.finishedAt) && receipt.outputDigest == digestText k.sha256 (utf8 output) &&
    receipt.outputBytes == output.utf8ByteSize

/-- `verify_terminal_model_receipt`. -/
def verifyTerminalModelReceipt (receipt : ModelExecutionReceiptV1) (output : String) : Except ModelGatewayFailure Unit :=
  match k.nodes.lookup receipt.nodeId with
  | none => .error (invalidWorkerStream "model receipt signer is not enrolled")
  | some identity =>
    match verifyModelReceipt k identity receipt with
    | .error _ => .error (invalidWorkerStream "model receipt signature is invalid")
    | .ok () =>
      if receiptMatchesTranscript k request receipt output then .ok ()
      else .error (invalidWorkerStream "model receipt does not match the invocation transcript")

/-- The text after a delta frame. -/
def acceptDelta (disconnected : Bool) (frame : ModelInvocationFrameV1) (output : String) :
    Except ModelGatewayFailure String :=
  if frame.receipt.isSome ∨ frame.error.isSome ∨ frame.finishReason.isSome then
    .error (invalidWorkerStream "model delta contains terminal fields")
  else if maxModelOutputBytes < (output ++ frame.content).utf8ByteSize then
    .error (invalidWorkerStream "model output exceeds the transcript limit")
  else if k.streaming ∧ disconnected then .error clientDisconnected
  else .ok (output ++ frame.content)

/-- What the last frame says, once its receipt is verified. -/
def concludeTranscript (frame : ModelInvocationFrameV1) (receipt : ModelExecutionReceiptV1) (output : String) :
    Except ModelGatewayFailure ModelGatewayCompletion :=
  if (frame.kind = .complete ∧ receipt.state ≠ .succeeded) ∨ (frame.kind = .error ∧ receipt.state = .succeeded) then
    .error (invalidWorkerStream "terminal frame and signed receipt disagree on execution state")
  else if frame.finishReason.any (fun reason => 64 < reason.utf8ByteSize || !isAscii reason) ∨
      (receipt.state = .succeeded ∧ receipt.error.isSome) then
    .error (invalidWorkerStream "terminal model metadata is malformed")
  else
    match k.evidence with
    | some text => .error { status := 500, kind := "server_error", code := "evidence_write_failed", message := text }
    | none =>
      if frame.kind = .error then .error (modelExecutionFailed ((frame.error.or receipt.error).getD "model execution failed"))
      else .ok ⟨output, frame.finishReason.getD "stop", receipt.usage⟩

/-- The last frame, with the number it has to have. -/
def acceptTerminal (frame : ModelInvocationFrameV1) (expected : Nat) (output : String) :
    Except ModelGatewayFailure ModelGatewayCompletion :=
  if frame.content ≠ "" then .error (invalidWorkerStream "terminal model frame contains output text")
  else
    match frame.receipt with
    | none =>
      if frame.kind = .error ∧ expected = 0 ∧ output = "" then
        .error
          { status := 502
            kind := "server_error"
            code := "worker_rejected_session"
            message := frame.error.getD "model worker rejected the session" }
      else .error (invalidWorkerStream "terminal model frame omitted its signed receipt")
    | some receipt =>
      match verifyTerminalModelReceipt k request receipt output with
      | .error e => .error e
      | .ok () => concludeTranscript k frame receipt output

/-- What comes instead of a frame, if anything does. -/
def interruption (expiresAt : Int) (t : Turn) : Option ModelGatewayFailure :=
  if expiresAt < t.now then some modelTimeout
  else
    match t.interrupted with
    | some .cancelled => some modelCancelled
    | some .timedOut => some modelTimeout
    | none => none

/-- `consume_model_invocation`, from a turn of its loop on. -/
def consumeModelInvocation (turn expected : Nat) (output : String) (stream : List UInt8) :
    Except ModelGatewayFailure ModelGatewayCompletion :=
  match interruption request.lease.expiresAt (k.turn turn) with
  | some failure => .error failure
  | none =>
    match _h : nextFrame k.codec request.requestId stream with
    | .error e => .error (invalidWorkerStream (boundedGatewayError (k.faultText e)))
    | .ok (frame, rest) =>
      if frame.sequence ≠ expected then .error (invalidWorkerStream "model frame sequence is not contiguous")
      else if frame.kind = .delta then
        match acceptDelta k (k.turn turn).disconnected frame output with
        | .error e => .error e
        | .ok output => consumeModelInvocation (turn + 1) (U64.satAdd expected 1) output rest
      else acceptTerminal k request frame expected output
termination_by stream.length
decreasing_by exact length_lt_of_nextFrame (by assumption)

end

/-! ## A session without disturbances -/

/-- Nothing comes between the controller and the end of the stream. -/
structure Undisturbed (k : ModelConsumer) (expiresAt : Int) : Prop where
  live : ∀ n, (k.turn n).now ≤ expiresAt
  uninterrupted : ∀ n, (k.turn n).interrupted = none
  connected : ∀ n, (k.turn n).disconnected = false
  evidence : k.evidence = none

/-- A controller and a worker of its fabric: they write and hash alike, and the controller has enrolled the node under a
key that verifies what the worker signs. -/
structure Serves (k : ModelConsumer) (x : OllamaWorker) (nodeId : Uuid) : Prop where
  codec : k.codec = x.codec
  sha256 : k.sha256 = x.sha256
  enrolled : ∃ identity, k.nodes.lookup nodeId = some identity ∧ identity.nodeId = nodeId ∧
    ∀ receipt, receipt.signature = "" → k.verifyModelReceiptSignature identity.publicKey (x.signed receipt) = true

section

variable {k : ModelConsumer} {x : OllamaWorker} {request : ModelInvocationRequestV1}

theorem Undisturbed.interruption {expiresAt : Int} (h : Undisturbed k expiresAt) (n : Nat) :
    interruption expiresAt (k.turn n) = none := by
  unfold Controller.interruption
  rw [if_neg (not_lt.2 (h.live n)), h.uninterrupted n]

/-- A frame that can be written and read back is the next one of the stream. -/
theorem nextFrame_headerBytes {codec : ModelCodec} {f : ModelInvocationFrameV1}
    (hschema : f.schema = ModelInvocationFrameV1.schemaName)
    (hsize : (f.toJson codec.toModelTexts).size ≤ maxArtifactHeaderBytes) (hread : codec.ReadsFrame f) (rest : List UInt8) :
    nextFrame codec f.requestId (headerBytes (f.toJson codec.toModelTexts) ++ rest) = .ok (f, rest) :=
  nextFrame_writeModelFrame hread (writeModelFrame_of_fits hschema hsize) rest

/-- A turn that meets the next frame handles it. -/
theorem consume_of_next (hcalm : Undisturbed k request.lease.expiresAt) {n expected : Nat} {output : String}
    {stream rest : List UInt8} {f : ModelInvocationFrameV1} (hnext : nextFrame k.codec request.requestId stream = .ok (f, rest))
    (hsequence : f.sequence = expected) :
    consumeModelInvocation k request n expected output stream =
      if f.kind = .delta then
        match acceptDelta k (k.turn n).disconnected f output with
        | .error e => .error e
        | .ok output => consumeModelInvocation k request (n + 1) (U64.satAdd expected 1) output rest
      else acceptTerminal k request f expected output := by
  rw [consumeModelInvocation, hcalm.interruption n]
  dsimp only
  split
  · rename_i e he
    rw [hnext] at he
    cases he
  · rename_i frame rest' he
    rw [hnext] at he
    cases he
    rw [if_neg (not_not.2 hsequence)]

/-! ## The pieces of a text, received one after the other -/

/-- A text with the pieces that follow it. -/
def receivedText (output : String) (pieces : List String) : String := pieces.foldl (· ++ ·) output

theorem utf8_append (s t : String) : utf8 (s ++ t) = utf8 s ++ utf8 t := by
  unfold utf8
  rw [String.toList_append, List.flatMap_append]

theorem utf8_receivedText : ∀ (pieces : List String) (output : String),
    utf8 (receivedText output pieces) = utf8 output ++ pieces.flatMap utf8
  | [], output => (List.append_nil _).symm
  | piece :: rest, output => by
    show utf8 (receivedText (output ++ piece) rest) = _
    rw [utf8_receivedText rest (output ++ piece), utf8_append, List.flatMap_cons, List.append_assoc]

/-- A delta frame extends the text. -/
theorem consume_delta (hcalm : Undisturbed k request.lease.expiresAt) {n expected : Nat} {output piece : String}
    {rest : List UInt8} (hsize : deltaLen expected piece ≤ maxArtifactHeaderBytes)
    (hread : k.codec.ReadsFrame (deltaFrame request expected piece))
    (hlen : (output ++ piece).utf8ByteSize ≤ maxModelOutputBytes) :
    consumeModelInvocation k request n expected output
        (headerBytes ((deltaFrame request expected piece).toJson k.codec.toModelTexts) ++ rest) =
      consumeModelInvocation k request (n + 1) (U64.satAdd expected 1) (output ++ piece) rest := by
  have hnext := @nextFrame_headerBytes k.codec (deltaFrame request expected piece) rfl
    (by rwa [size_deltaFrame]) hread rest
  have haccept : acceptDelta k (k.turn n).disconnected (deltaFrame request expected piece) output = .ok (output ++ piece) := by
    have hcontent : (deltaFrame request expected piece).content = piece := rfl
    unfold acceptDelta
    rw [hcontent, if_neg (by simp [deltaFrame]), if_neg (not_lt.2 hlen), if_neg (by simp [hcalm.connected n])]
  have hsequence : (deltaFrame request expected piece).sequence = expected := rfl
  have hkind : (deltaFrame request expected piece).kind = .delta := rfl
  rw [consume_of_next hcalm hnext hsequence, if_pos hkind, haccept]

/-- Delta frames extend the text by their pieces. -/
theorem consume_deltas (hcalm : Undisturbed k request.lease.expiresAt) : ∀ {pieces : List String} {n expected : Nat}
    {output : String} {rest : List UInt8}, deltasFit expected pieces = true →
    (∀ f ∈ deltaFrames request expected pieces, k.codec.ReadsFrame f) →
    (receivedText output pieces).utf8ByteSize ≤ maxModelOutputBytes →
      consumeModelInvocation k request n expected output
          ((deltaFrames request expected pieces).flatMap (fun f => headerBytes (f.toJson k.codec.toModelTexts)) ++ rest) =
        consumeModelInvocation k request (n + pieces.length) (numberAfter expected pieces) (receivedText output pieces) rest
  | [], n, expected, output, rest, _, _, _ => rfl
  | piece :: pieces, n, expected, output, rest, hfit, hread, hlen => by
    obtain ⟨hpiece, hrest⟩ := Bool.and_eq_true_iff.1 hfit
    have hbytes : (output ++ piece).utf8ByteSize ≤ (receivedText output (piece :: pieces)).utf8ByteSize := by
      show _ ≤ (receivedText (output ++ piece) pieces).utf8ByteSize
      rw [← length_utf8_eq_utf8ByteSize, ← length_utf8_eq_utf8ByteSize, utf8_receivedText, List.length_append]
      exact Nat.le_add_right ..
    rw [deltaFrames, List.flatMap_cons, List.append_assoc,
      consume_delta hcalm (of_decide_eq_true hpiece) (hread _ (List.mem_cons_self ..)) (le_trans hbytes hlen),
      consume_deltas hcalm hrest (fun f hf => hread f (List.mem_cons_of_mem _ hf)) hlen, List.length_cons, Nat.add_assoc,
      Nat.add_comm 1]
    rfl

/-! ## The last frame -/

/-- What the controller makes of a worker's result, after a text. -/
def gatewayOutcome (output : String) (result : Except String OllamaCompletion) : Except ModelGatewayFailure ModelGatewayCompletion :=
  match result with
  | .ok c => .ok ⟨output, c.finishReason, c.usage⟩
  | .error e => .error (modelExecutionFailed (boundedError e))

variable {d : ServeDraws} {result : Except String OllamaCompletion} {s : ModelStream} {output : String}

/-- The receipt of a worker is verified by its controller. -/
theorem verifyTerminalModelReceipt_signed (hserves : Serves k x request.lease.nodeId) (hclock : d.startedAt ≤ d.finishedAt)
    (htext : utf8 output = s.output) :
    verifyTerminalModelReceipt k request (x.signed (unsignedModelReceipt x request d result s)) output = .ok () := by
  obtain ⟨identity, hlookup, hnode, hsigned⟩ := hserves.enrolled
  have hverify : verifyModelReceipt k identity (x.signed (unsignedModelReceipt x request d result s)) = .ok () := by
    have hsame : identity.nodeId = (x.signed (unsignedModelReceipt x request d result s)).nodeId := hnode
    unfold verifyModelReceipt
    rw [if_neg (not_not.2 hsame), if_pos (hsigned _ rfl)]
  have hbytes : s.output.length = output.utf8ByteSize := by
    rw [← htext, length_utf8_eq_utf8ByteSize]
  have hmatches : receiptMatchesTranscript k request (x.signed (unsignedModelReceipt x request d result s)) output = true := by
    unfold receiptMatchesTranscript OllamaWorker.signed unsignedModelReceipt
    cases result with
    | ok c => simp [hclock, hserves.sha256, htext, hbytes]
    | error e => simp [hclock, hserves.sha256, htext, hbytes]
  have hlookup' : k.nodes.lookup (x.signed (unsignedModelReceipt x request d result s)).nodeId = some identity := hlookup
  unfold verifyTerminalModelReceipt
  rw [hlookup']
  dsimp only
  rw [hverify]
  exact if_pos hmatches

/-- The last frame of a worker is accepted by its controller. -/
theorem acceptTerminal_terminalFrame (hserves : Serves k x request.lease.nodeId)
    (hcalm : Undisturbed k request.lease.expiresAt) (hclock : d.startedAt ≤ d.finishedAt)
    (hshort : ∀ c, result = .ok c → c.Short) (htext : utf8 output = s.output) {expected : Nat} :
    acceptTerminal k request (terminalFrame x request d result s) expected output = gatewayOutcome output result := by
  have hcontent : (terminalFrame x request d result s).content = "" := rfl
  have hreceipt : (terminalFrame x request d result s).receipt = some (x.signed (unsignedModelReceipt x request d result s)) :=
    rfl
  have hverify := @verifyTerminalModelReceipt_signed k x request d result s output hserves hclock htext
  unfold acceptTerminal
  rw [hcontent, if_neg (not_not.2 rfl), hreceipt]
  dsimp only
  rw [hverify]
  dsimp only
  unfold concludeTranscript
  rw [hcalm.evidence]
  cases result with
  | ok c =>
    have hlong : (64 < c.finishReason.utf8ByteSize || !isAscii c.finishReason) = false := by
      rw [(hshort c rfl).ascii, decide_eq_false (not_lt.2 (hshort c rfl).length)]
      rfl
    simp [terminalFrame, OllamaWorker.signed, unsignedModelReceipt, gatewayOutcome, hlong]
  | error e => simp [terminalFrame, OllamaWorker.signed, unsignedModelReceipt, gatewayOutcome]

/-! ## Agreement -/

/-- What a controller makes of the stream of a worker. -/
def consumed (k : ModelConsumer) (x : OllamaWorker) (request : ModelInvocationRequestV1) (d : ServeDraws)
    (response : List (Except String (List UInt8))) : Except ModelGatewayFailure ModelGatewayCompletion :=
  consumeModelInvocation k request 0 0 "" (runOllamaInvocation x request d response).2.written

/-- Worker and controller agree on a session: every frame of the worker can be written, the controller accepts the stream
and, where it reports a completion, returns the text that the worker read; it reports one if the receipt says so. -/
structure Agree (k : ModelConsumer) (x : OllamaWorker) (request : ModelInvocationRequestV1) (d : ServeDraws)
    (response : List (Except String (List UInt8))) : Prop where
  writable : ∀ f ∈ (runOllamaInvocation x request d response).2.produced, ∃ bytes, writeModelFrame x.codec f = .ok bytes
  accepted : (∃ c, consumed k x request d response = .ok c) ∨
    ∃ message, consumed k x request d response = .error (modelExecutionFailed message)
  text : ∀ c, consumed k x request d response = .ok c → utf8 c.content = (runOllamaInvocation x request d response).2.output
  completed : (∃ c, consumed k x request d response = .ok c) ↔ (servedReceipt x request d response).state = .succeeded

variable {response : List (Except String (List UInt8))}

theorem writable_deltaFrames : ∀ {pieces : List String} {n : Nat}, deltasFit n pieces = true →
    ∀ f ∈ deltaFrames request n pieces, ∃ bytes, writeModelFrame x.codec f = .ok bytes
  | [], _, _, _, hf => by cases hf
  | piece :: rest, n, h, f, hf => by
    obtain ⟨hpiece, hrest⟩ := Bool.and_eq_true_iff.1 h
    rcases List.mem_cons.1 hf with rfl | hf
    · exact ⟨_, writeModelFrame_of_fits rfl (by rw [size_deltaFrame]; exact of_decide_eq_true hpiece)⟩
    · exact writable_deltaFrames hrest f hf

/-- A response with a delta frame over the bound has a frame that cannot be written. -/
theorem not_agree_of_large (h : responseFits x request response = false) : ¬ Agree k x request d response := by
  intro hagree
  obtain ⟨f, hf, hlarge⟩ := @runOllamaInvocation_of_large x request response d h
  obtain ⟨bytes, hbytes⟩ := hagree.writable f hf
  have hsize := (writeModelFrame_isOk_iff (schema_of_write hbytes)).1 ⟨bytes, hbytes⟩
  exact absurd hlarge (not_lt.2 hsize)

/-- What a worker sent whole is received whole. -/
theorem consume_sent (hserves : Serves k x request.lease.nodeId) (hcalm : Undisturbed k request.lease.expiresAt)
    (hclock : d.startedAt ≤ d.finishedAt) (hshort : ∀ c, result = .ok c → c.Short) {pieces : List String} {text : String}
    {last : ModelInvocationFrameV1} (htext : text = receivedText "" pieces)
    (hs : s = ModelStream.start.sent x request pieces) (hlast : last = terminalFrame x request d result s)
    (hfit : deltasFit 0 pieces = true) (hlen : s.output.length ≤ maxModelOutputBytes)
    (hsize : (last.toJson x.codec.toModelTexts).size ≤ maxArtifactHeaderBytes)
    (hread : ∀ f ∈ s.produced ++ [last], x.codec.ReadsFrame f) :
    consumeModelInvocation k request 0 0 "" (s.written ++ headerBytes (last.toJson x.codec.toModelTexts)) =
      gatewayOutcome text result := by
  have hutf8 : utf8 text = s.output := by
    rw [htext, hs]
    exact utf8_receivedText pieces ""
  have hbytes : (receivedText "" pieces).utf8ByteSize ≤ maxModelOutputBytes := by
    rw [← htext, ← length_utf8_eq_utf8ByteSize, hutf8]
    exact hlen
  have hproduced : s.produced = deltaFrames request 0 pieces := by
    rw [hs]
    rfl
  have hwritten : s.written =
      (deltaFrames request 0 pieces).flatMap fun f => headerBytes (f.toJson x.codec.toModelTexts) := by
    rw [hs]
    rfl
  have hsequence : last.sequence = numberAfter 0 pieces := by
    rw [hlast, hs]
    rfl
  have hkind : last.kind ≠ .delta := by
    rw [hlast]
    cases result with
    | ok c => exact fun h => by cases h
    | error e => exact fun h => by cases h
  have hid : last.requestId = request.requestId := by
    rw [hlast]
    rfl
  have hschema : last.schema = ModelInvocationFrameV1.schemaName := by
    rw [hlast]
    rfl
  rw [← hserves.codec] at hsize hread hwritten ⊢
  -- the last frame is read after the deltas, with nothing left behind it
  have hnext := nextFrame_headerBytes hschema hsize (hread last (List.mem_append_right _ (List.mem_singleton_self _))) []
  rw [List.append_nil, hid] at hnext
  rw [hwritten, consume_deltas hcalm hfit _ hbytes, consume_of_next hcalm hnext hsequence, if_neg hkind, ← htext, hlast]
  · exact acceptTerminal_terminalFrame hserves hcalm hclock hshort hutf8
  · intro f hf
    exact hread f (List.mem_append_left _ (hproduced ▸ hf))

/-- A response whose delta frames fit is received as it was sent. -/
theorem agree_of_fits (hserves : Serves k x request.lease.nodeId) (hcalm : Undisturbed k request.lease.expiresAt)
    (hclock : d.startedAt ≤ d.finishedAt) (htimes : ShortTimes x.codec.toModelTexts d) (hshort : ShortReasons x response)
    (hread : ∀ f ∈ (runOllamaInvocation x request d response).2.produced, x.codec.ReadsFrame f)
    (h : responseFits x request response = true) : Agree k x request d response := by
  have hrun := runOllamaInvocation_of_fits (d := d) h htimes hshort
  have hsize := @size_lastFrame x request response d htimes hshort
  -- the controller reads back what was written, to the end
  have hwritten : consumed k x request d response =
      gatewayOutcome (receivedText "" (emitted x request response).1) (sentResult x request response) := by
    rw [hrun] at hread
    unfold consumed
    rw [hrun]
    exact consume_sent hserves hcalm hclock (fun _ hc => short_sentResult hshort hc) rfl rfl rfl h length_output_sentStream
      hsize hread
  refine ⟨?_, ?_, ?_, ?_⟩
  · intro f hf
    rw [hrun] at hf
    rcases List.mem_append.1 hf with hf | hf
    · exact writable_deltaFrames h f hf
    · have hschema : (lastFrame x request d response).schema = ModelInvocationFrameV1.schemaName := rfl
      rw [List.mem_singleton.1 hf]
      exact ⟨_, writeModelFrame_of_fits hschema hsize⟩
  · rw [hwritten]
    cases sentResult x request response with
    | ok c => exact Or.inl ⟨_, rfl⟩
    | error e => exact Or.inr ⟨_, rfl⟩
  · intro c hc
    rw [hwritten] at hc
    rw [hrun]
    cases hresult : sentResult x request response with
    | ok c' =>
      rw [hresult] at hc
      cases hc
      exact utf8_receivedText _ ""
    | error e =>
      rw [hresult] at hc
      cases hc
  · rw [hwritten, servedReceipt_of_fits h]
    cases sentResult x request response with
    | ok c => exact ⟨fun _ => rfl, fun _ => ⟨_, rfl⟩⟩
    | error e =>
      constructor
      · rintro ⟨c, hc⟩
        cases hc
      · intro hstate
        cases hstate

/-- The two sides agree on a response exactly if every delta frame of it is within the bound. -/
theorem stream_agrees_iff (hserves : Serves k x request.lease.nodeId) (hcalm : Undisturbed k request.lease.expiresAt)
    (hclock : d.startedAt ≤ d.finishedAt) (htimes : ShortTimes x.codec.toModelTexts d) (hshort : ShortReasons x response)
    (hread : ∀ f ∈ (runOllamaInvocation x request d response).2.produced, x.codec.ReadsFrame f) :
    Agree k x request d response ↔ responseFits x request response = true := by
  constructor
  · intro h
    by_contra hlarge
    exact not_agree_of_large (Bool.eq_false_iff.2 hlarge) h
  · exact agree_of_fits hserves hcalm hclock htimes hshort hread

end

/-! ## Answers of one line -/

namespace Scenario

/-- The one chunk of an answer. -/
def answerChunk (content : String) : OllamaChatChunk where
  model := none
  content := some content
  done := true
  doneReason := none
  promptEvalCount := none
  evalCount := none
  error := none

/-- The line of Ollama that completes a response with its whole text. -/
def answerLine (content : String) : List UInt8 :=
  (Json.obj [("message", .obj [("content", .str content)]), ("done", .bool true)]).toVec

/-- The SHA-256 of "hello". -/
def helloDigest : { b : List UInt8 // b.length = 32 } :=
  ⟨[0x2c, 0xf2, 0x4d, 0xba, 0x5f, 0xb0, 0xa3, 0x0e, 0x26, 0xe8, 0x3b, 0x2a, 0xc5, 0xb9, 0xe2, 0x9e, 0x1b, 0x16, 0x1e, 0x5c,
    0x1f, 0xa7, 0x42, 0x5e, 0x73, 0x04, 0x33, 0x62, 0x93, 0x8b, 0x98, 0x24], rfl⟩

/-- A worker that understands the one line of this answer, and signs with zeros. -/
def answering (content : String) (readFrame : List UInt8 → Option ModelInvocationFrameV1) : OllamaWorker where
  codec := { sessionTexts with
    readRequest := fun _ => none
    readFrame := readFrame }
  readChunk := fun line =>
    if line = answerLine content then .ok (answerChunk content) else .error "expected value at line 1 column 1"
  sha256 := fun _ => helloDigest
  signModelReceipt := fun _ => List.Vector.replicate 64 0
  faultText := fun _ => "artifact transfer header is invalid or too large"

/-- The worker's clock reads 0. -/
def serveDraws : ServeDraws := ⟨0, 0, 5⟩

/-- The body Ollama sends: the one line. -/
def response (content : String) : List (Except String (List UInt8)) := [.ok (answerLine content ++ [10])]

theorem responseLines_response {content : String} (h : quotedLen content ≤ 200000) :
    responseLines [] (response content) = [.ok (answerLine content)] := by
  have hfeed : (10 : UInt8) ∉ answerLine content := Json.notMem_toVec _ (by decide)
  have hhead : ∃ rest, answerLine content = 123 :: rest := by
    unfold answerLine Json.toVec
    rw [Json.print, List.flatMap_cons]
    exact ⟨_, rfl⟩
  have hblank : (answerLine content).all isAsciiWhitespace = false := by
    obtain ⟨rest, hrest⟩ := hhead
    rw [hrest, List.all_cons]
    rfl
  have hlen : (answerLine content).length < maxBufferedBytes := by
    have hkeys : quotedLen "message" = 9 ∧ quotedLen "content" = 9 ∧ quotedLen "done" = 6 := by decide
    have hbound : maxBufferedBytes = 262144 := by decide
    show Json.size _ < _
    simp only [Json.size_obj (List.cons_ne_nil _ _), List.map_cons, List.map_nil, List.sum_cons, List.sum_nil,
      Json.entrySize, Json.size_str, Json.size_true, hkeys]
    omega
  exact responseLines_of_line hfeed hblank hlen

theorem readChunk_answerLine (content : String) (readFrame : List UInt8 → Option ModelInvocationFrameV1) :
    (answering content readFrame).readChunk (answerLine content) = .ok (answerChunk content) :=
  if_pos rfl

/-- The example's request. -/
def askedHello : ModelInvocationRequestV1 := chatInvocation "hello"

/-- The frame that brings the text. -/
def helloDelta : ModelInvocationFrameV1 := deltaFrame askedHello 0 "hello"

/-- The frame that ends the answer, with the receipt. -/
def helloLast : ModelInvocationFrameV1 :=
  lastFrame (answering "hello" fun _ => none) askedHello serveDraws (response "hello")

/-- The reader of the two frames of the answer. -/
def readHello (b : List UInt8) : Option ModelInvocationFrameV1 :=
  if b = (helloDelta.toJson sessionTexts).toVec then some helloDelta
  else if b = (helloLast.toJson sessionTexts).toVec then some helloLast
  else none

/-- The controller that enrolled the worker. -/
def consumer : ModelConsumer where
  codec := (answering "hello" readHello).codec
  sha256 := fun _ => helloDigest
  nodes := (∅ : Table Uuid NodeIdentityV1).insert 77 identity
  verifyModelReceiptSignature := fun key receipt =>
    key == identity.publicKey && receipt.signature == Hex.encode (List.replicate 64 0)
  faultText := fun _ => "stream finished early"
  streaming := false
  turn := fun _ => ⟨0, none, false⟩
  evidence := none

theorem emitted_hello (readFrame : List UInt8 → Option ModelInvocationFrameV1) :
    emitted (answering "hello" readFrame) askedHello (response "hello") =
      (["hello"], .ok (some (answerChunk "hello").completion)) :=
  emitted_of_line (responseLines_response (by decide)) (readChunk_answerLine "hello" readFrame) rfl rfl (by decide)

theorem readsFrame_hello : ∀ f ∈ [helloDelta, helloLast], (answering "hello" readHello).codec.ReadsFrame f := by
  have hdelta : (helloDelta.toJson sessionTexts).size = 144 := by
    unfold helloDelta
    rw [size_deltaFrame]
    decide
  have hlast : 350 ≤ (helloLast.toJson sessionTexts).size := by
    have hreceipt : helloLast.receipt.isSome = true := rfl
    obtain ⟨receipt, hreceipt⟩ := Option.isSome_iff_exists.1 hreceipt
    have hsize := ModelExecutionReceiptV1.size_toJson sessionTexts receipt
    rw [ModelInvocationFrameV1.size_toJson, hreceipt, receiptLen]
    omega
  intro f hf
  show readHello (f.toJson sessionTexts).toVec = some f
  unfold readHello
  rcases List.mem_cons.1 hf with rfl | hf
  · exact if_pos rfl
  · rw [List.mem_singleton.1 hf, if_neg, if_pos rfl]
    intro hsame
    have hsize : (helloLast.toJson sessionTexts).size = (helloDelta.toJson sessionTexts).size := congrArg List.length hsame
    omega

end Scenario

open Scenario in
/-- Both sides agree on a short answer. -/
theorem stream_agrees_iff_hello :
    Agree consumer (answering "hello" readHello) askedHello serveDraws (response "hello") ↔
      responseFits (answering "hello" readHello) askedHello (response "hello") = true := by
  have hemitted := emitted_hello readHello
  have hfit : responseFits (answering "hello" readHello) askedHello (response "hello") = true := by
    unfold responseFits
    rw [hemitted]
    decide
  have htimes : ShortTimes sessionTexts serveDraws := by
    unfold ShortTimes
    decide
  have hshort : ShortReasons (answering "hello" readHello) (response "hello") := by
    intro line chunk hline hchunk reason hreason
    rw [responseLines_response (by decide), List.mem_singleton] at hline
    cases hline
    rw [readChunk_answerLine] at hchunk
    cases hchunk
    cases hreason
  refine stream_agrees_iff ?_ ?_ (le_refl _) htimes hshort ?_
  · refine ⟨rfl, rfl, identity, by decide, rfl, ?_⟩
    intro receipt _
    show (identity.publicKey == identity.publicKey &&
      Hex.encode (List.replicate 64 0) == Hex.encode (List.replicate 64 0)) = true
    rw [beq_self_eq_true, beq_self_eq_true]
    rfl
  · exact ⟨fun _ => (by decide : 0 ≤ askedHello.lease.expiresAt), fun _ => rfl, fun _ => rfl, rfl⟩
  · rw [runOllamaInvocation_of_fits hfit htimes hshort]
    have hproduced : (sentStream (answering "hello" readHello) askedHello (response "hello")).produced = [helloDelta] := by
      unfold sentStream
      rw [hemitted]
      rfl
    have hlast : lastFrame (answering "hello" readHello) askedHello serveDraws (response "hello") = helloLast := by
      unfold helloLast lastFrame sentResult sentStream
      rw [hemitted, emitted_hello]
      rfl
    rw [hproduced, hlast]
    exact readsFrame_hello

namespace Scenario

/-- An answer of 16 KiB whose JSON is over the bound is well-formed and not agreed on. -/
theorem long_answer {content : String} (hsize : content.utf8ByteSize = 16 * 1024)
    (hquoted : 65536 ≤ quotedLen content ∧ quotedLen content ≤ 200000)
    (k : ModelConsumer) (readFrame : List UInt8 → Option ModelInvocationFrameV1) :
    responseLines [] (response content) = [.ok (answerLine content)] ∧
      ¬ Agree k (answering content readFrame) askedHello serveDraws (response content) := by
  have hlines := responseLines_response hquoted.2
  have hmax : maxModelOutputBytes = 16777216 := by decide
  have hemitted := @emitted_of_line (answering content readFrame) askedHello (response content) _ _ hlines
    (readChunk_answerLine content readFrame) rfl rfl (by show content.utf8ByteSize ≤ _; omega)
  have hne : content ≠ "" := by
    rintro rfl
    cases hsize
  have hpieces : piecesOf content = [content] := by
    unfold piecesOf utf8Chunks
    rw [if_neg hne, if_pos (by omega)]
  refine ⟨hlines, not_agree_of_large ?_⟩
  have hbound : maxArtifactHeaderBytes = 65536 := by decide
  have hlarge : ¬ deltaLen 0 content ≤ maxArtifactHeaderBytes := by
    unfold deltaLen
    omega
  unfold responseFits
  rw [hemitted]
  show deltasFit 0 (piecesOf content) = false
  rw [hpieces, deltasFit, decide_eq_false hlarge]
  rfl

theorem sizes_controls (n : Nat) : (String.ofList (List.replicate n '\x01')).utf8ByteSize = n ∧
    quotedLen (String.ofList (List.replicate n '\x01')) = 2 + 6 * n := by
  have hone : Char.utf8Size '\x01' = 1 ∧ escapedLen '\x01' = 6 := by decide
  constructor
  · rw [utf8ByteSize_ofList, byteLen, List.map_replicate, List.sum_replicate_nat, hone.1, Nat.mul_one]
  · rw [quotedLen, String.toList_ofList, List.map_replicate, List.sum_replicate_nat, hone.2, Nat.mul_comm]

end Scenario

open Scenario in
/-- A line of 16 KiB of control characters is well-formed, and its delta frame cannot be written. -/
theorem control_characters_cannot_be_sent :
    ∃ content : String, content = String.ofList (List.replicate 16384 '\x01') ∧
      responseLines [] (response content) = [.ok (answerLine content)] ∧
      (answering content readHello).readChunk (answerLine content) = .ok (answerChunk content) ∧
      content.utf8ByteSize ≤ maxModelOutputBytes ∧
      ¬ Agree consumer (answering content readHello) askedHello serveDraws (response content) := by
  obtain ⟨hsize, hquoted⟩ := sizes_controls 16384
  have hmax : maxModelOutputBytes = 16777216 := by decide
  obtain ⟨hlines, hno⟩ := long_answer hsize (by omega) consumer readHello
  exact ⟨_, rfl, hlines, readChunk_answerLine .., by omega, hno⟩

end Rampage.Controller
