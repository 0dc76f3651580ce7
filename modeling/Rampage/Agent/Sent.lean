/-
What a worker's run sends, in terms of the lines of the response. `emit` reads the lines without sending anything: the
pieces of their text, and how they end. If every delta frame of the pieces is within the header bound of the mesh, the run
writes just these frames and a last one (`runOllamaInvocation_of_fits`); otherwise it ends with a frame that it cannot
write (`runOllamaInvocation_of_large`).
-/
import Rampage.Agent.Pieces

namespace Rampage.Agent

open Rampage.Protocol Rampage.Mesh

/-! ## What a response has the worker send -/

/-- The lines of a response as the worker takes them, with the failures of the connection and of the buffer. -/
def responseLines (buffered : List UInt8) : List (Except String (List UInt8)) → List (Except String (List UInt8))
  | [] => if buffered.all isAsciiWhitespace then [] else [.ok buffered]
  | .error e :: _ => [.error e]
  | .ok chunk :: rest =>
    if (buffered ++ chunk).length ≤ maxBufferedBytes then
      (((buffered ++ chunk).splitOn 10).dropLast.filter fun line => !line.all isAsciiWhitespace).map .ok ++
        responseLines (((buffered ++ chunk).splitOn 10).getLastD []) rest
    else [.error "Ollama emitted an oversized frame"]

/-- The pieces of a text. -/
def piecesOf (content : String) : List String := if content = "" then [] else utf8Chunks content (16 * 1024)

theorem flatMap_piecesOf (content : String) : (piecesOf content).flatMap utf8 = utf8 content := by
  have hpieces : ∀ pieces : List String, pieces.flatMap utf8 = Utf8.encode (pieces.flatMap String.toList) := by
    intro pieces
    induction pieces with
    | nil => rfl
    | cons piece pieces ih => rw [List.flatMap_cons, ih, List.flatMap_cons, Utf8.encode_append, Utf8.encode_toList]
  unfold piecesOf
  split_ifs with hempty
  · rw [hempty]
    rfl
  · rw [hpieces, flatMap_utf8Chunks, Utf8.encode_toList]

section

variable (x : OllamaWorker) (request : ModelInvocationRequestV1)

/-- What a line says, after a number of bytes of output: its text, and whether it completes the response. -/
def emitLine (read : Nat) (line : List UInt8) : Except String (String × Option OllamaCompletion) :=
  match x.readChunk line with
  | .error e => .error e
  | .ok chunk =>
    if chunk.error.isSome then .error ("Ollama stream failed: " ++ boundedError (chunk.error.getD ""))
    else if chunk.model.all (· == request.lease.modelId) = false then .error "Ollama response model differs from its lease"
    else if chunk.content.getD "" ≠ "" ∧ maxModelOutputBytes < U64.satAdd read (chunk.content.getD "").utf8ByteSize then
      .error "model output exceeded the bounded response size"
    else .ok (chunk.content.getD "", if chunk.done then some chunk.completion else none)

/-- What lines say together: the pieces of their text, and how they end. -/
def emit : List (Except String (List UInt8)) → Nat → List String × Except String (Option OllamaCompletion)
  | [], _ => ([], .ok none)
  | .error e :: _, _ => ([], .error e)
  | .ok line :: rest, read =>
    match emitLine x request read line with
    | .error e => ([], .error e)
    | .ok (content, some completion) => (piecesOf content, .ok (some completion))
    | .ok (content, none) =>
      (piecesOf content ++ (emit rest (read + content.utf8ByteSize)).1, (emit rest (read + content.utf8ByteSize)).2)

/-- The delta frames of pieces of text, numbered from the given one on. -/
def deltaFrames : Nat → List String → List ModelInvocationFrameV1
  | _, [] => []
  | n, piece :: rest => deltaFrame request n piece :: deltaFrames (U64.satAdd n 1) rest

/-- The number after pieces of text. -/
def numberAfter : Nat → List String → Nat
  | n, [] => n
  | n, _ :: rest => numberAfter (U64.satAdd n 1) rest

/-- The bytes of a delta frame. -/
def deltaLen (n : Nat) (piece : String) : Nat := 136 + decimalLen n + quotedLen piece

/-- Every delta frame is within the header bound. -/
def deltasFit : Nat → List String → Bool
  | _, [] => true
  | n, piece :: rest => deltaLen n piece ≤ maxArtifactHeaderBytes && deltasFit (U64.satAdd n 1) rest

/-- A stream after the frames of pieces of text. -/
def ModelStream.sent (s : ModelStream) (pieces : List String) : ModelStream where
  produced := s.produced ++ deltaFrames request s.sequence pieces
  written := s.written ++
    (deltaFrames request s.sequence pieces).flatMap fun f => headerBytes (f.toJson x.codec.toModelTexts)
  output := s.output ++ pieces.flatMap utf8
  sequence := numberAfter s.sequence pieces

end

section

variable {x : OllamaWorker} {request : ModelInvocationRequestV1}

theorem deltaFrames_append (n : Nat) (l l' : List String) :
    deltaFrames request n (l ++ l') = deltaFrames request n l ++ deltaFrames request (numberAfter n l) l' := by
  induction l generalizing n with
  | nil => rfl
  | cons p l ih => rw [List.cons_append, deltaFrames, ih, deltaFrames, numberAfter, List.cons_append]

theorem numberAfter_append (n : Nat) (l l' : List String) : numberAfter n (l ++ l') = numberAfter (numberAfter n l) l' := by
  induction l generalizing n with
  | nil => rfl
  | cons p l ih => exact ih (U64.satAdd n 1)

theorem deltasFit_append (n : Nat) (l l' : List String) :
    deltasFit n (l ++ l') = (deltasFit n l && deltasFit (numberAfter n l) l') := by
  induction l generalizing n with
  | nil => rfl
  | cons p l ih => rw [List.cons_append, deltasFit, ih, deltasFit, numberAfter, Bool.and_assoc]

theorem sent_append (s : ModelStream) (l l' : List String) :
    s.sent x request (l ++ l') = (s.sent x request l).sent x request l' := by
  simp only [ModelStream.sent, deltaFrames_append, numberAfter_append, List.flatMap_append, List.append_assoc]

theorem size_deltaFrame (texts : ModelTexts) (n : Nat) (piece : String) :
    ((deltaFrame request n piece).toJson texts).size = deltaLen n piece := by
  have hfixed : quotedLen ModelInvocationFrameV1.schemaName = 35 ∧ quotedLen ModelInvocationFrameKind.delta.text = 7 := by
    decide
  rw [ModelInvocationFrameV1.size_toJson]
  simp only [deltaFrame, hfixed, textLen, receiptLen, deltaLen]
  omega

theorem writeFrame_of_fits {f : ModelInvocationFrameV1} (hschema : f.schema = ModelInvocationFrameV1.schemaName)
    (h : (f.toJson x.codec.toModelTexts).size ≤ maxArtifactHeaderBytes) (s : ModelStream) :
    writeFrame x f s = (.ok (), { s with
      produced := s.produced ++ [f]
      written := s.written ++ headerBytes (f.toJson x.codec.toModelTexts) }) := by
  unfold writeFrame
  rw [writeModelFrame_of_fits hschema h]

theorem writeFrame_of_large {f : ModelInvocationFrameV1} (hschema : f.schema = ModelInvocationFrameV1.schemaName)
    (h : maxArtifactHeaderBytes < (f.toJson x.codec.toModelTexts).size) (s : ModelStream) :
    writeFrame x f s = (.error (x.faultText .invalidArtifactHeader), { s with produced := s.produced ++ [f] }) := by
  unfold writeFrame
  rw [writeModelFrame_of_large hschema h]

/-- A delta that fits is written. -/
theorem sendDelta_of_fits {s : ModelStream} {piece : String} (h : deltaLen s.sequence piece ≤ maxArtifactHeaderBytes) :
    sendDelta x request piece s = (.ok (), { s.sent x request [piece] with output := s.output }) := by
  have hwrite := @writeFrame_of_fits x (deltaFrame request s.sequence piece) rfl (by rwa [size_deltaFrame]) s
  unfold sendDelta
  rw [Handler.get_bind, Handler.bind_of_ok hwrite]
  simp [Handler.modify, ModelStream.sent, deltaFrames, numberAfter]

/-- A delta that does not fit ends the run. -/
theorem sendDelta_of_large {s : ModelStream} {piece : String} (h : maxArtifactHeaderBytes < deltaLen s.sequence piece) :
    sendDelta x request piece s = (.error (x.faultText .invalidArtifactHeader),
      { s with produced := s.produced ++ [deltaFrame request s.sequence piece] }) := by
  have hwrite := @writeFrame_of_large x (deltaFrame request s.sequence piece) rfl (by rwa [size_deltaFrame]) s
  unfold sendDelta
  rw [Handler.get_bind, Handler.bind_of_error hwrite]

/-- The frames of pieces, written one after the other. -/
theorem sendDeltas_of_fits : ∀ {pieces : List String} {s : ModelStream}, deltasFit s.sequence pieces = true →
    Handler.forEach (sendDelta x request) pieces s = (.ok (), { s.sent x request pieces with output := s.output })
  | [], s, _ => by simp [Handler.forEach, ModelStream.sent, deltaFrames, numberAfter, pure]
  | piece :: rest, s, h => by
    obtain ⟨hpiece, hrest⟩ := Bool.and_eq_true_iff.1 h
    rw [Handler.forEach, Handler.bind_of_ok (sendDelta_of_fits (of_decide_eq_true hpiece)), sendDeltas_of_fits hrest]
    simp [ModelStream.sent, deltaFrames, numberAfter]

/-- A stream holds a frame that cannot be written. -/
def ModelStream.Overflows (x : OllamaWorker) (s : ModelStream) : Prop :=
  ∃ f ∈ s.produced, maxArtifactHeaderBytes < (f.toJson x.codec.toModelTexts).size

theorem sendDeltas_of_large : ∀ {pieces : List String} {s : ModelStream}, deltasFit s.sequence pieces = false →
    ∃ e s', Handler.forEach (sendDelta x request) pieces s = (.error e, s') ∧ s'.Overflows x
  | [], _, h => by cases h
  | piece :: rest, s, h => by
    rw [Handler.forEach]
    by_cases hpiece : deltaLen s.sequence piece ≤ maxArtifactHeaderBytes
    · have hrest : deltasFit (U64.satAdd s.sequence 1) rest = false := by
        rw [deltasFit, decide_eq_true hpiece, Bool.true_and] at h
        exact h
      rw [Handler.bind_of_ok (sendDelta_of_fits hpiece)]
      exact sendDeltas_of_large hrest
    · have hlarge := Nat.lt_of_not_le hpiece
      rw [Handler.bind_of_error (sendDelta_of_large hlarge)]
      refine ⟨_, _, rfl, _, List.mem_append_right _ (List.mem_singleton_self _), ?_⟩
      rw [size_deltaFrame]
      exact hlarge

end

/-! ## The run -/

section

variable (x : OllamaWorker) (request : ModelInvocationRequestV1)

/-- The lines of a response, one after the other, up to the one that completes it. -/
def runSteps : List (Except String (List UInt8)) → ModelRun (Option OllamaCompletion)
  | [] => pure none
  | .error e :: _ => Handler.fail e
  | .ok line :: rest => do
    match ← processOllamaLine x request line with
    | some completion => pure (some completion)
    | none => runSteps rest

/-- What is left of the buffer is a line of its own, unless the response is complete. -/
def processRest (received : Option OllamaCompletion × List UInt8) : ModelRun (Option OllamaCompletion) :=
  if received.1.isNone && !received.2.all isAsciiWhitespace then processOllamaLine x request received.2 else pure received.1

end

section

variable {x : OllamaWorker} {request : ModelInvocationRequestV1}

/-- The lines of a buffer are steps; blank ones are none. -/
theorem processLines_append (rest : List (Except String (List UInt8))) : ∀ (lines : List (List UInt8)) (s : ModelStream),
    runSteps x request (((lines.filter fun line => !line.all isAsciiWhitespace).map .ok) ++ rest) s =
      (processLines x request lines >>= fun
        | some completion => pure (some completion)
        | none => runSteps x request rest) s
  | [], _ => rfl
  | line :: lines, s => by
    rw [processLines]
    by_cases hblank : line.all isAsciiWhitespace = true
    · rw [List.filter_cons_of_neg (by simp [hblank]), if_pos hblank]
      exact processLines_append rest lines s
    · rw [List.filter_cons_of_pos (by simpa using hblank), if_neg hblank, List.map_cons, List.cons_append, runSteps,
        Handler.bind_bind]
      rcases h : processOllamaLine x request line s with ⟨e | _ | completion, s'⟩
      · rw [Handler.bind_of_error h, Handler.bind_of_error h]
      · rw [Handler.bind_of_ok h, Handler.bind_of_ok h]
        exact processLines_append rest lines s'
      · rw [Handler.bind_of_ok h, Handler.bind_of_ok h]
        rfl

/-- Reading the response runs its lines. -/
theorem readResponse_eq_runSteps : ∀ (response : List (Except String (List UInt8))) (buffered : List UInt8) (s : ModelStream),
    (readResponse x request buffered response >>= processRest x request) s =
      runSteps x request (responseLines buffered response) s
  | [], buffered, s => by
    show processRest x request (none, buffered) s = _
    unfold processRest
    rw [responseLines]
    by_cases hblank : buffered.all isAsciiWhitespace = true
    · rw [if_pos hblank, if_neg (by simp [hblank])]
      rfl
    · rw [if_neg hblank, if_pos (by simpa using hblank), runSteps]
      rcases h : processOllamaLine x request buffered s with ⟨e | _ | completion, s'⟩
      · rw [Handler.bind_of_error h]
      · rw [Handler.bind_of_ok h]
        rfl
      · rw [Handler.bind_of_ok h]
        rfl
  | .error e :: rest, buffered, s => rfl
  | .ok chunk :: rest, buffered, s => by
    rw [readResponse, responseLines, Handler.bind_bind]
    show ((Handler.ensure _ _ >>= _) >>= processRest x request) s = _
    by_cases hlong : (buffered ++ chunk).length ≤ maxBufferedBytes
    · rw [if_pos hlong, processLines_append, decide_eq_true hlong, Handler.bind_bind, Handler.ensure_true_bind,
        Handler.bind_bind]
      rcases h : processLines x request ((buffered ++ chunk).splitOn 10).dropLast s with ⟨e | _ | completion, s'⟩
      · rw [Handler.bind_of_error h, Handler.bind_of_error h]
      · rw [Handler.bind_of_ok h, Handler.bind_of_ok h]
        exact readResponse_eq_runSteps rest _ s'
      · rw [Handler.bind_of_ok h, Handler.bind_of_ok h]
        rfl
    · rw [if_neg hlong, decide_eq_false hlong]
      rfl

theorem execution_eq_runSteps (response : List (Except String (List UInt8))) (s : ModelStream) :
    execution x request response s = (runSteps x request (responseLines [] response) >>= complete) s := by
  have hread := @readResponse_eq_runSteps x request response [] s
  unfold execution
  rcases h : readResponse x request [] response s with ⟨e | ⟨completion, buffered⟩, s'⟩
  · rw [Handler.bind_of_error h] at hread ⊢
    rw [Handler.bind_of_error hread.symm]
  · rw [Handler.bind_of_ok h] at hread ⊢
    show (if _ then _ else _ : ModelRun OllamaCompletion) s' = _
    unfold processRest at hread
    split_ifs at hread ⊢ with hrest
    · rcases hline : processOllamaLine x request buffered s' with ⟨e | c, t⟩
      · rw [hline] at hread
        rw [Handler.bind_of_error hline, Handler.bind_of_error hread.symm]
      · rw [hline] at hread
        rw [Handler.bind_of_ok hline, Handler.bind_of_ok hread.symm]
    · rw [Handler.bind_of_ok hread.symm]

end

/-! ## The run sends what its lines say -/

section

variable {x : OllamaWorker} {request : ModelInvocationRequestV1}

theorem sent_nil (s : ModelStream) : s.sent x request [] = s := by
  simp [ModelStream.sent, deltaFrames, numberAfter]

theorem length_output_sent (s : ModelStream) (content : String) :
    (s.sent x request (piecesOf content)).output.length = s.output.length + content.utf8ByteSize := by
  rw [ModelStream.sent, List.length_append, flatMap_piecesOf, length_utf8_eq_utf8ByteSize]

/-- What a line is, if it says something. -/
theorem emitLine_ok {read : Nat} {line : List UInt8} {content : String} {completion : Option OllamaCompletion}
    (h : emitLine x request read line = .ok (content, completion)) :
    ∃ chunk, x.readChunk line = .ok chunk ∧ chunk.error.isSome = false ∧
      chunk.model.all (· == request.lease.modelId) = true ∧ content = chunk.content.getD "" ∧
      (content = "" ∨ U64.satAdd read content.utf8ByteSize ≤ maxModelOutputBytes) ∧
      completion = if chunk.done then some chunk.completion else none := by
  unfold emitLine at h
  split at h
  · cases h
  rename_i chunk hchunk
  split at h
  · cases h
  rename_i herror
  split at h
  · cases h
  rename_i hmodel
  split at h
  · cases h
  rename_i hlong
  obtain ⟨rfl, rfl⟩ := Prod.mk.inj (Except.ok.inj h)
  refine ⟨chunk, hchunk, by simpa using herror, by simpa using hmodel, rfl, ?_, rfl⟩
  rw [not_and_or, not_not, not_lt] at hlong
  exact hlong

/-- A line that says nothing ends the run before anything is sent. -/
theorem processOllamaLine_of_error {s : ModelStream} {line : List UInt8} {e : String}
    (h : emitLine x request s.output.length line = .error e) : processOllamaLine x request line s = (.error e, s) := by
  unfold emitLine at h
  unfold processOllamaLine
  split at h
  · rename_i e' hchunk
    cases h
    rw [hchunk]
    rfl
  · rename_i chunk hchunk
    rw [hchunk]
    show (Handler.ensure _ _ >>= _) s = _
    split_ifs at h with herror hmodel hlong
    · cases h
      rw [Option.isNone_eq_false_iff.2 herror, Handler.ensure_false_bind]
    · cases h
      rw [Option.isNone_iff_eq_none.2 (Option.not_isSome_iff_eq_none.1 herror), hmodel]
      rfl
    · cases h
      have hsend : sendText x request (chunk.content.getD "") s =
          (.error "model output exceeded the bounded response size", s) := by
        unfold sendText sendContent
        rw [if_neg hlong.1, Handler.get_bind, decide_eq_false (Nat.not_le.2 hlong.2)]
        rfl
      have hnone : chunk.error.isNone = true := Option.isNone_iff_eq_none.2 (Option.not_isSome_iff_eq_none.1 herror)
      rw [hnone, Handler.ensure_true_bind, (by simpa using hmodel : chunk.model.all (· == request.lease.modelId) = true),
        Handler.ensure_true_bind, Handler.bind_of_error hsend]

/-- A line that says something is sent; the run goes on if all of it was. -/
theorem processOllamaLine_of_ok {s : ModelStream} {line : List UInt8} {content : String}
    {completion : Option OllamaCompletion} (h : emitLine x request s.output.length line = .ok (content, completion)) :
    processOllamaLine x request line s = (sendText x request content >>= fun _ => pure completion) s := by
  obtain ⟨chunk, hchunk, herror, hmodel, rfl, -, rfl⟩ := emitLine_ok h
  unfold processOllamaLine
  rw [hchunk]
  show (Handler.ensure _ _ >>= _) s = _
  rw [Option.isSome_eq_false_iff.1 herror, Handler.ensure_true_bind, hmodel,
    Handler.ensure_true_bind]

/-- The text of a line that says something, sent whole. -/
theorem sendText_of_fits {s : ModelStream} {content : String}
    (hlen : content = "" ∨ U64.satAdd s.output.length content.utf8ByteSize ≤ maxModelOutputBytes)
    (h : deltasFit s.sequence (piecesOf content) = true) :
    sendText x request content s = (.ok (), s.sent x request (piecesOf content)) := by
  unfold sendText piecesOf at *
  by_cases hempty : content = ""
  · rw [if_pos hempty, if_pos hempty, sent_nil]
    rfl
  · have hbytes := flatMap_piecesOf content
    unfold piecesOf at hbytes
    rw [if_neg hempty] at h hbytes ⊢
    have hsend := @sendDeltas_of_fits x request _ { s with output := s.output ++ utf8 content } h
    rw [if_neg hempty, sendContent, Handler.get_bind, decide_eq_true (hlen.resolve_left hempty), Handler.ensure_true_bind,
      Handler.modify_bind, hsend]
    simp [ModelStream.sent, hbytes]

/-- A text with a piece that does not fit ends the run. -/
theorem sendText_of_large {s : ModelStream} {content : String}
    (hlen : content = "" ∨ U64.satAdd s.output.length content.utf8ByteSize ≤ maxModelOutputBytes)
    (h : deltasFit s.sequence (piecesOf content) = false) :
    ∃ e s', sendText x request content s = (.error e, s') ∧ s'.Overflows x := by
  unfold sendText
  unfold piecesOf at h
  by_cases hempty : content = ""
  · rw [if_pos hempty] at h
    cases h
  · rw [if_neg hempty] at h ⊢
    rw [sendContent, Handler.get_bind, decide_eq_true (hlen.resolve_left hempty), Handler.ensure_true_bind,
      Handler.modify_bind]
    exact sendDeltas_of_large h

/-- What the lines say is sent, if every delta frame of it is within the bound. -/
theorem runSteps_of_fits : ∀ (steps : List (Except String (List UInt8))) (s : ModelStream),
    deltasFit s.sequence (emit x request steps s.output.length).1 = true →
      runSteps x request steps s =
        ((emit x request steps s.output.length).2, s.sent x request (emit x request steps s.output.length).1)
  | [], s, _ => by
    rw [emit, sent_nil]
    rfl
  | .error e :: rest, s, _ => by
    rw [emit, sent_nil]
    rfl
  | .ok line :: rest, s, h => by
    rw [runSteps]
    rcases hline : emitLine x request s.output.length line with e | ⟨content, _ | completion⟩
    · rw [emit, hline, Handler.bind_of_error (processOllamaLine_of_error hline), sent_nil]
    · obtain ⟨_, _, _, _, _, hlen, _⟩ := emitLine_ok hline
      simp only [emit, hline] at h ⊢
      obtain ⟨hcontent, hrest⟩ := Bool.and_eq_true_iff.1 (deltasFit_append .. ▸ h)
      have hsend := (processOllamaLine_of_ok hline).trans (Handler.bind_of_ok (sendText_of_fits hlen hcontent))
      rw [Handler.bind_of_ok hsend, sent_append]
      have ih := runSteps_of_fits rest (s.sent x request (piecesOf content))
      rw [length_output_sent] at ih
      exact ih hrest
    · obtain ⟨_, _, _, _, _, hlen, _⟩ := emitLine_ok hline
      simp only [emit, hline] at h ⊢
      have hsend := (processOllamaLine_of_ok hline).trans (Handler.bind_of_ok (sendText_of_fits hlen h))
      rw [Handler.bind_of_ok hsend]
      rfl

/-- Otherwise the run ends with a frame that cannot be written. -/
theorem runSteps_of_large : ∀ (steps : List (Except String (List UInt8))) (s : ModelStream),
    deltasFit s.sequence (emit x request steps s.output.length).1 = false →
      ∃ e s', runSteps x request steps s = (.error e, s') ∧ s'.Overflows x
  | [], _, h => by cases h
  | .error _ :: _, _, h => by cases h
  | .ok line :: rest, s, h => by
    rw [runSteps]
    rcases hline : emitLine x request s.output.length line with e | ⟨content, completion⟩
    · simp only [emit, hline] at h
      cases h
    · obtain ⟨_, _, _, _, _, hlen, _⟩ := emitLine_ok hline
      by_cases hcontent : deltasFit s.sequence (piecesOf content) = true
      · have hsend := (processOllamaLine_of_ok hline).trans (Handler.bind_of_ok (sendText_of_fits hlen hcontent))
        rw [Handler.bind_of_ok hsend]
        cases completion with
        | none =>
          simp only [emit, hline] at h
          rw [deltasFit_append, hcontent, Bool.true_and] at h
          have ih := runSteps_of_large rest (s.sent x request (piecesOf content))
          rw [length_output_sent] at ih
          exact ih h
        | some completion =>
          simp only [emit, hline, hcontent] at h
          cases h
      · obtain ⟨e, s', hsend, hover⟩ := sendText_of_large hlen (Bool.eq_false_iff.2 hcontent)
        rw [Handler.bind_of_error ((processOllamaLine_of_ok hline).trans (Handler.bind_of_error hsend))]
        exact ⟨e, s', rfl, hover⟩

end

/-! ## The end of the run -/

/-- A response's way to end keeps what was sent. -/
theorem complete_state (completion : Option OllamaCompletion) (s : ModelStream) : (complete completion s).2 = s := by
  cases completion with
  | none => rfl
  | some c =>
    show ((Handler.ensure (!s.output.isEmpty) _ >>= fun _ => pure c) s).2 = s
    cases s.output.isEmpty
    · rfl
    · rfl

/-- A response that completes gave its completion, after some text. -/
theorem complete_ok {completion : Option OllamaCompletion} {c : OllamaCompletion} {s : ModelStream}
    (h : (complete completion s).1 = .ok c) : completion = some c := by
  cases completion with
  | none => cases h
  | some c' =>
    have hensure : ((Handler.ensure (!s.output.isEmpty) _ >>= fun _ => pure c') s).1 = .ok c := h
    cases hempty : s.output.isEmpty
    · rw [hempty] at hensure
      cases hensure
      rfl
    · rw [hempty] at hensure
      cases hensure

section

variable {x : OllamaWorker} {request : ModelInvocationRequestV1}

/-- A completion is what a line of the response says. -/
theorem emit_completion {c : OllamaCompletion} : ∀ {steps : List (Except String (List UInt8))} {read : Nat},
    (emit x request steps read).2 = .ok (some c) →
      ∃ line chunk, .ok line ∈ steps ∧ x.readChunk line = .ok chunk ∧ c = chunk.completion
  | [], _, h => by cases h
  | .error _ :: _, _, h => by cases h
  | .ok line :: rest, read, h => by
    rcases hline : emitLine x request read line with e | ⟨content, _ | completion⟩
    · simp only [emit, hline] at h
      cases h
    · simp only [emit, hline] at h
      obtain ⟨line', chunk, hmem, hrest⟩ := emit_completion h
      exact ⟨line', chunk, List.mem_cons_of_mem _ hmem, hrest⟩
    · simp only [emit, hline] at h
      cases h
      obtain ⟨chunk, hchunk, _, _, _, _, hdone⟩ := emitLine_ok hline
      refine ⟨line, chunk, List.mem_cons_self .., hchunk, ?_⟩
      split at hdone
      · exact Option.some.inj hdone
      · cases hdone

/-- What a line says stays within the limit of the output. -/
theorem emitLine_le {read : Nat} {line : List UInt8} {content : String} {completion : Option OllamaCompletion}
    (hread : read ≤ maxModelOutputBytes) (h : emitLine x request read line = .ok (content, completion)) :
    read + content.utf8ByteSize ≤ maxModelOutputBytes := by
  obtain ⟨_, _, _, _, _, hlen, _⟩ := emitLine_ok h
  have hmax : maxModelOutputBytes < U64.max := by decide
  rcases hlen with rfl | hlen
  · exact hread
  · unfold U64.satAdd at hlen
    rcases min_le_iff.1 hlen with hlen | hlen
    · exact hlen
    · omega

theorem emit_le : ∀ {steps : List (Except String (List UInt8))} {read : Nat}, read ≤ maxModelOutputBytes →
    read + ((emit x request steps read).1.flatMap utf8).length ≤ maxModelOutputBytes
  | [], _, h => h
  | .error _ :: _, _, h => h
  | .ok line :: rest, read, h => by
    rcases hline : emitLine x request read line with e | ⟨content, _ | completion⟩
    · simp only [emit, hline]
      exact h
    · have ih := @emit_le rest _ (emitLine_le h hline)
      simp only [emit, hline, List.flatMap_append, List.length_append, flatMap_piecesOf, length_utf8_eq_utf8ByteSize]
      omega
    · simpa only [emit, hline, flatMap_piecesOf, length_utf8_eq_utf8ByteSize] using emitLine_le h hline

theorem numberAfter_le : ∀ {n : Nat} {pieces : List String}, n ≤ U64.max → numberAfter n pieces ≤ U64.max
  | _, [], h => h
  | n, _ :: rest, _ => @numberAfter_le (U64.satAdd n 1) rest (Nat.min_le_right ..)

/-- What a response has the worker send. -/
def emitted (x : OllamaWorker) (request : ModelInvocationRequestV1) (response : List (Except String (List UInt8))) :
    List String × Except String (Option OllamaCompletion) :=
  emit x request (responseLines [] response) 0

/-- Every delta frame of a response is within the bound. -/
def responseFits (x : OllamaWorker) (request : ModelInvocationRequestV1) (response : List (Except String (List UInt8))) : Bool :=
  deltasFit 0 (emitted x request response).1

variable {response : List (Except String (List UInt8))}

/-- The stream of a response whose frames fit. -/
def sentStream (x : OllamaWorker) (request : ModelInvocationRequestV1) (response : List (Except String (List UInt8))) :
    ModelStream :=
  ModelStream.start.sent x request (emitted x request response).1

/-- The result of such a response: it has to complete, with some text. -/
def sentResult (x : OllamaWorker) (request : ModelInvocationRequestV1) (response : List (Except String (List UInt8))) :
    Except String OllamaCompletion :=
  match (emitted x request response).2 with
  | .error e => .error e
  | .ok completion => (complete completion (sentStream x request response)).1

theorem emitted_of_sentResult {c : OllamaCompletion} (h : sentResult x request response = .ok c) :
    (emitted x request response).2 = .ok (some c) := by
  unfold sentResult at h
  split at h
  · cases h
  · rename_i completion hend
    rw [hend, complete_ok h]

/-- A response whose frames fit is sent whole. -/
theorem execution_of_fits (h : responseFits x request response = true) :
    execution x request response .start = (sentResult x request response, sentStream x request response) := by
  have hrun := runSteps_of_fits (responseLines [] response) .start h
  rw [execution_eq_runSteps]
  unfold sentResult sentStream emitted
  rw [show ModelStream.start.output.length = 0 from rfl] at hrun
  split
  · rename_i e hend
    rw [hend] at hrun
    exact Handler.bind_of_error hrun
  · rename_i completion hend
    rw [hend] at hrun
    exact (Handler.bind_of_ok hrun).trans (Prod.ext rfl (complete_state ..))

theorem produced_writeFrame (f : ModelInvocationFrameV1) (s : ModelStream) :
    (writeFrame x f s).2.produced = s.produced ++ [f] := by
  unfold writeFrame
  split
  · rfl
  · rfl

/-- A response with a delta frame over the bound has the worker make a frame that it cannot write. -/
theorem runOllamaInvocation_of_large {d : ServeDraws} (h : responseFits x request response = false) :
    (runOllamaInvocation x request d response).2.Overflows x := by
  obtain ⟨e, s', hrun, f, hf, hlarge⟩ := runSteps_of_large (responseLines [] response) .start h
  have hexec : execution x request response .start = (.error e, s') :=
    (execution_eq_runSteps ..).trans (Handler.bind_of_error hrun)
  refine ⟨f, ?_, hlarge⟩
  unfold runOllamaInvocation
  rw [hexec]
  dsimp only
  rw [produced_writeFrame]
  exact List.mem_append_left _ hf

end

/-! ## The last frame -/

section

variable {x : OllamaWorker} {request : ModelInvocationRequestV1}

/-- A completion with a short reason, and counts that are 64-bit amounts. -/
structure OllamaCompletion.Short (c : OllamaCompletion) : Prop where
  ascii : isAscii c.finishReason = true
  length : c.finishReason.utf8ByteSize ≤ 64
  usage : ∀ u ∈ c.usage, u.promptTokens ≤ U64.max ∧ u.completionTokens ≤ U64.max

/-- The instants of a session are short texts. -/
def ShortTimes (texts : ModelTexts) (d : ServeDraws) : Prop :=
  quotedLen (texts.timeText d.startedAt) ≤ 64 ∧ quotedLen (texts.timeText d.finishedAt) ≤ 64

theorem decimalLen_le_of_u64 {n : Nat} (h : n ≤ U64.max) : decimalLen n ≤ 20 :=
  decimalLen_le (by decide) (lt_of_le_of_lt h (by decide))

theorem quotedLen_boundedError (e : String) : quotedLen (boundedError e) ≤ 3074 := by
  have hquoted := quotedLen_le (boundedError e)
  have hlength : (boundedError e).toList.length ≤ 512 := by
    rw [boundedError, String.toList_ofList]
    exact List.length_take_le ..
  omega

theorem quotedLen_finishReason {c : OllamaCompletion} (h : c.Short) : quotedLen c.finishReason ≤ 386 := by
  have hquoted := quotedLen_le c.finishReason
  have hlength := length_le_byteLen c.finishReason.toList
  have hbytes := h.length
  rw [← length_utf8_eq_utf8ByteSize, length_utf8] at hbytes
  omega

theorem quotedLen_digestText (bytes : List UInt8) : quotedLen (digestText x.sha256 bytes) = 73 := by
  have hlist : (digestText x.sha256 bytes).toList = "sha256:".toList ++ Hex.digits (x.sha256 bytes).1 := by
    have hhex : (Hex.encode (x.sha256 bytes).1).toList = Hex.digits (x.sha256 bytes).1 := String.toList_ofList
    rw [digestText, String.toList_append, hhex]
  have hplain : ∀ c ∈ (digestText x.sha256 bytes).toList, isPlain c = true := by
    intro c hc
    rw [hlist] at hc
    rcases List.mem_append.1 hc with hc | hc
    · have hprefix : "sha256:".toList.all isPlain = true := by decide
      exact List.all_eq_true.1 hprefix c hc
    · exact Uuid.isPlain_digits _ c hc
  rw [quotedLen_of_isPlain hplain, hlist, List.length_append, Hex.length_digits, (x.sha256 bytes).2]
  rfl

/-- The last frame is always within the bound. -/
theorem size_terminalFrame {d : ServeDraws} {result : Except String OllamaCompletion} {s : ModelStream}
    (htimes : ShortTimes x.codec.toModelTexts d) (hsequence : s.sequence ≤ U64.max)
    (houtput : s.output.length ≤ maxModelOutputBytes) (hshort : ∀ c, result = .ok c → c.Short) :
    ((terminalFrame x request d result s).toJson x.codec.toModelTexts).size ≤ maxArtifactHeaderBytes := by
  obtain ⟨hstarted, hfinished⟩ := htimes
  have hsequence := decimalLen_le_of_u64 hsequence
  have houtput : decimalLen s.output.length ≤ 20 :=
    decimalLen_le_of_u64 (le_trans houtput (by decide))
  have hdigest := @quotedLen_digestText x s.output
  have hsignature : ∀ r, quotedLen (Hex.encode (x.signModelReceipt r).1) = 130 := by
    intro r
    rw [quotedLen_encode, (x.signModelReceipt r).2]
  -- the texts that are the same in every frame
  have hfixed : quotedLen ModelInvocationFrameV1.schemaName = 35 ∧ quotedLen ModelExecutionReceiptV1.schemaName = 36 ∧
      quotedLen ModelInvocationFrameKind.complete.text = 10 ∧ quotedLen ModelInvocationFrameKind.error.text = 7 ∧
      quotedLen JobState.succeeded.text = 11 ∧ quotedLen JobState.failed.text = 8 ∧ quotedLen "" = 2 := by decide
  have hbound : maxArtifactHeaderBytes = 65536 := by decide
  rw [ModelInvocationFrameV1.size_toJson]
  cases result with
  | ok c =>
    have hreason := quotedLen_finishReason (hshort c rfl)
    have husage : usageLen c.usage ≤ 88 := by
      have hcounts := (hshort c rfl).usage
      cases hu : c.usage with
      | none => exact Nat.zero_le _
      | some u =>
        obtain ⟨hprompt, hcompletion⟩ := hcounts u hu
        have hprompt := decimalLen_le_of_u64 hprompt
        have hcompletion := decimalLen_le_of_u64 hcompletion
        show 48 + decimalLen u.promptTokens + decimalLen u.completionTokens ≤ 88
        omega
    simp only [terminalFrame, receiptLen, ModelExecutionReceiptV1.size_toJson, OllamaWorker.signed, unsignedModelReceipt,
      textLen, hfixed, hsignature, hdigest]
    omega
  | error e =>
    have herror := quotedLen_boundedError e
    simp only [terminalFrame, receiptLen, ModelExecutionReceiptV1.size_toJson, OllamaWorker.signed, unsignedModelReceipt,
      textLen, usageLen, hfixed, hsignature, hdigest]
    omega

/-! ## A whole run -/

/-- The reasons that the lines of a response give are short. -/
def ShortReasons (x : OllamaWorker) (response : List (Except String (List UInt8))) : Prop :=
  ∀ line chunk, .ok line ∈ responseLines [] response → x.readChunk line = .ok chunk → ∀ reason ∈ chunk.doneReason,
    isAscii reason = true ∧ reason.utf8ByteSize ≤ 64

theorem short_completion {chunk : OllamaChatChunk}
    (h : ∀ reason ∈ chunk.doneReason, isAscii reason = true ∧ reason.utf8ByteSize ≤ 64) : chunk.completion.Short := by
  have hcounts : ∀ n : UInt64, n.toNat ≤ U64.max := by
    intro n
    have := n.toNat_lt
    unfold U64.max
    omega
  have hreason : isAscii chunk.completion.finishReason = true ∧ chunk.completion.finishReason.utf8ByteSize ≤ 64 := by
    unfold OllamaChatChunk.completion
    cases hr : chunk.doneReason with
    | none => exact (by decide : isAscii "stop" = true ∧ "stop".utf8ByteSize ≤ 64)
    | some reason => exact h reason hr
  refine ⟨hreason.1, hreason.2, ?_⟩
  intro u hu
  obtain ⟨prompt, -, hu⟩ := Option.bind_eq_some_iff.1 hu
  obtain ⟨count, -, rfl⟩ := Option.map_eq_some_iff.1 hu
  exact ⟨hcounts prompt, hcounts count⟩

variable {response : List (Except String (List UInt8))} {d : ServeDraws}

/-- The last frame of a response whose frames fit. -/
def lastFrame (x : OllamaWorker) (request : ModelInvocationRequestV1) (d : ServeDraws)
    (response : List (Except String (List UInt8))) : ModelInvocationFrameV1 :=
  terminalFrame x request d (sentResult x request response) (sentStream x request response)

theorem short_sentResult (hshort : ShortReasons x response) {c : OllamaCompletion} (h : sentResult x request response = .ok c) :
    c.Short := by
  obtain ⟨line, chunk, hmem, hchunk, rfl⟩ := emit_completion (emitted_of_sentResult h)
  exact short_completion (hshort line chunk hmem hchunk)

theorem length_output_sentStream : (sentStream x request response).output.length ≤ maxModelOutputBytes := by
  have hlen := @emit_le x request (responseLines [] response) 0 (Nat.zero_le _)
  rwa [Nat.zero_add] at hlen

theorem size_lastFrame (htimes : ShortTimes x.codec.toModelTexts d) (hshort : ShortReasons x response) :
    ((lastFrame x request d response).toJson x.codec.toModelTexts).size ≤ maxArtifactHeaderBytes :=
  size_terminalFrame htimes (numberAfter_le (Nat.zero_le _)) length_output_sentStream fun _ h => short_sentResult hshort h

/-- A response whose delta frames fit is written whole: its pieces, in frames numbered from zero, and a last frame with a
receipt for them. -/
theorem runOllamaInvocation_of_fits (h : responseFits x request response = true) (htimes : ShortTimes x.codec.toModelTexts d)
    (hshort : ShortReasons x response) :
    runOllamaInvocation x request d response =
      (.ok (), { sentStream x request response with
        produced := (sentStream x request response).produced ++ [lastFrame x request d response]
        written := (sentStream x request response).written ++
          headerBytes ((lastFrame x request d response).toJson x.codec.toModelTexts) }) := by
  unfold runOllamaInvocation
  rw [execution_of_fits h]
  exact writeFrame_of_fits rfl (size_lastFrame htimes hshort) _

theorem servedReceipt_of_fits (h : responseFits x request response = true) :
    servedReceipt x request d response =
      x.signed (unsignedModelReceipt x request d (sentResult x request response) (sentStream x request response)) := by
  unfold servedReceipt
  rw [execution_of_fits h]

/-! ## One line -/

/-- A response that is one line. -/
theorem responseLines_of_line {line : List UInt8} (hfeed : 10 ∉ line) (hblank : line.all isAsciiWhitespace = false)
    (hlen : line.length < maxBufferedBytes) : responseLines [] [.ok (line ++ [10])] = [.ok line] := by
  have hsplit : (line ++ [10]).splitOn 10 = [line, []] := by
    rw [List.splitOn_append_cons_self, List.splitOn_eq_singleton hfeed]
    rfl
  rw [responseLines, List.nil_append, hsplit, if_pos (by rw [List.length_append, List.length_singleton]; omega)]
  simp [hblank, responseLines]

theorem emitted_of_line {line : List UInt8} {chunk : OllamaChatChunk} (hlines : responseLines [] response = [.ok line])
    (hchunk : x.readChunk line = .ok chunk) (herror : chunk.error = none) (hmodel : chunk.model = none)
    (hlen : (chunk.content.getD "").utf8ByteSize ≤ maxModelOutputBytes) :
    emitted x request response =
      (piecesOf (chunk.content.getD ""), .ok (if chunk.done then some chunk.completion else none)) := by
  have hsat : U64.satAdd 0 (chunk.content.getD "").utf8ByteSize ≤ maxModelOutputBytes := by
    rw [U64.satAdd, Nat.zero_add]
    exact le_trans (Nat.min_le_left ..) hlen
  have hline : emitLine x request 0 line =
      .ok (chunk.content.getD "", if chunk.done then some chunk.completion else none) := by
    unfold emitLine
    rw [hchunk]
    dsimp only
    rw [if_neg (by simp [herror]), if_neg (by simp [hmodel]), if_neg (fun h => absurd h.2 (not_lt.2 hsat))]
  unfold emitted
  rw [hlines]
  simp only [emit, hline]
  cases chunk.done
  · simp
  · rfl

/-! ## Which responses fit -/

/-- A text whose JSON is at most twice as long. -/
def isTame (content : String) : Bool := content.toList.all fun c => escapedLen c ≤ 2 * c.utf8Size

theorem quotedLen_piece {content piece : String} (htame : isTame content = true) (h : piece ∈ piecesOf content) :
    quotedLen piece ≤ 2 + 2 * (16 * 1024) := by
  have hescaped : ∀ cs : List Char, (∀ c ∈ cs, escapedLen c ≤ 2 * c.utf8Size) → (cs.map escapedLen).sum ≤ 2 * byteLen cs := by
    intro cs hcs
    induction cs with
    | nil => exact Nat.zero_le _
    | cons c cs ih =>
      have hc := hcs c (List.mem_cons_self ..)
      have hrest := ih fun c hc => hcs c (List.mem_cons_of_mem _ hc)
      rw [List.map_cons, List.sum_cons, byteLen_cons]
      omega
  have hall : ∀ c ∈ content.toList, escapedLen c ≤ 2 * c.utf8Size := by
    intro c hc
    exact of_decide_eq_true (List.all_eq_true.1 htame c hc)
  have hbytes : byteLen piece.toList ≤ 16 * 1024 ∧ ∀ c ∈ piece.toList, c ∈ content.toList := by
    unfold piecesOf at h
    split at h
    · cases h
    · constructor
      · rw [byteLen_toList]
        exact utf8ByteSize_le_of_mem (by omega) h
      · exact mem_toList_of_mem h
  have hquoted := hescaped piece.toList fun c hc => hall c (hbytes.2 c hc)
  have hlen := hbytes.1
  unfold quotedLen
  omega

/-- Pieces of tame texts fit. -/
theorem deltasFit_of_quotedLen : ∀ {pieces : List String} {n : Nat}, n ≤ U64.max →
    (∀ piece ∈ pieces, quotedLen piece ≤ 2 + 2 * (16 * 1024)) → deltasFit n pieces = true
  | [], _, _, _ => rfl
  | piece :: rest, n, hn, h => by
    have hpiece := h piece (List.mem_cons_self ..)
    have hnumber := decimalLen_le_of_u64 hn
    have hbound : maxArtifactHeaderBytes = 65536 := by decide
    have hfits : deltaLen n piece ≤ maxArtifactHeaderBytes := by
      unfold deltaLen
      omega
    have hrest : deltasFit (U64.satAdd n 1) rest = true :=
      deltasFit_of_quotedLen (Nat.min_le_right ..) fun piece hpiece => h piece (List.mem_cons_of_mem _ hpiece)
    rw [deltasFit, decide_eq_true hfits, hrest]
    rfl

theorem mem_emit {piece : String} : ∀ {steps : List (Except String (List UInt8))} {read : Nat},
    piece ∈ (emit x request steps read).1 →
      ∃ line chunk, .ok line ∈ steps ∧ x.readChunk line = .ok chunk ∧ piece ∈ piecesOf (chunk.content.getD "")
  | [], _, h => by cases h
  | .error _ :: _, _, h => by cases h
  | .ok line :: rest, read, h => by
    rcases hline : emitLine x request read line with e | ⟨content, completion⟩
    · simp only [emit, hline] at h
      cases h
    · obtain ⟨chunk, hchunk, _, _, rfl, _, _⟩ := emitLine_ok hline
      have hfirst : piece ∈ piecesOf (chunk.content.getD "") → ∃ line' chunk', .ok line' ∈ .ok line :: rest ∧
          x.readChunk line' = .ok chunk' ∧ piece ∈ piecesOf (chunk'.content.getD "") :=
        fun hpiece => ⟨line, chunk, List.mem_cons_self .., hchunk, hpiece⟩
      cases completion with
      | none =>
        simp only [emit, hline] at h
        rcases List.mem_append.1 h with h | h
        · exact hfirst h
        · obtain ⟨line', chunk', hmem, hrest⟩ := mem_emit h
          exact ⟨line', chunk', List.mem_cons_of_mem _ hmem, hrest⟩
      | some completion =>
        simp only [emit, hline] at h
        exact hfirst h

/-- A response of tame texts fits: only many control characters do not. -/
theorem responseFits_of_tame (h : ∀ line chunk, .ok line ∈ responseLines [] response → x.readChunk line = .ok chunk →
    isTame (chunk.content.getD "") = true) : responseFits x request response = true := by
  refine deltasFit_of_quotedLen (Nat.zero_le _) ?_
  intro piece hpiece
  obtain ⟨line, chunk, hmem, hchunk, hpiece⟩ := mem_emit hpiece
  exact quotedLen_piece (h line chunk hmem hchunk) hpiece

end

end Rampage.Agent
