/-
The response of a model arrives in chunks whose boundaries mean nothing. `linesOf` are the lines of a stream, up to one
that is longer than the buffer; what a cutting gives the worker is these lines (`responseLines_cut`) or, since the buffer is
checked before its lines are taken out, only the first of them and a failure. `cutting_is_immaterial_iff` says for which
streams every cutting gives the same run.
-/
import Mathlib.Data.Vector.Defs
import Rampage.Agent.Sent
import Rampage.Lib.Lines

namespace Rampage.Agent

open Rampage.Protocol Rampage.Mesh Lines

/-! ## The lines of a stream -/

/-- What the agent fails with when too much waits for the end of a line. -/
def oversizedFrame : String := "Ollama emitted an oversized frame"

/-- A line that is not blank. -/
def isLine (line : List UInt8) : Bool := !line.all isAsciiWhitespace

/-- Lines, and what follows the last line feed, up to one that does not fit into the buffer. -/
def streamLines (rest : List UInt8) : List (List UInt8) → List (Except String (List UInt8))
  | [] =>
    if maxBufferedBytes < rest.length then [.error oversizedFrame]
    else if isLine rest then [.ok rest]
    else []
  | line :: lines =>
    -- the buffer holds the line and its line feed
    if maxBufferedBytes ≤ line.length then [.error oversizedFrame]
    else if isLine line then .ok line :: streamLines rest lines
    else streamLines rest lines

/-- The lines of a stream, whatever it was cut into. -/
def linesOf (stream : List UInt8) : List (Except String (List UInt8)) :=
  streamLines (lastPiece 10 stream) (closedPieces 10 stream)

theorem streamLines_append (rest : List UInt8) (more : List (List UInt8)) : ∀ {lines : List (List UInt8)},
    (∀ line ∈ lines, line.length < maxBufferedBytes) →
      streamLines rest (lines ++ more) = (lines.filter isLine).map .ok ++ streamLines rest more
  | [], _ => rfl
  | line :: lines, h => by
    have hline := h line (List.mem_cons_self ..)
    have ih := streamLines_append rest more fun l hl => h l (List.mem_cons_of_mem _ hl)
    rw [List.cons_append, streamLines, if_neg (Nat.not_le.2 hline), ih]
    by_cases hblank : isLine line = true
    · rw [if_pos hblank, List.filter_cons_of_pos hblank]
      rfl
    · rw [if_neg hblank, List.filter_cons_of_neg hblank]

/-- The lines of a beginning that fits into the buffer come first. -/
theorem linesOf_append {l : List UInt8} (h : l.length ≤ maxBufferedBytes) (l' : List UInt8) :
    linesOf (l ++ l') = ((closedPieces 10 l).filter isLine).map .ok ++ linesOf (lastPiece 10 l ++ l') := by
  unfold linesOf
  rw [closedPieces_append, lastPiece_append]
  refine streamLines_append _ _ fun line hline => ?_
  have hlen := length_lt_of_mem_closedPieces 10 hline
  omega

/-- A beginning without a line feed that fills the buffer is the end. -/
theorem linesOf_long {l l' : List UInt8} (hfeed : 10 ∉ l) (hlen : maxBufferedBytes ≤ l.length) (hne : l' ≠ []) :
    linesOf (l ++ l') = [.error oversizedFrame] := by
  have hpos := List.length_pos_iff.2 hne
  unfold linesOf
  by_cases hmore : 10 ∈ l'
  · obtain ⟨u, v, rfl, hu⟩ := List.eq_append_cons_of_mem hmore
    have hfirst : 10 ∉ l ++ u := fun h => (List.mem_append.1 h).elim hfeed hu
    rw [← List.append_assoc, closedPieces_append_cons 10 hfirst, streamLines, if_pos]
    rw [List.length_append]
    omega
  · have hnone : 10 ∉ l ++ l' := fun h => (List.mem_append.1 h).elim hfeed hmore
    rw [closedPieces_of_notMem 10 hnone, lastPiece_of_notMem 10 hnone, streamLines, if_pos]
    rw [List.length_append]
    omega

/-- The only failure among the lines is the last one. -/
theorem streamLines_error {rest : List UInt8} {e : String} {more : List (Except String (List UInt8))} :
    ∀ {lines : List (List UInt8)}, streamLines rest lines = .error e :: more → e = oversizedFrame ∧ more = []
  | [], h => by
    unfold streamLines at h
    split_ifs at h
    · cases h
      exact ⟨rfl, rfl⟩
    · cases h
  | line :: lines, h => by
    rw [streamLines] at h
    split_ifs at h
    · cases h
      exact ⟨rfl, rfl⟩
    · cases h
    · exact streamLines_error h

/-! ## Cuttings -/

/-- A response that arrives in the given chunks. -/
def arriving (chunks : List (List UInt8)) : List (Except String (List UInt8)) := chunks.map .ok

theorem responseLines_chunk {buffered chunk : List UInt8} (h : (buffered ++ chunk).length ≤ maxBufferedBytes)
    (chunks : List (List UInt8)) :
    responseLines buffered (arriving (chunk :: chunks)) =
      ((closedPieces 10 (buffered ++ chunk)).filter isLine).map .ok ++
        responseLines (lastPiece 10 (buffered ++ chunk)) (arriving chunks) :=
  if_pos h

theorem responseLines_oversized {buffered chunk : List UInt8} (h : maxBufferedBytes < (buffered ++ chunk).length)
    (chunks : List (List UInt8)) :
    responseLines buffered (arriving (chunk :: chunks)) = [.error oversizedFrame] :=
  if_neg (Nat.not_le.2 h)

theorem responseLines_nil {buffered : List UInt8} (hfeed : 10 ∉ buffered) (hlen : buffered.length ≤ maxBufferedBytes) :
    responseLines buffered [] = linesOf buffered := by
  unfold linesOf
  rw [closedPieces_of_notMem 10 hfeed, lastPiece_of_notMem 10 hfeed, streamLines, if_neg (Nat.not_lt.2 hlen), responseLines]
  unfold isLine
  cases buffered.all isAsciiWhitespace
  · rfl
  · rfl

/-- A cutting gives the worker the lines of the stream, or its first lines and then a failure; not the latter, if the
stream fits into the buffer. -/
theorem responseLines_cut : ∀ {chunks : List (List UInt8)} {buffered : List UInt8}, 10 ∉ buffered →
    buffered.length ≤ maxBufferedBytes →
      responseLines buffered (arriving chunks) = linesOf (buffered ++ chunks.flatten) ∨
        maxBufferedBytes < (buffered ++ chunks.flatten).length ∧
          ∃ (first : List (List UInt8)) (rest : List (Except String (List UInt8))),
            linesOf (buffered ++ chunks.flatten) = first.map .ok ++ rest ∧
              responseLines buffered (arriving chunks) = first.map .ok ++ [.error oversizedFrame]
  | [], buffered, hfeed, hlen => by
    left
    rw [List.flatten_nil, List.append_nil]
    exact responseLines_nil hfeed hlen
  | chunk :: chunks, buffered, hfeed, hlen => by
    rw [List.flatten_cons, ← List.append_assoc]
    by_cases hfits : (buffered ++ chunk).length ≤ maxBufferedBytes
    · have hrest := length_lastPiece_le 10 (buffered ++ chunk)
      rw [responseLines_chunk hfits, linesOf_append hfits]
      rcases @responseLines_cut chunks _ (notMem_lastPiece 10 (buffered ++ chunk)) (by omega) with
        ih | ⟨hlong, first, rest, hlines, ih⟩
      · left
        rw [ih]
      · right
        refine ⟨?_, (closedPieces 10 (buffered ++ chunk)).filter isLine ++ first, rest, ?_, ?_⟩
        · rw [List.length_append] at hlong ⊢
          omega
        · rw [hlines, List.map_append, List.append_assoc]
        · rw [ih, List.map_append, List.append_assoc]
    · right
      have hlong := Nat.lt_of_not_le hfits
      refine ⟨?_, [], _, rfl, responseLines_oversized hlong chunks⟩
      rw [List.length_append]
      omega

/-- Byte by byte, the worker is given the lines of the stream. -/
theorem responseLines_bytes : ∀ {stream buffered : List UInt8}, 10 ∉ buffered → buffered.length ≤ maxBufferedBytes →
    responseLines buffered (arriving (stream.map fun b => [b])) = linesOf (buffered ++ stream)
  | [], buffered, hfeed, hlen => by
    rw [List.append_nil]
    exact responseLines_nil hfeed hlen
  | b :: stream, buffered, hfeed, hlen => by
    rw [List.map_cons]
    by_cases hfits : (buffered ++ [b]).length ≤ maxBufferedBytes
    · have hrest := length_lastPiece_le 10 (buffered ++ [b])
      have happend := linesOf_append hfits stream
      rw [List.append_assoc, List.singleton_append] at happend
      rw [responseLines_chunk hfits, happend, responseLines_bytes (notMem_lastPiece 10 (buffered ++ [b])) (by omega)]
    · have hlong := Nat.lt_of_not_le hfits
      have hfull : maxBufferedBytes ≤ buffered.length := by
        rw [List.length_append, List.length_singleton] at hlong
        omega
      rw [responseLines_oversized hlong, linesOf_long hfeed hfull (List.cons_ne_nil _ _)]

/-! ## Runs -/

section

variable (x : OllamaWorker) (request : ModelInvocationRequestV1) (d : ServeDraws)

/-- The lines that a run hands to `process_ollama_line`. -/
def handledLines : List (Except String (List UInt8)) → ModelStream → List (List UInt8)
  | [], _ => []
  | .error _ :: _, _ => []
  | .ok line :: rest, s =>
    match processOllamaLine x request line s with
    | (.ok none, s') => line :: handledLines rest s'
    | _ => [line]

/-- Two ways of receiving a response have the worker handle the same lines, and write and end alike. -/
def SameRun (response response' : List (Except String (List UInt8))) : Prop :=
  handledLines x request (responseLines [] response) .start = handledLines x request (responseLines [] response') .start ∧
    runOllamaInvocation x request d response = runOllamaInvocation x request d response'

variable {x request d}

/-- Responses with the same lines have the same run. -/
theorem sameRun_of_lines {response response' : List (Except String (List UInt8))}
    (h : responseLines [] response = responseLines [] response') : SameRun x request d response response' := by
  have hexec : execution x request response .start = execution x request response' .start := by
    rw [execution_eq_runSteps, execution_eq_runSteps, h]
  refine ⟨by rw [h], ?_⟩
  unfold runOllamaInvocation
  rw [hexec]

/-- The frames of a run whose execution failed at once. -/
theorem produced_of_failed {response : List (Except String (List UInt8))} {e : String}
    (h : execution x request response .start = (.error e, .start)) :
    (runOllamaInvocation x request d response).2.produced = [terminalFrame x request d (.error e) .start] := by
  unfold runOllamaInvocation
  rw [h]
  dsimp only
  rw [produced_writeFrame]
  rfl

theorem handledLines_ne_nil {line : List UInt8} {rest : List (Except String (List UInt8))} {s : ModelStream} :
    handledLines x request (.ok line :: rest) s ≠ [] := by
  rw [handledLines]
  split
  · exact List.cons_ne_nil _ _
  · exact List.cons_ne_nil _ _

/-- A stream that does not fit into the buffer and has a line, or blank lines only, is handled in one way byte by byte
and in another all at once. -/
theorem not_sameRun_of_long {stream : List UInt8} (hlong : maxBufferedBytes < stream.length)
    (hlines : linesOf stream ≠ [.error oversizedFrame]) :
    ¬ SameRun x request d (arriving (stream.map fun b => [b])) (arriving [stream]) := by
  have hbytes : responseLines [] (arriving (stream.map fun b => [b])) = linesOf stream :=
    responseLines_bytes List.not_mem_nil (Nat.zero_le _)
  have hwhole : responseLines [] (arriving [stream]) = [.error oversizedFrame] :=
    @responseLines_oversized [] stream hlong []
  rintro ⟨hhandled, hrun⟩
  rw [hbytes, hwhole] at hhandled
  cases hfirst : linesOf stream with
  | nil =>
    have hended : execution x request (arriving (stream.map fun b => [b])) .start =
        (.error "Ollama stream ended without a terminal frame", .start) := by
      rw [execution_eq_runSteps, hbytes, hfirst]
      rfl
    have hfailed : execution x request (arriving [stream]) .start = (.error oversizedFrame, .start) := by
      rw [execution_eq_runSteps, hwhole]
      rfl
    have hproduced := congrArg (fun r => r.2.produced) hrun
    rw [produced_of_failed hended, produced_of_failed hfailed] at hproduced
    -- the two last frames carry different texts
    have herror := congrArg ModelInvocationFrameV1.error (List.singleton_inj.1 hproduced)
    have hdiffer : boundedError "Ollama stream ended without a terminal frame" ≠ boundedError oversizedFrame := by decide
    exact hdiffer (Option.some.inj herror)
  | cons first rest =>
    cases first with
    | error e =>
      obtain ⟨rfl, rfl⟩ := streamLines_error hfirst
      exact hlines hfirst
    | ok line =>
      rw [hfirst] at hhandled
      exact handledLines_ne_nil hhandled

/-- The cutting of a stream does not matter exactly if the stream fits into the buffer, or its first line that is not blank
does not. -/
theorem cutting_is_immaterial_iff (x : OllamaWorker) (request : ModelInvocationRequestV1) (d : ServeDraws)
    (stream : List UInt8) :
    (∀ chunks chunks' : List (List UInt8), chunks.flatten = stream → chunks'.flatten = stream →
        SameRun x request d (arriving chunks) (arriving chunks')) ↔
      stream.length ≤ maxBufferedBytes ∨ linesOf stream = [.error oversizedFrame] := by
  constructor
  · intro h
    by_contra hno
    obtain ⟨hlong, hlines⟩ := not_or.1 hno
    have hbytes : (stream.map fun b => [b]).flatten = stream := by
      rw [← List.flatMap_def, List.flatMap_singleton']
    exact not_sameRun_of_long (Nat.lt_of_not_le hlong) hlines (h _ [stream] hbytes (List.flatten_singleton ..))
  · intro h chunks chunks' hchunks hchunks'
    have hcut : ∀ chunks : List (List UInt8), chunks.flatten = stream →
        responseLines [] (arriving chunks) = linesOf stream := by
      intro chunks hchunks
      rcases @responseLines_cut chunks [] List.not_mem_nil (Nat.zero_le _) with hsame | ⟨hlong, first, rest, hlines, hsteps⟩
      · rw [hsame, List.nil_append, hchunks]
      · rw [List.nil_append, hchunks] at hlong hlines
        rcases h with hfits | hover
        · omega
        · -- the failure is the only step, so there is no line before it
          rw [hover] at hlines
          cases first with
          | nil => rw [hsteps, hover]; rfl
          | cons line first => cases hlines
    exact sameRun_of_lines (by rw [hcut chunks hchunks, hcut chunks' hchunks'])

end

/-! ## A stream of more than 256 KiB -/

namespace Scenario

/-- A line that completes a response. -/
def lastLine : List UInt8 := utf8 "\x7b\"message\":\x7b\"content\":\"hello\"\x7d,\"done\":true\x7d"

/-- The one line of the example, decoded. -/
def lastChunk : OllamaChatChunk where
  model := none
  content := some "hello"
  done := true
  doneReason := none
  promptEvalCount := none
  evalCount := none
  error := none

/-- Every time prints the same. -/
def texts : ModelTexts := ⟨fun _ => "1970-01-01T00:00:00Z", fun _ => .ofNat 0⟩

/-- Nothing is read through it. -/
def codec : ModelCodec := ⟨texts, fun _ => none, fun _ => none⟩

/-- A worker that understands the one line. -/
def worker : OllamaWorker where
  codec := codec
  readChunk := fun line => if line == lastLine then .ok lastChunk else .error "expected value at line 1 column 1"
  sha256 := fun _ => List.Vector.replicate 32 0
  signModelReceipt := fun _ => List.Vector.replicate 64 0
  faultText := fun _ => "artifact transfer header is invalid or too large"

/-- A session for any model. -/
def asked : ModelInvocationRequestV1 where
  schema := ModelInvocationRequestV1.schemaName
  requestId := 1
  lease :=
    { schema := ModelSessionLeaseV1.schemaName
      leaseId := 2
      sessionId := 3
      nodeId := 4
      controllerEndpointId := "controller"
      modelId := "llama3"
      modelDigest := "sha256:aaaaaaaaaaaaaaaaaaaaaaaaaaaaaaaaaaaaaaaaaaaaaaaaaaaaaaaaaaaaaaaa"
      backend := .localOllama
      runtimeDigest := "sha256:bbbbbbbbbbbbbbbbbbbbbbbbbbbbbbbbbbbbbbbbbbbbbbbbbbbbbbbbbbbbbbbb"
      parallelism := .wholeModel
      maxPromptBytes := 5
      maxOutputTokens := 512
      issuedAt := 0
      expiresAt := 120000000000
      nonce := "nonce"
      fencingEpoch := 0
      signature := "" }
  messages := [⟨"user", "hi"⟩]
  maxOutputTokens := 512
  stream := true
  temperature := none
  topP := none

/-- Every clock reads 0. -/
def draws : ServeDraws := ⟨0, 0, 5⟩

theorem isLine_lastLine : 10 ∉ lastLine ∧ isLine lastLine = true ∧ 0 < lastLine.length ∧ lastLine.length < maxBufferedBytes := by
  decide

/-- Lines without anything, as long as the buffer. -/
structure Blank (blank : List UInt8) : Prop where
  length : blank.length = maxBufferedBytes
  closed : (closedPieces 10 blank).filter isLine = []
  last : lastPiece 10 blank = []

/-- In two chunks, the line is the whole response. -/
theorem responseLines_apart {blank : List UInt8} (h : Blank blank) :
    responseLines [] (arriving [blank, lastLine]) = [.ok lastLine] := by
  obtain ⟨hfeed, hline, hpos, hlen⟩ := isLine_lastLine
  have hfirst := @responseLines_chunk [] blank (Nat.le_of_eq h.length) [lastLine]
  have hsecond := @responseLines_chunk [] lastLine (Nat.le_of_lt hlen) []
  have hend := @responseLines_nil lastLine hfeed (Nat.le_of_lt hlen)
  rw [List.nil_append] at hfirst hsecond
  rw [hfirst, h.closed, h.last, hsecond, closedPieces_of_notMem 10 hfeed, lastPiece_of_notMem 10 hfeed, arriving, List.map_nil,
    hend, linesOf, closedPieces_of_notMem 10 hfeed, lastPiece_of_notMem 10 hfeed, streamLines,
    if_neg (Nat.not_lt.2 (Nat.le_of_lt hlen)), if_pos hline]
  rfl

theorem succeeds_apart {blank : List UInt8} (h : Blank blank) :
    (servedReceipt worker asked draws (arriving [blank, lastLine])).state = .succeeded := by
  have hread : worker.readChunk lastLine = .ok lastChunk := by decide
  have hemitted := @emitted_of_line worker asked _ _ _ (responseLines_apart h) hread rfl rfl (by decide)
  have hfit : responseFits worker asked (arriving [blank, lastLine]) = true := by
    unfold responseFits
    rw [hemitted]
    decide
  have hresult : sentResult worker asked (arriving [blank, lastLine]) = .ok lastChunk.completion := by
    unfold sentResult sentStream
    rw [hemitted]
    decide
  rw [servedReceipt_of_fits hfit, hresult]
  rfl

theorem fails_together {blank : List UInt8} (h : Blank blank) :
    (servedReceipt worker asked draws (arriving [blank ++ lastLine])).state = .failed := by
  obtain ⟨-, -, hpos, -⟩ := isLine_lastLine
  have hlong : maxBufferedBytes < ([] ++ (blank ++ lastLine)).length := by
    rw [List.nil_append, List.length_append, h.length]
    omega
  have hfailed : execution worker asked (arriving [blank ++ lastLine]) .start = (.error oversizedFrame, .start) := by
    rw [execution_eq_runSteps, responseLines_oversized hlong]
    rfl
  unfold servedReceipt
  rw [hfailed]
  rfl

/-- Line feeds that fill the buffer. -/
theorem blank_feeds : Blank (List.replicate maxBufferedBytes 10) := by
  refine ⟨List.length_replicate, ?_, ?_⟩
  · rw [closedPieces_replicate, List.filter_replicate]
    rfl
  · rw [lastPiece_replicate]

end Scenario

open Scenario in
/-- 256 KiB of line feeds and an answer: in two chunks the session succeeds, in one it fails. -/
theorem one_chunk_fails :
    ∃ blank : List UInt8, blank = List.replicate maxBufferedBytes 10 ∧
      [blank, lastLine].flatten = [blank ++ lastLine].flatten ∧
      (servedReceipt worker asked draws (arriving [blank, lastLine])).state = .succeeded ∧
      (servedReceipt worker asked draws (arriving [blank ++ lastLine])).state = .failed := by
  refine ⟨_, rfl, ?_, succeeds_apart blank_feeds, fails_together blank_feeds⟩
  rw [List.flatten_cons, List.flatten_singleton, List.flatten_singleton]

end Rampage.Agent
