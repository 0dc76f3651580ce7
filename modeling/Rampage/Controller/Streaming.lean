/-
What the client of a streamed answer learns. The text it has been sent when it is told that the answer is finished is the
text that an enrolled node has signed for in this session, wherever the bytes it received were cut
(`openai_stream_is_signed`, `anthropic_stream_is_signed`); and a client that reads to the end is told what the client of a
whole answer is told (`answers_agree`).
-/
import Mathlib
import Rampage.Controller.Answers

namespace Rampage.Controller

open Rampage.Protocol Rampage.Governor Rampage.Mesh Rampage.Agent

/-! ## Reading an answer -/

open Classical in
/-- The value that a compact text stands for. -/
noncomputable def ofVec? (bytes : List UInt8) : Option Json := if h : ∃ v : Json, v.toVec = bytes then some h.choose else none

@[simp] theorem ofVec?_toVec (v : Json) : ofVec? v.toVec = some v := by
  have h : ∃ w : Json, w.toVec = v.toVec := ⟨v, rfl⟩
  unfold ofVec?
  rw [dif_pos h]
  exact congrArg some (Json.toVec_injective h.choose_spec)

/-- The first item of an array. -/
def firstItem? : Json → Option Json
  | .arr (v :: _) => some v
  | _ => none

/-- `as_u64` of a JSON number. -/
def asNat? : Json → Option Nat
  | .num n => n.toNat?
  | _ => none

/-- The usage that an answer of the second API reports. -/
def usageOf? (v : Json) : Option ModelUsageV1 :=
  match (v.get? "input_tokens").bind asNat?, (v.get? "output_tokens").bind asNat? with
  | some promptTokens, some completionTokens => some ⟨promptTokens, completionTokens⟩
  | _, _ => none

/-- The first choice of a chunk. -/
noncomputable def chunkChoice (e : Sse.Event) : Option Json :=
  if e = doneSse then none else ((ofVec? e.data).bind (Json.get? "choices")).bind firstItem?

/-- The text a chunk of the OpenAI stream carries. -/
noncomputable def chunkContent (e : Sse.Event) : Option String :=
  (((chunkChoice e).bind (Json.get? "delta")).bind (Json.get? "content")).bind Json.asStr

/-- The reason a chunk of the OpenAI stream ends with. -/
noncomputable def chunkFinish (e : Sse.Event) : Option String :=
  ((chunkChoice e).bind (Json.get? "finish_reason")).bind Json.asStr

/-- The text that the events of the first API make up. -/
noncomputable def openaiText (es : List Sse.Event) : String := receivedText "" (es.filterMap chunkContent)

/-- The reason why the answer is finished, once it is. -/
noncomputable def openaiFinish (es : List Sse.Event) : Option String := es.findSome? chunkFinish

/-- The text a delta of the Anthropic stream carries. -/
noncomputable def deltaContent (e : Sse.Event) : Option String :=
  if e.event = utf8 "content_block_delta" then
    (((ofVec? e.data).bind (Json.get? "delta")).bind (Json.get? "text")).bind Json.asStr
  else none

/-- The reason and the usage of a message that is finished. -/
noncomputable def messageEnd (e : Sse.Event) : Option (String × ModelUsageV1) :=
  if e.event = utf8 "message_delta" then
    (ofVec? e.data).bind fun v =>
      (((v.get? "delta").bind (Json.get? "stop_reason")).bind Json.asStr).bind fun reason =>
        ((v.get? "usage").bind usageOf?).map fun usage => (reason, usage)
  else none

/-- The text that the events of the second API make up. -/
noncomputable def anthropicText (es : List Sse.Event) : String := receivedText "" (es.filterMap deltaContent)

/-- The reason and the usage the Anthropic stream ends with. -/
noncomputable def anthropicEnd (es : List Sse.Event) : Option (String × ModelUsageV1) := es.findSome? messageEnd

/-! ## The events of the two APIs, read -/

section

variable (invocation : ModelInvocationRequestV1)

theorem toVec_obj_ne_done (entry : String × Json) (entries : List (String × Json)) :
    (Json.obj (entry :: entries)).toVec ≠ utf8 "[DONE]" := by
  obtain ⟨key, v⟩ := entry
  have hhead : (Json.obj ((key, v) :: entries)).toVec.head? = some 123 := by
    rw [Json.toVec, Json.print, List.flatMap_cons]
    rfl
  intro h
  rw [h] at hhead
  revert hhead
  decide

theorem openaiSse_ne_done (entry : String × Json) (entries : List (String × Json)) :
    openaiSse (.obj (entry :: entries)) ≠ doneSse :=
  fun h => toVec_obj_ne_done entry entries (congrArg Sse.Event.data h)

theorem chunkChoice_openaiChunk (modelId : String) (delta finishReason : Json) :
    chunkChoice (openaiSse (openaiChunk invocation modelId delta finishReason)) =
      some (.obj [("delta", delta), ("finish_reason", finishReason), ("index", jsonNat 0)]) := by
  have hne : openaiSse (openaiChunk invocation modelId delta finishReason) ≠ doneSse := openaiSse_ne_done _ _
  unfold chunkChoice
  rw [if_neg hne, openaiSse, ofVec?_toVec]
  rfl

@[simp] theorem chunkContent_openaiDelta (content : String) : chunkContent (openaiDelta invocation content) = some content := by
  unfold chunkContent openaiDelta
  rw [chunkChoice_openaiChunk]
  rfl

@[simp] theorem chunkFinish_openaiDelta (content : String) : chunkFinish (openaiDelta invocation content) = none := by
  unfold chunkFinish openaiDelta
  rw [chunkChoice_openaiChunk]
  rfl

theorem chunkChoice_openaiErrorValue (message kind : String) (param : Option String) (code : String) :
    chunkChoice (openaiSse (openaiErrorValue message kind param code)) = none := by
  have hne : openaiSse (openaiErrorValue message kind param code) ≠ doneSse := openaiSse_ne_done _ _
  unfold chunkChoice
  rw [if_neg hne, openaiSse, ofVec?_toVec]
  rfl

@[simp] theorem chunkChoice_done : chunkChoice doneSse = none := if_pos rfl

end

theorem asNat?_jsonNat (n : Nat) : asNat? (jsonNat n) = some n := JsonNumber.toNat?_ofNat n

theorem usageOf?_anthropicUsage (u : ModelUsageV1) : usageOf? (anthropicUsage u.promptTokens u.completionTokens) = some u := by
  have hinput : (anthropicUsage u.promptTokens u.completionTokens).get? "input_tokens" = some (jsonNat u.promptTokens) := rfl
  have houtput : (anthropicUsage u.promptTokens u.completionTokens).get? "output_tokens" = some (jsonNat u.completionTokens) := rfl
  unfold usageOf?
  rw [hinput, houtput, Option.bind_some, Option.bind_some, asNat?_jsonNat, asNat?_jsonNat]

theorem utf8_ne {s t : String} (h : s ≠ t) : utf8 s ≠ utf8 t := fun hsame => h (utf8_injective hsame)

@[simp] theorem deltaContent_anthropicDelta (content : String) : deltaContent (anthropicDelta content) = some content := by
  unfold deltaContent anthropicDelta anthropicSse
  rw [if_pos rfl, ofVec?_toVec]
  rfl

/-- An event of another type has no text, -/
theorem deltaContent_of_ne {event : String} (h : event ≠ "content_block_delta") (value : Json) :
    deltaContent (anthropicSse event value) = none := if_neg (utf8_ne h)

/-- and no end. -/
theorem messageEnd_of_ne {event : String} (h : event ≠ "message_delta") (value : Json) :
    messageEnd (anthropicSse event value) = none := if_neg (utf8_ne h)

@[simp] theorem messageEnd_messageDelta (reason : String) (usage : ModelUsageV1) :
    messageEnd (messageDelta reason usage) = some (anthropicStopReason reason, usage) := by
  unfold messageEnd messageDelta anthropicSse
  rw [if_pos rfl, ofVec?_toVec]
  dsimp only [Option.bind_some]
  rw [show (Json.obj [("delta", Json.obj [("stop_reason", .str (anthropicStopReason reason)), ("stop_sequence", .null)]),
    ("type", .str "message_delta"), ("usage", anthropicUsage usage.promptTokens usage.completionTokens)]).get? "usage" =
      some (anthropicUsage usage.promptTokens usage.completionTokens) from rfl, Option.bind_some, usageOf?_anthropicUsage]
  rfl

/-! ## What is sent is what is read -/

/-- A receipt of this session that an enrolled node signed for this text. -/
structure SignedFor (k : ModelConsumer) (invocation : ModelInvocationRequestV1) (text : String) (usage : Option ModelUsageV1)
    (receipt : ModelExecutionReceiptV1) : Prop where
  verified : ∃ identity, k.nodes.lookup receipt.nodeId = some identity ∧ identity.nodeId = receipt.nodeId ∧
    k.verifyModelReceiptSignature identity.publicKey receipt = true
  node : receipt.nodeId = invocation.lease.nodeId
  lease : receipt.leaseId = invocation.lease.leaseId
  session : receipt.sessionId = invocation.lease.sessionId
  request : receipt.requestId = invocation.requestId
  succeeded : receipt.state = .succeeded
  digest : receipt.outputDigest = digestText k.sha256 (utf8 text)
  bytes : receipt.outputBytes = text.utf8ByteSize
  usage : receipt.usage = usage

section

variable {k : ModelConsumer} {invocation : ModelInvocationRequestV1}

theorem signed_of_verify {receipt : ModelExecutionReceiptV1} {output : String}
    (h : verifyTerminalModelReceipt k invocation receipt output = .ok ()) (hstate : receipt.state = .succeeded) :
    SignedFor k invocation output receipt.usage receipt := by
  unfold verifyTerminalModelReceipt at h
  split at h
  · cases h
  rename_i identity hlookup
  split at h
  · cases h
  rename_i hverify
  split at h
  · rename_i hmatches
    unfold verifyModelReceipt at hverify
    split at hverify
    · cases hverify
    rename_i hnode
    split at hverify
    · rename_i hsignature
      simp only [receiptMatchesTranscript, Bool.and_eq_true, beq_iff_eq] at hmatches
      obtain ⟨⟨⟨⟨⟨⟨⟨⟨-, hlease⟩, hsession⟩, hrequest⟩, hnode'⟩, -⟩, -⟩, hdigest⟩, hbytes⟩ := hmatches
      exact ⟨⟨identity, hlookup, not_not.1 hnode, hsignature⟩, hnode', hlease, hsession, hrequest, hstate, hdigest, hbytes, rfl⟩
    · cases hverify
  · cases h

/-- The last frame of a session that is answered. -/
theorem signed_of_acceptTerminal {frame : ModelInvocationFrameV1} {expected : Nat} {output : String}
    {c : ModelGatewayCompletion} (hkind : frame.kind ≠ .delta) (h : acceptTerminal k invocation frame expected output = .ok c) :
    c.content = output ∧ ∃ receipt, SignedFor k invocation output c.usage receipt := by
  unfold acceptTerminal at h
  split at h
  · cases h
  split at h
  · split at h
    · cases h
    · cases h
  rename_i receipt hreceipt
  split at h
  · cases h
  rename_i hverify
  unfold concludeTranscript at h
  split at h
  · cases h
  rename_i hagree
  split at h
  · cases h
  split at h
  · cases h
  split at h
  · cases h
  rename_i hnoerror
  have hcomplete : frame.kind = .complete := by
    cases hk : frame.kind with
    | delta => exact absurd hk hkind
    | complete => rfl
    | error => exact absurd hk hnoerror
  have hstate : receipt.state = .succeeded := by
    by_contra hne
    exact hagree (Or.inl ⟨hcomplete, hne⟩)
  cases h
  exact ⟨rfl, receipt, signed_of_verify hverify hstate⟩

theorem acceptDelta_ok {disconnected : Bool} {frame : ModelInvocationFrameV1} {output output' : String}
    (h : acceptDelta k disconnected frame output = .ok output') : output' = output ++ frame.content := by
  unfold acceptDelta at h
  split at h
  · cases h
  split at h
  · cases h
  split at h
  · cases h
  cases h
  rfl

variable (k invocation)

theorem consumeModelInvocation_eq (turn expected : Nat) (output : String) (stream : List UInt8) :
    consumeModelInvocation k invocation turn expected output stream =
      match interruption invocation.lease.expiresAt (k.turn turn), nextFrame k.codec invocation.requestId stream with
      | some failure, _ => .error failure
      | none, .error e => .error (invalidWorkerStream (boundedGatewayError (k.faultText e)))
      | none, .ok (frame, rest) =>
        if frame.sequence ≠ expected then .error (invalidWorkerStream "model frame sequence is not contiguous")
        else if frame.kind = .delta then
          match acceptDelta k (k.turn turn).disconnected frame output with
          | .error e => .error e
          | .ok output => consumeModelInvocation k invocation (turn + 1) (U64.satAdd expected 1) output rest
        else acceptTerminal k invocation frame expected output := by
  rw [consumeModelInvocation]
  split
  · rename_i hinterrupted
    rw [hinterrupted]
  · rename_i hgoes
    rw [hgoes]
    split
    · rename_i hnext
      rw [hnext]
    · rename_i hnext
      -- the two texts of the inner match differ in no more than its compiled name
      rewrite [hnext]
      rfl

theorem streamModelInvocation_eq (turn expected : Nat) (output : String) (stream : List UInt8) :
    streamModelInvocation invocation k turn expected output stream =
      match interruption invocation.lease.expiresAt (k.turn turn), nextFrame k.codec invocation.requestId stream with
      | some failure, _ => ([], .error failure)
      | none, .error e => ([], .error (invalidWorkerStream (boundedGatewayError (k.faultText e))))
      | none, .ok (frame, rest) =>
        if frame.sequence ≠ expected then ([], .error (invalidWorkerStream "model frame sequence is not contiguous"))
        else if frame.kind = .delta then
          match acceptDelta k (k.turn turn).disconnected frame output with
          | .error e => ([], .error e)
          | .ok output =>
            (frame.content :: (streamModelInvocation invocation k (turn + 1) (U64.satAdd expected 1) output rest).1,
              (streamModelInvocation invocation k (turn + 1) (U64.satAdd expected 1) output rest).2)
        else ([], acceptTerminal k invocation frame expected output) := by
  rw [streamModelInvocation]
  split
  · rename_i hinterrupted
    rw [hinterrupted]
  · rename_i hgoes
    rw [hgoes]
    split
    · rename_i hnext
      rw [hnext]
    · rename_i hnext
      -- the two texts of the inner match differ in no more than its compiled name
      rewrite [hnext]
      rfl

/-- One turn of the loop: it ends the session, or accepts a delta and sends it. -/
theorem streamModelInvocation_cases (turn expected : Nat) (output : String) (stream : List UInt8) :
    (∃ result, streamModelInvocation invocation k turn expected output stream = ([], result) ∧
      consumeModelInvocation k invocation turn expected output stream = result ∧
      ∀ c, result = .ok c → c.content = output ∧ ∃ receipt, SignedFor k invocation output c.usage receipt) ∨
    ∃ content rest, rest.length < stream.length ∧
      streamModelInvocation invocation k turn expected output stream =
        (content :: (streamModelInvocation invocation k (turn + 1) (U64.satAdd expected 1) (output ++ content) rest).1,
          (streamModelInvocation invocation k (turn + 1) (U64.satAdd expected 1) (output ++ content) rest).2) ∧
      consumeModelInvocation k invocation turn expected output stream =
        consumeModelInvocation k invocation (turn + 1) (U64.satAdd expected 1) (output ++ content) rest := by
  rw [streamModelInvocation_eq, consumeModelInvocation_eq]
  cases interruption invocation.lease.expiresAt (k.turn turn) with
  | some failure => exact Or.inl ⟨_, rfl, rfl, fun c hc => by cases hc⟩
  | none =>
    rcases hnext : nextFrame k.codec invocation.requestId stream with e | ⟨frame, rest⟩
    · exact Or.inl ⟨_, rfl, rfl, fun c hc => by cases hc⟩
    dsimp only
    by_cases hsequence : frame.sequence ≠ expected
    · rw [if_pos hsequence, if_pos hsequence]
      exact Or.inl ⟨_, rfl, rfl, fun c hc => by cases hc⟩
    rw [if_neg hsequence, if_neg hsequence]
    by_cases hdelta : frame.kind = .delta
    · rw [if_pos hdelta, if_pos hdelta]
      cases haccept : acceptDelta k (k.turn turn).disconnected frame output with
      | error e => exact Or.inl ⟨_, rfl, rfl, fun c hc => by cases hc⟩
      | ok output' =>
        obtain rfl := acceptDelta_ok haccept
        exact Or.inr ⟨frame.content, rest, length_lt_of_nextFrame hnext, rfl, rfl⟩
    · rw [if_neg hdelta, if_neg hdelta]
      exact Or.inl ⟨_, rfl, rfl, fun c hc => signed_of_acceptTerminal hdelta hc⟩

/-- The channel changes nothing in what is returned. -/
theorem streamModelInvocation_snd (turn expected : Nat) (output : String) (stream : List UInt8) :
    (streamModelInvocation invocation k turn expected output stream).2 =
      consumeModelInvocation k invocation turn expected output stream := by
  induction hn : stream.length using Nat.strong_induction_on generalizing turn expected output stream with
  | h n ih =>
    rcases streamModelInvocation_cases k invocation turn expected output stream with
      ⟨result, hstream, hconsume, -⟩ | ⟨content, rest, hlt, hstream, hconsume⟩
    · rw [hstream, hconsume]
    · rw [hstream, hconsume]
      exact ih _ (hn ▸ hlt) _ _ _ _ rfl

/-- A session that is answered: the deltas that were sent make up its text, and a node has signed for that. -/
theorem streamModelInvocation_ok {turn expected : Nat} {output : String} {stream : List UInt8} {c : ModelGatewayCompletion}
    (h : (streamModelInvocation invocation k turn expected output stream).2 = .ok c) :
    c.content = receivedText output (streamModelInvocation invocation k turn expected output stream).1 ∧
      ∃ receipt, SignedFor k invocation c.content c.usage receipt := by
  induction hn : stream.length using Nat.strong_induction_on generalizing turn expected output stream with
  | h n ih =>
    rcases streamModelInvocation_cases k invocation turn expected output stream with
      ⟨result, hstream, -, hsigned⟩ | ⟨content, rest, hlt, hstream, -⟩
    · rw [hstream] at h ⊢
      obtain ⟨htext, receipt, hreceipt⟩ := hsigned c h
      exact ⟨htext, receipt, htext ▸ hreceipt⟩
    · rw [hstream] at h ⊢
      exact ih _ (hn ▸ hlt) h rfl

/-- While the client stays, streaming changes nothing in what is returned. -/
theorem consumeModelInvocation_streaming (hconnected : ∀ n, (k.turn n).disconnected = false) (a b : Bool)
    (turn expected : Nat) (output : String) (stream : List UInt8) :
    consumeModelInvocation { k with streaming := a } invocation turn expected output stream =
      consumeModelInvocation { k with streaming := b } invocation turn expected output stream := by
  induction hn : stream.length using Nat.strong_induction_on generalizing turn expected output stream with
  | h n ih =>
    rw [consumeModelInvocation_eq, consumeModelInvocation_eq { k with streaming := b }]
    dsimp only
    cases interruption invocation.lease.expiresAt (k.turn turn) with
    | some failure => rfl
    | none =>
      rcases hnext : nextFrame k.codec invocation.requestId stream with e | ⟨frame, rest⟩
      · rfl
      have hdelta : acceptDelta { k with streaming := a } (k.turn turn).disconnected frame output =
          acceptDelta { k with streaming := b } (k.turn turn).disconnected frame output := by
        unfold acceptDelta
        rw [hconnected turn]
        simp
      dsimp only
      rw [hdelta]
      split
      · rfl
      split
      · split
        · rfl
        · exact ih _ (hn ▸ length_lt_of_nextFrame hnext) _ _ _ _ rfl
      · rfl

end

/-! ## Beginnings of a stream -/

section

variable {α β : Type} {f : α → Option β} {before after received : List α} {b : β}

theorem findSome?_of_leading (hnone : ∀ a ∈ before, f a = none) (h : received <+: before) : received.findSome? f = none :=
  List.findSome?_eq_none_iff.2 fun a ha => hnone a (h.subset ha)

/-- A beginning in which something is found goes beyond what nothing is found in, and the same is found in the rest. -/
theorem beyond_of_findSome? (hnone : ∀ a ∈ before, f a = none) (h : received <+: before ++ after)
    (hsome : received.findSome? f = some b) :
    ∃ rest, received = before ++ rest ∧ rest <+: after ∧ after.findSome? f = some b := by
  rcases List.prefix_or_prefix_of_prefix h (List.prefix_append before after) with hshort | ⟨rest, rfl⟩
  · rw [findSome?_of_leading hnone hshort] at hsome
    cases hsome
  obtain ⟨tail, rfl⟩ := (List.prefix_append_right_inj before).1 h
  rw [List.findSome?_append, findSome?_of_leading hnone (List.prefix_refl _), Option.none_or] at hsome
  refine ⟨rest, rfl, List.prefix_append .., ?_⟩
  rw [List.findSome?_append, hsome]
  rfl

end

/-! ## Streams of the first API -/

section

variable {k : ModelConsumer} {invocation : ModelInvocationRequestV1} {modelId : String} {stream : List UInt8}

theorem plain_openaiSse (value : Json) : (openaiSse value).Plain :=
  ⟨List.not_mem_nil, Json.notMem_toVec value (by decide)⟩

theorem plain_openaiEvents : ∀ e ∈ openaiEvents invocation k modelId stream, e.Plain := by
  intro e he
  unfold openaiEvents at he
  simp only [List.mem_cons, List.mem_append, List.mem_map, List.not_mem_nil, or_false] at he
  rcases he with rfl | ⟨content, -, rfl⟩ | rfl | rfl
  · exact plain_openaiSse _
  · exact plain_openaiSse _
  · unfold openaiLast
    split
    · exact plain_openaiSse _
    · exact plain_openaiSse _
  · exact ⟨List.not_mem_nil, by decide⟩

/-- The deltas are all that has a text. -/
theorem filterMap_chunkContent (pieces : List String) : (pieces.map (openaiDelta invocation)).filterMap chunkContent = pieces := by
  rw [List.filterMap_map]
  refine (List.filterMap_congr fun content _ => ?_).trans List.filterMap_some
  exact chunkContent_openaiDelta invocation content

theorem chunkContent_role (modelId : String) :
    chunkContent (openaiSse (openaiChunk invocation modelId (.obj [("role", .str "assistant")]) .null)) = none := by
  unfold chunkContent
  rw [chunkChoice_openaiChunk]
  rfl

theorem chunkContent_openaiLast (result : Except ModelGatewayFailure ModelGatewayCompletion) :
    chunkContent (openaiLast invocation modelId result) = none := by
  unfold chunkContent
  cases result with
  | ok completion =>
    rw [openaiLast, chunkChoice_openaiChunk]
    rfl
  | error error =>
    rw [openaiLast, chunkChoice_openaiErrorValue]
    rfl

theorem chunkContent_done : chunkContent doneSse = none := by
  unfold chunkContent
  rw [chunkChoice_done]
  rfl

theorem chunkFinish_done : chunkFinish doneSse = none := by
  unfold chunkFinish
  rw [chunkChoice_done]
  rfl

/-- The events before the last one do not say that the answer is finished. -/
theorem chunkFinish_before (pieces : List String) : ∀ e ∈
    openaiSse (openaiChunk invocation modelId (.obj [("role", .str "assistant")]) .null) :: pieces.map (openaiDelta invocation),
      chunkFinish e = none := by
  intro e he
  rcases List.mem_cons.1 he with rfl | he
  · unfold chunkFinish
    rw [chunkChoice_openaiChunk]
    rfl
  · obtain ⟨content, -, rfl⟩ := List.mem_map.1 he
    exact chunkFinish_openaiDelta invocation content

theorem chunkFinish_openaiLast (result : Except ModelGatewayFailure ModelGatewayCompletion) :
    chunkFinish (openaiLast invocation modelId result) = result.toOption.map (·.finishReason) := by
  unfold chunkFinish
  cases result with
  | ok completion =>
    rw [openaiLast, chunkChoice_openaiChunk]
    rfl
  | error error =>
    rw [openaiLast, chunkChoice_openaiErrorValue]
    rfl

theorem openaiFinish_last (result : Except ModelGatewayFailure ModelGatewayCompletion) :
    openaiFinish [openaiLast invocation modelId result, doneSse] = result.toOption.map (·.finishReason) := by
  unfold openaiFinish
  rw [List.findSome?_cons, chunkFinish_openaiLast]
  cases result with
  | ok completion => rfl
  | error error =>
    show List.findSome? chunkFinish [doneSse] = none
    rw [List.findSome?_cons, chunkFinish_done]
    rfl

/-- The text of the deltas and what follows of the stream. -/
theorem openaiText_append {pieces : List String} {result : Except ModelGatewayFailure ModelGatewayCompletion}
    {rest : List Sse.Event} (hrest : rest <+: [openaiLast invocation modelId result, doneSse]) :
    openaiText ((openaiSse (openaiChunk invocation modelId (.obj [("role", .str "assistant")]) .null) ::
      pieces.map (openaiDelta invocation)) ++ rest) = receivedText "" pieces := by
  have hlast : rest.filterMap chunkContent = [] := by
    refine List.filterMap_eq_nil_iff.2 fun e he => ?_
    have hmem := hrest.subset he
    simp only [List.mem_cons, List.not_mem_nil, or_false] at hmem
    rcases hmem with rfl | rfl
    · exact chunkContent_openaiLast result
    · exact chunkContent_done
  unfold openaiText
  rw [List.filterMap_append, List.filterMap_cons_none (chunkContent_role modelId), filterMap_chunkContent, hlast,
    List.append_nil]

/-- A stream in which the client finds a reason is the stream of an answer, received up to its last chunk. -/
theorem openai_finished {received : List Sse.Event} {reason : String} (h : received <+: openaiEvents invocation k modelId stream)
    (hreason : openaiFinish received = some reason) :
    ∃ c, (streamModelInvocation invocation { k with streaming := true } 0 0 "" stream).2 = .ok c ∧ reason = c.finishReason ∧
      openaiText received = c.content := by
  unfold openaiEvents at h
  dsimp only at h
  generalize hrun : streamModelInvocation invocation { k with streaming := true } 0 0 "" stream = run at h
  obtain ⟨pieces, result⟩ := run
  rw [← List.cons_append] at h
  obtain ⟨rest, rfl, hrest, hlast⟩ := beyond_of_findSome? (chunkFinish_before pieces) h hreason
  have htext := @openaiText_append invocation modelId pieces result rest hrest
  have hresult := (openaiFinish_last result).symm.trans hlast
  cases result with
  | error e => cases hresult
  | ok c =>
    have hsnd : (streamModelInvocation invocation { k with streaming := true } 0 0 "" stream).2 = .ok c := by rw [hrun]
    refine ⟨c, rfl, (Option.some.inj hresult).symm, ?_⟩
    rw [htext, (streamModelInvocation_ok _ invocation hsnd).1, hrun]

end

/-! ## Streams of the second API -/

section

variable {k : ModelConsumer} {invocation : ModelInvocationRequestV1} {modelId : String} {stream : List UInt8}

theorem plain_anthropicSse {event : String} (h : (10 : UInt8) ∉ utf8 event) (value : Json) : (anthropicSse event value).Plain :=
  ⟨h, Json.notMem_toVec value (by decide)⟩

theorem plain_anthropicLast (result : Except ModelGatewayFailure ModelGatewayCompletion) :
    ∀ e ∈ anthropicLast result, e.Plain := by
  intro e he
  unfold anthropicLast at he
  split at he
  · split at he
    · simp only [List.mem_cons, List.not_mem_nil, or_false] at he
      rcases he with rfl | rfl | rfl
      · exact plain_anthropicSse (by decide) _
      · exact plain_anthropicSse (by decide) _
      · exact plain_anthropicSse (by decide) _
    · rw [List.mem_singleton.1 he]
      exact plain_anthropicSse (by decide) _
  · rw [List.mem_singleton.1 he]
    exact plain_anthropicSse (by decide) _

theorem plain_anthropicEvents : ∀ e ∈ anthropicEvents invocation k modelId stream, e.Plain := by
  intro e he
  unfold anthropicEvents at he
  simp only [List.mem_cons, List.mem_append, List.mem_map] at he
  rcases he with rfl | rfl | ⟨content, -, rfl⟩ | he
  · exact plain_anthropicSse (by decide) _
  · exact plain_anthropicSse (by decide) _
  · exact plain_anthropicSse (by decide) _
  · exact plain_anthropicLast _ e he

theorem filterMap_deltaContent (pieces : List String) : (pieces.map anthropicDelta).filterMap deltaContent = pieces := by
  rw [List.filterMap_map]
  refine (List.filterMap_congr fun content _ => ?_).trans List.filterMap_some
  exact deltaContent_anthropicDelta content

theorem filterMap_anthropicLast (result : Except ModelGatewayFailure ModelGatewayCompletion) :
    (anthropicLast result).filterMap deltaContent = [] := by
  refine List.filterMap_eq_nil_iff.2 fun e he => ?_
  unfold anthropicLast at he
  split at he
  · split at he
    · simp only [List.mem_cons, List.not_mem_nil, or_false] at he
      rcases he with rfl | rfl | rfl
      · exact deltaContent_of_ne (by decide) _
      · exact deltaContent_of_ne (by decide) _
      · exact deltaContent_of_ne (by decide) _
    · rw [List.mem_singleton.1 he]
      exact deltaContent_of_ne (by decide) _
  · rw [List.mem_singleton.1 he]
    exact deltaContent_of_ne (by decide) _

/-- The events of the text do not end it. -/
theorem messageEnd_before (pieces : List String) :
    ∀ e ∈ messageStart invocation modelId :: contentBlockStart :: pieces.map anthropicDelta, messageEnd e = none := by
  intro e he
  simp only [List.mem_cons, List.mem_map] at he
  rcases he with rfl | rfl | ⟨content, -, rfl⟩
  · exact messageEnd_of_ne (by decide) _
  · exact messageEnd_of_ne (by decide) _
  · exact messageEnd_of_ne (by decide) _

/-- The text of the deltas and what follows of the stream. -/
theorem anthropicText_append {pieces : List String} {rest : List Sse.Event}
    {result : Except ModelGatewayFailure ModelGatewayCompletion} (hrest : rest <+: anthropicLast result) :
    anthropicText ((messageStart invocation modelId :: contentBlockStart :: pieces.map anthropicDelta) ++ rest) =
      receivedText "" pieces := by
  have hlast : rest.filterMap deltaContent = [] := by
    have hprefix := hrest.filterMap deltaContent
    rwa [filterMap_anthropicLast, List.prefix_nil] at hprefix
  have hstart : deltaContent (messageStart invocation modelId) = none := deltaContent_of_ne (by decide) _
  have hblock : deltaContent contentBlockStart = none := deltaContent_of_ne (by decide) _
  unfold anthropicText
  rw [List.filterMap_append, List.filterMap_cons_none hstart, List.filterMap_cons_none hblock, filterMap_deltaContent, hlast,
    List.append_nil]

/-- The last events of an answer end the message with its usage; those of a failure, or without a usage, do not. -/
theorem anthropicEnd_anthropicLast (result : Except ModelGatewayFailure ModelGatewayCompletion) :
    anthropicEnd (anthropicLast result) =
      result.toOption.bind fun c => c.usage.map fun usage => (anthropicStopReason c.finishReason, usage) := by
  have herror : ∀ value, messageEnd (anthropicSse "error" value) = none := messageEnd_of_ne (by decide)
  have hstop : messageEnd contentBlockStop = none := messageEnd_of_ne (by decide) _
  unfold anthropicEnd
  cases result with
  | ok c =>
    obtain ⟨content, reason, usage⟩ := c
    cases usage with
    | none =>
      rw [anthropicLast, List.findSome?_cons, herror]
      rfl
    | some usage =>
      rw [anthropicLast, List.findSome?_cons, hstop]
      dsimp only
      rw [List.findSome?_cons, messageEnd_messageDelta]
      rfl
  | error e =>
    rw [anthropicLast, List.findSome?_cons, herror]
    rfl

/-- A stream in which the client finds the end of the message is the stream of an answer, received up to its end. -/
theorem anthropic_finished {received : List Sse.Event} {ending : String × ModelUsageV1}
    (h : received <+: anthropicEvents invocation k modelId stream) (hend : anthropicEnd received = some ending) :
    ∃ c, (streamModelInvocation invocation { k with streaming := true } 0 0 "" stream).2 = .ok c ∧
      ending.1 = anthropicStopReason c.finishReason ∧ c.usage = some ending.2 ∧ anthropicText received = c.content := by
  unfold anthropicEvents at h
  dsimp only at h
  generalize hrun : streamModelInvocation invocation { k with streaming := true } 0 0 "" stream = run at h
  obtain ⟨pieces, result⟩ := run
  rw [← List.cons_append, ← List.cons_append] at h
  obtain ⟨rest, rfl, hrest, hlast⟩ := beyond_of_findSome? (messageEnd_before pieces) h hend
  have htext := @anthropicText_append invocation modelId pieces rest result hrest
  have hwhole := (anthropicEnd_anthropicLast result).symm.trans hlast
  cases result with
  | error e => cases hwhole
  | ok c =>
    have hsnd : (streamModelInvocation invocation { k with streaming := true } 0 0 "" stream).2 = .ok c := by rw [hrun]
    obtain ⟨usage, husage, rfl⟩ := Option.map_eq_some_iff.1 hwhole
    refine ⟨c, rfl, rfl, husage, ?_⟩
    rw [htext, (streamModelInvocation_ok _ invocation hsnd).1, hrun]

end

/-! ## What is finished is signed -/

section

variable (g : ModelGateway) (d : ModelDraws) (k : ModelConsumer) (s : AppState) (worker : List UInt8 → List UInt8)

/-- The text of one JSON value is no event. -/
theorem read_jsonBody {value : Json} {received : List UInt8} (h : received <+: value.toVec) : Sse.read received = [] :=
  Sse.feed_of_notMem fun hmem => Json.notMem_toVec value (by decide) (h.subset hmem)

/-- A receipt does not depend on whether the answer is streamed. -/
theorem SignedFor.of_streaming {k : ModelConsumer} {invocation : ModelInvocationRequestV1} {text : String}
    {usage : Option ModelUsageV1} {receipt : ModelExecutionReceiptV1} {streaming : Bool}
    (h : SignedFor { k with streaming := streaming } invocation text usage receipt) : SignedFor k invocation text usage receipt :=
  ⟨h.verified, h.node, h.lease, h.session, h.request, h.succeeded, h.digest, h.bytes, h.usage⟩

/-- **What is finished is signed.** Of the response to any request a client may receive a beginning, cut at any byte. If
there it is told that the answer is finished, an enrolled node has signed, in the session of this request, for the very text
that the client has received. -/
theorem openai_stream_is_signed (payload : Except String OpenAiChatCompletionRequest) (received : List UInt8)
    (hreceived : received <+: (openaiChatCompletions g d k s worker payload).body) (reason : String)
    (hfinish : openaiFinish (Sse.read received) = some reason) :
    ∃ request maxOutputTokens invocation sent receipt, payload = .ok request ∧
      validateOpenaiRequest request = .ok maxOutputTokens ∧
      startModelInvocation g d s request maxOutputTokens = .ok (invocation, sent) ∧
      SignedFor k invocation (openaiText (Sse.read received)) receipt.usage receipt := by
  have hjson : ∀ value : Json, ¬ received <+: value.toVec := by
    intro value hvalue
    rw [read_jsonBody hvalue] at hfinish
    cases hfinish
  unfold openaiChatCompletions at hreceived
  split at hreceived
  · exact absurd hreceived (hjson _)
  rename_i request
  split at hreceived
  · exact absurd hreceived (hjson _)
  rename_i maxOutputTokens hvalid
  split at hreceived
  · exact absurd hreceived (hjson _)
  rename_i invocation sent hstart
  unfold openaiAnswer at hreceived
  dsimp only at hreceived
  split at hreceived
  · obtain ⟨c, hc, -, htext⟩ := openai_finished (Sse.read_cut plain_openaiEvents hreceived) hfinish
    obtain ⟨-, receipt, hreceipt⟩ := streamModelInvocation_ok _ _ hc
    refine ⟨request, maxOutputTokens, invocation, sent, receipt, rfl, hvalid, hstart, ?_⟩
    rw [htext, hreceipt.usage]
    exact hreceipt.of_streaming
  split at hreceived
  · exact absurd hreceived (hjson _)
  · exact absurd hreceived (hjson _)

/-- The same holds of the second API, where the client is told the usage too, as it was signed. -/
theorem anthropic_stream_is_signed (payload : Except String AnthropicMessagesRequest) (received : List UInt8)
    (hreceived : received <+: (anthropicMessages g d k s worker payload).body) (reason : String) (usage : ModelUsageV1)
    (hend : anthropicEnd (Sse.read received) = some (reason, usage)) :
    ∃ request translated maxOutputTokens invocation sent receipt, payload = .ok request ∧
      translateAnthropicRequest request = .ok translated ∧ validateOpenaiRequest translated = .ok maxOutputTokens ∧
      startModelInvocation g d s translated maxOutputTokens = .ok (invocation, sent) ∧
      SignedFor k invocation (anthropicText (Sse.read received)) (some usage) receipt := by
  have hjson : ∀ value : Json, ¬ received <+: value.toVec := by
    intro value hvalue
    rw [read_jsonBody hvalue] at hend
    cases hend
  unfold anthropicMessages at hreceived
  split at hreceived
  · exact absurd hreceived (hjson _)
  rename_i request
  split at hreceived
  · exact absurd hreceived (hjson _)
  rename_i translated htranslated
  split at hreceived
  · exact absurd hreceived (hjson _)
  rename_i maxOutputTokens hvalid
  split at hreceived
  · exact absurd hreceived (hjson _)
  rename_i invocation sent hstart
  unfold anthropicAnswer at hreceived
  dsimp only at hreceived
  split at hreceived
  · obtain ⟨c, hc, -, husage, htext⟩ := anthropic_finished (Sse.read_cut plain_anthropicEvents hreceived) hend
    obtain ⟨-, receipt, hreceipt⟩ := streamModelInvocation_ok _ _ hc
    refine ⟨request, translated, maxOutputTokens, invocation, sent, receipt, rfl, htranslated, hvalid, hstart, ?_⟩
    rw [htext, ← husage]
    exact hreceipt.of_streaming
  split at hreceived
  · split at hreceived
    · exact absurd hreceived (hjson _)
    · exact absurd hreceived (hjson _)
  · exact absurd hreceived (hjson _)

end

/-! ## What the client is told in the end -/

/-- The kind, the code and the message of an error of the first API. -/
def openaiErrorOf? (v : Json) : Option (String × String × String) :=
  (v.get? "error").bind fun error =>
    match (error.get? "type").bind Json.asStr, (error.get? "code").bind Json.asStr, (error.get? "message").bind Json.asStr with
    | some kind, some code, some message => some (kind, code, message)
    | _, _, _ => none

/-- The error an OpenAI stream ends with: message, type and code. -/
noncomputable def chunkError (e : Sse.Event) : Option (String × String × String) :=
  if e = doneSse then none else (ofVec? e.data).bind openaiErrorOf?

/-- By a stream: the text and the reason why it ends, or an error. -/
noncomputable def openaiTold (es : List Sse.Event) : Option (Except (String × String × String) (String × String)) :=
  match openaiFinish es with
  | some reason => some (.ok (openaiText es, reason))
  | none => (es.findSome? chunkError).map .error

/-- By a whole answer. -/
noncomputable def openaiToldWhole (body : List UInt8) : Option (Except (String × String × String) (String × String)) :=
  (ofVec? body).bind fun v =>
    match openaiErrorOf? v with
    | some error => some (.error error)
    | none =>
      ((v.get? "choices").bind firstItem?).bind fun choice =>
        match ((choice.get? "message").bind (Json.get? "content")).bind Json.asStr, (choice.get? "finish_reason").bind Json.asStr with
        | some content, some reason => some (.ok (content, reason))
        | _, _ => none

/-- The kind and the message of an error of the second API. -/
def anthropicErrorOf? (v : Json) : Option (String × String) :=
  (v.get? "error").bind fun error =>
    match (error.get? "type").bind Json.asStr, (error.get? "message").bind Json.asStr with
    | some kind, some message => some (kind, message)
    | _, _ => none

/-- The error an Anthropic stream ends with: message and type. -/
noncomputable def eventError (e : Sse.Event) : Option (String × String) :=
  if e.event = utf8 "error" then (ofVec? e.data).bind anthropicErrorOf? else none

/-- By a stream: the text, the reason why it ends and its usage, or an error. -/
noncomputable def anthropicTold (es : List Sse.Event) : Option (Except (String × String) (String × String × ModelUsageV1)) :=
  match anthropicEnd es with
  | some (reason, usage) => some (.ok (anthropicText es, reason, usage))
  | none => (es.findSome? eventError).map .error

/-- By a whole answer. -/
noncomputable def anthropicToldWhole (body : List UInt8) :
    Option (Except (String × String) (String × String × ModelUsageV1)) :=
  (ofVec? body).bind fun v =>
    match anthropicErrorOf? v with
    | some error => some (.error error)
    | none =>
      match (((v.get? "content").bind firstItem?).bind (Json.get? "text")).bind Json.asStr, (v.get? "stop_reason").bind Json.asStr,
        (v.get? "usage").bind usageOf? with
      | some text, some reason, some usage => some (.ok (text, reason, usage))
      | _, _, _ => none

section

variable {k : ModelConsumer} {invocation : ModelInvocationRequestV1} {modelId : String} {stream : List UInt8}

/-- What a session amounts to, for a client of the first API. -/
def openaiOutcome (bound : String → String) (result : Except ModelGatewayFailure ModelGatewayCompletion) :
    Except (String × String × String) (String × String) :=
  match result with
  | .ok c => .ok (c.content, c.finishReason)
  | .error e => .error (e.kind, e.code, bound e.message)

theorem openaiToldWhole_answer (result : Except ModelGatewayFailure ModelGatewayCompletion)
    (h : consumeModelInvocation { k with streaming := false } invocation 0 0 "" stream = result) :
    openaiToldWhole (openaiAnswer invocation k modelId false stream).body =
      some (openaiOutcome boundedGatewayError result) := by
  unfold openaiAnswer openaiToldWhole
  dsimp only
  rw [if_neg Bool.false_ne_true, h]
  cases result with
  | ok c =>
    obtain ⟨content, reason, usage⟩ := c
    simp only [Response.withHeader, jsonResponse, ofVec?_toVec, Option.bind_some]
    cases usage with
    | none => rfl
    | some usage => rfl
  | error e =>
    simp only [gatewayFailureResponse, openaiError, jsonResponse, ofVec?_toVec, Option.bind_some]
    rfl

theorem chunkError_openaiChunk (modelId : String) (delta finishReason : Json) :
    chunkError (openaiSse (openaiChunk invocation modelId delta finishReason)) = none := by
  have hne : openaiSse (openaiChunk invocation modelId delta finishReason) ≠ doneSse := openaiSse_ne_done _ _
  unfold chunkError
  rw [if_neg hne, openaiSse, ofVec?_toVec]
  rfl

theorem openaiTold_answer (result : Except ModelGatewayFailure ModelGatewayCompletion)
    (h : consumeModelInvocation { k with streaming := true } invocation 0 0 "" stream = result) :
    openaiTold (Sse.read (openaiAnswer invocation k modelId true stream).body) = some (openaiOutcome id result) := by
  have hread : Sse.read (openaiAnswer invocation k modelId true stream).body = openaiEvents invocation k modelId stream := by
    unfold openaiAnswer eventResponse
    dsimp only
    rw [if_pos rfl]
    exact Sse.read_encode plain_openaiEvents
  have hsnd := (streamModelInvocation_snd { k with streaming := true } invocation 0 0 "" stream).trans h
  have htext := fun c => @streamModelInvocation_ok { k with streaming := true } invocation 0 0 "" stream c
  rw [hread, openaiEvents]
  generalize streamModelInvocation invocation { k with streaming := true } 0 0 "" stream = run at hsnd htext ⊢
  obtain ⟨pieces, answer⟩ := run
  obtain rfl : answer = result := hsnd
  rw [← List.cons_append]
  -- only the last chunk has a reason to finish
  have hfinish : openaiFinish ((openaiSse (openaiChunk invocation modelId (.obj [("role", .str "assistant")]) .null) ::
      pieces.map (openaiDelta invocation)) ++ [openaiLast invocation modelId answer, doneSse]) =
      answer.toOption.map (·.finishReason) := by
    rw [openaiFinish, List.findSome?_append, findSome?_of_leading (chunkFinish_before pieces) (List.prefix_refl _),
      Option.none_or]
    exact openaiFinish_last answer
  unfold openaiTold
  rw [hfinish, openaiText_append (List.prefix_refl _)]
  cases answer with
  | ok c =>
    have hcontent : c.content = receivedText "" pieces := (htext c rfl).1
    show some (Except.ok (receivedText "" pieces, c.finishReason)) = _
    rw [← hcontent]
    rfl
  | error e =>
    -- the chunks of text carry no error, so the last event decides
    have hbefore : ∀ e ∈ openaiSse (openaiChunk invocation modelId (.obj [("role", .str "assistant")]) .null) ::
        pieces.map (openaiDelta invocation), chunkError e = none := by
      intro e he
      rcases List.mem_cons.1 he with rfl | he
      · exact chunkError_openaiChunk _ _ _
      · obtain ⟨content, -, rfl⟩ := List.mem_map.1 he
        exact chunkError_openaiChunk _ _ _
    have hlast : chunkError (openaiLast invocation modelId (.error e)) = some (e.kind, e.code, e.message) := by
      have hne : openaiSse (openaiErrorValue e.message e.kind none e.code) ≠ doneSse := openaiSse_ne_done _ _
      rw [openaiLast, chunkError, if_neg hne, openaiSse, ofVec?_toVec]
      rfl
    show Option.map _ (List.findSome? _ _) = _
    rw [List.findSome?_append, findSome?_of_leading hbefore (List.prefix_refl _), Option.none_or, List.findSome?_cons, hlast]
    rfl

/-- What a session amounts to, for a client of the second API. -/
def anthropicOutcome (result : Except ModelGatewayFailure ModelGatewayCompletion) :
    Except (String × String) (String × String × ModelUsageV1) :=
  match result with
  | .ok c =>
    match c.usage with
    | some usage => .ok (c.content, anthropicStopReason c.finishReason, usage)
    | none => .error ("api_error", missingUsage)
  | .error e => .error (anthropicFailureKind e.status, boundedGatewayError e.message)

theorem anthropicToldWhole_answer (result : Except ModelGatewayFailure ModelGatewayCompletion)
    (h : consumeModelInvocation { k with streaming := false } invocation 0 0 "" stream = result) :
    anthropicToldWhole (anthropicAnswer invocation k modelId false stream).body = some (anthropicOutcome result) := by
  unfold anthropicAnswer anthropicToldWhole
  dsimp only
  rw [if_neg Bool.false_ne_true, h]
  cases result with
  | ok c =>
    obtain ⟨content, reason, usage⟩ := c
    cases usage with
    | none =>
      simp only [anthropicError, jsonResponse, ofVec?_toVec, Option.bind_some]
      rfl
    | some usage =>
      have husage : (anthropicMessage invocation modelId ⟨content, reason, some usage⟩ usage).get? "usage" =
          some (anthropicUsage usage.promptTokens usage.completionTokens) := rfl
      simp only [Response.withHeader, jsonResponse, ofVec?_toVec, Option.bind_some, husage, usageOf?_anthropicUsage]
      rfl
  | error e =>
    simp only [anthropicGatewayFailureResponse, anthropicError, jsonResponse, ofVec?_toVec, Option.bind_some]
    rfl

theorem eventError_of_ne {event : String} (h : event ≠ "error") (value : Json) : eventError (anthropicSse event value) = none :=
  if_neg (utf8_ne h)

theorem eventError_error (message kind : String) :
    eventError (anthropicSse "error" (anthropicErrorValue message kind)) = some (kind, message) := by
  unfold eventError anthropicSse
  rw [if_pos rfl, ofVec?_toVec]
  rfl

theorem anthropicTold_answer (result : Except ModelGatewayFailure ModelGatewayCompletion)
    (h : consumeModelInvocation { k with streaming := true } invocation 0 0 "" stream = result) :
    anthropicTold (Sse.read (anthropicAnswer invocation k modelId true stream).body) = some (anthropicOutcome result) := by
  have hread : Sse.read (anthropicAnswer invocation k modelId true stream).body =
      anthropicEvents invocation k modelId stream := by
    unfold anthropicAnswer eventResponse
    dsimp only
    rw [if_pos rfl]
    exact Sse.read_encode plain_anthropicEvents
  have hsnd := (streamModelInvocation_snd { k with streaming := true } invocation 0 0 "" stream).trans h
  have htext := fun c => @streamModelInvocation_ok { k with streaming := true } invocation 0 0 "" stream c
  rw [hread, anthropicEvents]
  generalize streamModelInvocation invocation { k with streaming := true } 0 0 "" stream = run at hsnd htext ⊢
  obtain ⟨pieces, answer⟩ := run
  obtain rfl : answer = result := hsnd
  rw [← List.cons_append, ← List.cons_append]
  -- nothing before the last events tells of an end or an error
  have hbefore : ∀ e ∈ messageStart invocation modelId :: contentBlockStart :: pieces.map anthropicDelta,
      eventError e = none := by
    intro e he
    simp only [List.mem_cons, List.mem_map] at he
    rcases he with rfl | rfl | ⟨content, -, rfl⟩
    · exact eventError_of_ne (by decide) _
    · exact eventError_of_ne (by decide) _
    · exact eventError_of_ne (by decide) _
  have hend : anthropicEnd ((messageStart invocation modelId :: contentBlockStart :: pieces.map anthropicDelta) ++
      anthropicLast answer) =
      answer.toOption.bind fun c => c.usage.map fun usage => (anthropicStopReason c.finishReason, usage) := by
    rw [← anthropicEnd_anthropicLast, anthropicEnd, List.findSome?_append,
      findSome?_of_leading (messageEnd_before pieces) (List.prefix_refl _), Option.none_or]
    rfl
  have herror : ((messageStart invocation modelId :: contentBlockStart :: pieces.map anthropicDelta) ++
      anthropicLast answer).findSome? eventError = (anthropicLast answer).findSome? eventError := by
    rw [List.findSome?_append, findSome?_of_leading hbefore (List.prefix_refl _), Option.none_or]
  unfold anthropicTold
  rw [hend, herror, anthropicText_append (List.prefix_refl _)]
  cases answer with
  | ok c =>
    obtain ⟨content, reason, usage⟩ := c
    have hcontent : content = receivedText "" pieces := (htext _ rfl).1
    cases usage with
    | none =>
      show Option.map _ (List.findSome? _ [_]) = _
      rw [List.findSome?_cons, eventError_error]
      rfl
    | some usage =>
      rw [← hcontent]
      rfl
  | error e =>
    show Option.map _ (List.findSome? _ [_]) = _
    rw [List.findSome?_cons, eventError_error]
    rfl

end

/-- **Streamed and whole answers agree.** On one session with a client that stays, the client of a streamed answer is told
what the client of a whole answer is told: the text and the reason why it ends, or the error, and in the second API the
usage as well, which a stream of the first does not carry. The messages of errors alone are cut in the first API, of whole
answers only. -/
theorem answers_agree (k : ModelConsumer) (invocation : ModelInvocationRequestV1) (modelId : String) (stream : List UInt8)
    (hconnected : ∀ n, (k.turn n).disconnected = false) :
    (∃ told, openaiTold (Sse.read (openaiAnswer invocation k modelId true stream).body) = some told ∧
      openaiToldWhole (openaiAnswer invocation k modelId false stream).body =
        some (told.mapError fun e => (e.1, e.2.1, boundedGatewayError e.2.2))) ∧
    ∃ told, anthropicTold (Sse.read (anthropicAnswer invocation k modelId true stream).body) = some told ∧
      anthropicToldWhole (anthropicAnswer invocation k modelId false stream).body = some told := by
  have hsame := consumeModelInvocation_streaming k invocation hconnected false true 0 0 "" stream
  refine ⟨⟨_, openaiTold_answer _ rfl, ?_⟩, _, anthropicTold_answer _ rfl, anthropicToldWhole_answer _ hsame⟩
  rw [openaiToldWhole_answer _ hsame]
  cases consumeModelInvocation { k with streaming := true } invocation 0 0 "" stream with
  | ok c => rfl
  | error e => rfl

/-- A client that is told an answer has been told its end. -/
theorem finished_of_openaiTold {es : List Sse.Event} {text reason : String} (h : openaiTold es = some (.ok (text, reason))) :
    openaiFinish es = some reason ∧ openaiText es = text := by
  unfold openaiTold at h
  split at h
  · rename_i found hfound
    cases h
    exact ⟨hfound, rfl⟩
  · obtain ⟨e, -, he⟩ := Option.map_eq_some_iff.1 h
    cases he

theorem ended_of_anthropicTold {es : List Sse.Event} {text reason : String} {usage : ModelUsageV1}
    (h : anthropicTold es = some (.ok (text, reason, usage))) :
    anthropicEnd es = some (reason, usage) ∧ anthropicText es = text := by
  unfold anthropicTold at h
  split at h
  · rename_i found usage' hfound
    cases h
    exact ⟨hfound, rfl⟩
  · obtain ⟨e, -, he⟩ := Option.map_eq_some_iff.1 h
    cases he

/-! ## A session that is answered -/

section

variable {g : ModelGateway} {d : ModelDraws} {k : ModelConsumer} {s : AppState} {worker : List UInt8 → List UInt8}
  {maxOutputTokens : Nat} {invocation : ModelInvocationRequestV1} {sent : List UInt8} {c : ModelGatewayCompletion}

/-- The client of a streamed chat that is answered finds the text and the reason. -/
theorem finished_of_consumed {request : OpenAiChatCompletionRequest} (hstream : request.stream = true)
    (hvalid : validateOpenaiRequest request = .ok maxOutputTokens)
    (hstart : startModelInvocation g d s request maxOutputTokens = .ok (invocation, sent))
    (hconsume : consumeModelInvocation { k with streaming := true } invocation 0 0 "" (worker sent) = .ok c) :
    openaiFinish (Sse.read (openaiChatCompletions g d k s worker (.ok request)).body) = some c.finishReason ∧
      openaiText (Sse.read (openaiChatCompletions g d k s worker (.ok request)).body) = c.content := by
  have hresponse : openaiChatCompletions g d k s worker (.ok request) =
      openaiAnswer invocation k request.model true (worker sent) := by
    unfold openaiChatCompletions
    dsimp only
    rw [hvalid]
    dsimp only
    rw [hstart]
    dsimp only
    rw [hstream]
  have htold := @openaiTold_answer k invocation request.model (worker sent) _ hconsume
  rw [hresponse]
  exact finished_of_openaiTold htold

/-- The client of a streamed message that is answered finds the text, the reason and the usage. -/
theorem ended_of_consumed {request : AnthropicMessagesRequest} {translated : OpenAiChatCompletionRequest} {usage : ModelUsageV1}
    (hstream : request.stream = true) (htranslated : translateAnthropicRequest request = .ok translated)
    (hvalid : validateOpenaiRequest translated = .ok maxOutputTokens)
    (hstart : startModelInvocation g d s translated maxOutputTokens = .ok (invocation, sent))
    (hconsume : consumeModelInvocation { k with streaming := true } invocation 0 0 "" (worker sent) = .ok c)
    (husage : c.usage = some usage) :
    anthropicEnd (Sse.read (anthropicMessages g d k s worker (.ok request)).body) =
      some (anthropicStopReason c.finishReason, usage) ∧
      anthropicText (Sse.read (anthropicMessages g d k s worker (.ok request)).body) = c.content := by
  have hresponse : anthropicMessages g d k s worker (.ok request) =
      anthropicAnswer invocation k request.model true (worker sent) := by
    unfold anthropicMessages
    dsimp only
    rw [htranslated]
    dsimp only
    rw [hvalid]
    dsimp only
    rw [hstart]
    dsimp only
    rw [hstream]
  have htold := @anthropicTold_answer k invocation request.model (worker sent) _ hconsume
  have houtcome : anthropicOutcome (.ok c) = .ok (c.content, anthropicStopReason c.finishReason, usage) := by
    unfold anthropicOutcome
    dsimp only
    rw [husage]
  rw [houtcome] at htold
  rw [hresponse]
  exact ended_of_anthropicTold htold

end

/-! ## A short chat -/

namespace Scenario

/-- The example's request, as a stream. -/
def streamedChat : OpenAiChatCompletionRequest := { chatRequest "hello" with stream := true }

/-- The same chat in the second API: two blocks and a limit. -/
def streamedMessage : AnthropicMessagesRequest where
  model := "llama3"
  maxTokens := 512
  messages := [⟨"user", .blocks [⟨"text", "hel"⟩, ⟨"text", "lo"⟩]⟩]
  system := none
  stream := true
  temperature := none
  topP := none

/-- What the worker gets for it. -/
def streamedInvocation : ModelInvocationRequestV1 := { chatInvocation "hello" with stream := true }

/-- What the worker has to report. -/
def greeting : Except String OllamaCompletion := .ok ⟨"stop", some ⟨1, 1⟩⟩

/-- The worker after its first text. -/
def greetedStream : ModelStream := ModelStream.start.sent (answering "hello" fun _ => none) streamedInvocation ["hello"]

/-- The frame the worker ends with. -/
def greetedLast : ModelInvocationFrameV1 :=
  terminalFrame (answering "hello" fun _ => none) streamedInvocation serveDraws greeting greetedStream

/-- The stream of a worker that answers the chat with "hello". -/
def greeted : List UInt8 := greetedStream.written ++ headerBytes (greetedLast.toJson sessionTexts)

/-- The reader of the two frames. -/
def readGreeted (b : List UInt8) : Option ModelInvocationFrameV1 :=
  if b = ((deltaFrame streamedInvocation 0 "hello").toJson sessionTexts).toVec then
    some (deltaFrame streamedInvocation 0 "hello")
  else if b = (greetedLast.toJson sessionTexts).toVec then some greetedLast
  else none

/-- A controller that can read what this worker sends. -/
def greeter : ModelConsumer := { consumer with codec := (answering "hello" readGreeted).codec }

theorem readsFrame_greeted : ∀ f ∈ greetedStream.produced ++ [greetedLast],
    (answering "hello" readGreeted).codec.ReadsFrame f := by
  have hdelta : ((deltaFrame streamedInvocation 0 "hello").toJson sessionTexts).size = 144 := by
    rw [size_deltaFrame]
    decide
  have hlast : 350 ≤ (greetedLast.toJson sessionTexts).size := by
    have hreceipt : greetedLast.receipt.isSome = true := rfl
    obtain ⟨receipt, hreceipt⟩ := Option.isSome_iff_exists.1 hreceipt
    have hsize := ModelExecutionReceiptV1.size_toJson sessionTexts receipt
    rw [ModelInvocationFrameV1.size_toJson, hreceipt, receiptLen]
    omega
  intro f hf
  show readGreeted (f.toJson sessionTexts).toVec = some f
  unfold readGreeted
  rcases List.mem_cons.1 hf with rfl | hf
  · exact if_pos rfl
  · rw [List.mem_singleton.1 hf, if_neg, if_pos rfl]
    intro hsame
    have hsize : (greetedLast.toJson sessionTexts).size = ((deltaFrame streamedInvocation 0 "hello").toJson sessionTexts).size :=
      congrArg List.length hsame
    omega

/-- The controller accepts both frames. -/
theorem consume_greeted (streaming : Bool) :
    consumeModelInvocation { greeter with streaming := streaming } streamedInvocation 0 0 "" greeted =
      .ok ⟨"hello", "stop", some ⟨1, 1⟩⟩ := by
  have hserves : Serves { greeter with streaming := streaming } (answering "hello" readGreeted) 77 := by
    have henrolled : consumer.nodes.lookup 77 = some identity := by decide
    refine ⟨rfl, rfl, identity, henrolled, rfl, fun receipt _ => ?_⟩
    show (identity.publicKey == identity.publicKey &&
      Hex.encode (List.replicate 64 0) == Hex.encode (List.replicate 64 0)) = true
    rw [beq_self_eq_true, beq_self_eq_true]
    rfl
  have hcalm : Undisturbed { greeter with streaming := streaming } streamedInvocation.lease.expiresAt :=
    ⟨fun _ => (by decide : 0 ≤ streamedInvocation.lease.expiresAt), fun _ => rfl, fun _ => rfl, rfl⟩
  have hshort : ∀ c, greeting = .ok c → c.Short := by
    intro c hc
    cases hc
    exact ⟨by decide, by decide, by decide⟩
  have hsize : (greetedLast.toJson (answering "hello" readGreeted).codec.toModelTexts).size ≤ maxArtifactHeaderBytes :=
    size_terminalFrame (by unfold ShortTimes; decide) (by decide) (by decide) hshort
  have hstream : greetedStream = ModelStream.start.sent (answering "hello" readGreeted) streamedInvocation ["hello"] := by
    unfold greetedStream ModelStream.sent
    rfl
  have hlast : greetedLast =
      terminalFrame (answering "hello" readGreeted) streamedInvocation serveDraws greeting greetedStream := by
    unfold greetedLast terminalFrame
    rfl
  have htext : "hello" = receivedText "" ["hello"] := by decide
  have hfit : deltasFit 0 ["hello"] = true := by decide
  have houtput : greetedStream.output.length ≤ maxModelOutputBytes := by decide
  have hconsumed := @consume_sent { greeter with streaming := streaming } (answering "hello" readGreeted) streamedInvocation
    serveDraws greeting greetedStream hserves hcalm (le_refl _) hshort ["hello"] "hello" greetedLast htext hstream hlast hfit
    houtput hsize readsFrame_greeted
  have htexts : (answering "hello" readGreeted).codec.toModelTexts = sessionTexts := rfl
  rw [htexts] at hconsumed
  unfold greeted
  rw [hconsumed]
  rfl

theorem start_streamedChat : ∃ sent,
    startModelInvocation (gateway greeter.codec) modelDraws serving streamedChat 512 = .ok (streamedInvocation, sent) := by
  have haccepted : streamedChat.Accepted 512 := accepted_of_validate (by decide)
  have hcatalog : liveModelCatalog modelDraws.order serving modelDraws.catalogTime streamedChat.model = some [servingCandidate] :=
    serving_catalog
  have hlease : modelSessionLease (gateway greeter.codec) modelDraws serving.fencingEpoch servingCandidate streamedChat 512 =
      .ok (chatLease "hello") := @modelSessionLease_chat greeter.codec "hello" (accepted_of_validate (by decide))
  have hvalid : (modelInvocation modelDraws (chatLease "hello") streamedChat 512).isValidFor servingCandidate.offer.nodeId
      (gateway greeter.codec).endpointId = true := isValidFor_modelInvocation haccepted hlease
  have hfits : (streamedInvocation.toJson greeter.codec.toModelTexts).size ≤ maxArtifactHeaderBytes := by
    refine (le_of_eq (size_modelInvocation haccepted hlease)).trans ?_
    decide +kernel
  obtain ⟨sent, hsent⟩ := (@invokeModel_isOk_iff greeter.codec streamedInvocation rfl).2 hfits
  have hsent' : invokeModel (gateway greeter.codec).codec (modelInvocation modelDraws (chatLease "hello") streamedChat 512) =
    .ok sent := hsent
  refine ⟨sent, ?_⟩
  unfold startModelInvocation
  rw [if_neg (by decide), hcatalog]
  show invokeCandidate (gateway greeter.codec) modelDraws serving.fencingEpoch servingCandidate streamedChat 512 = _
  unfold invokeCandidate
  rw [hlease]
  dsimp only
  rw [hvalid, hsent']
  rfl

theorem translate_streamedMessage :
    translateAnthropicRequest streamedMessage = .ok { streamedChat with maxCompletionTokens := some 512 } := by
  decide

/-- The limit is an argument of its own. -/
theorem start_maxCompletionTokens (g : ModelGateway) (d : ModelDraws) (s : AppState) (r : OpenAiChatCompletionRequest)
    (limit : Option Nat) (n : Nat) :
    startModelInvocation g d s { r with maxCompletionTokens := limit } n = startModelInvocation g d s r n := rfl

end Scenario

open Scenario in
/-- The client of the chat is told that it is finished. -/
theorem openai_stream_is_signed_hello : ∃ receipt, SignedFor greeter streamedInvocation "hello" receipt.usage receipt := by
  obtain ⟨sent, hstart⟩ := start_streamedChat
  have hvalid : validateOpenaiRequest streamedChat = .ok 512 := by decide
  obtain ⟨hfinish, htext⟩ := @finished_of_consumed (gateway greeter.codec) modelDraws greeter serving (fun _ => greeted) 512
    streamedInvocation sent _ streamedChat rfl hvalid hstart (consume_greeted true)
  obtain ⟨request, maxOutputTokens, invocation, sent', receipt, hrequest, hvalid', hstart', hsigned⟩ :=
    openai_stream_is_signed (gateway greeter.codec) modelDraws greeter serving (fun _ => greeted) (.ok streamedChat) _
      (List.prefix_refl _) _ hfinish
  obtain rfl := Except.ok.inj hrequest
  obtain rfl := Except.ok.inj (hvalid.symm.trans hvalid')
  obtain ⟨rfl, rfl⟩ := Prod.mk.inj (Except.ok.inj (hstart.symm.trans hstart'))
  rw [htext] at hsigned
  exact ⟨receipt, hsigned⟩

open Scenario in
/-- The same chat in the second API, with its usage. -/
theorem anthropic_stream_is_signed_hello : ∃ receipt, SignedFor greeter streamedInvocation "hello" (some ⟨1, 1⟩) receipt := by
  obtain ⟨sent, hstart⟩ := start_streamedChat
  rw [← start_maxCompletionTokens _ _ _ _ (some 512)] at hstart
  have hvalid : validateOpenaiRequest { streamedChat with maxCompletionTokens := some 512 } = .ok 512 := by decide
  obtain ⟨hend, htext⟩ := @ended_of_consumed (gateway greeter.codec) modelDraws greeter serving (fun _ => greeted) 512
    streamedInvocation sent _ streamedMessage _ ⟨1, 1⟩ rfl translate_streamedMessage hvalid hstart (consume_greeted true) rfl
  obtain ⟨request, translated, maxOutputTokens, invocation, sent', receipt, hrequest, htranslated, hvalid', hstart', hsigned⟩ :=
    anthropic_stream_is_signed (gateway greeter.codec) modelDraws greeter serving (fun _ => greeted) (.ok streamedMessage) _
      (List.prefix_refl _) _ _ hend
  obtain rfl := Except.ok.inj hrequest
  obtain rfl := Except.ok.inj (translate_streamedMessage.symm.trans htranslated)
  obtain rfl := Except.ok.inj (hvalid.symm.trans hvalid')
  obtain ⟨rfl, rfl⟩ := Prod.mk.inj (Except.ok.inj (hstart.symm.trans hstart'))
  rw [htext] at hsigned
  exact ⟨receipt, hsigned⟩

open Scenario in
theorem answers_agree_hello :
    ∃ told, anthropicTold (Sse.read (anthropicAnswer streamedInvocation greeter "llama3" true greeted).body) = some told ∧
      anthropicToldWhole (anthropicAnswer streamedInvocation greeter "llama3" false greeted).body = some told :=
  (answers_agree greeter streamedInvocation "llama3" greeted fun _ => rfl).2

end Rampage.Controller
