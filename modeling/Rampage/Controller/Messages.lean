/-
Which requests of the second API reach a model, and with which messages. `translate_anthropic_request` and
`validate_openai_request` check a request in turn, the one its contents and the other what the first made of them; together
they accept exactly the sound requests (`anthropic_accepted_iff`), and the worker is sent their texts, the blocks of each
content joined.
-/
import Rampage.Controller.Answers

namespace Rampage.Controller

open Rampage.Protocol

/-! ## Sound requests -/

/-- The text of a content: that of its blocks, one after the other. -/
def AnthropicContent.joined : AnthropicContent → String
  | .text s => s
  | .blocks bs => String.join (bs.map fun block => block.text)

/-- Text, in one piece or in blocks that all have some. -/
def AnthropicContent.Sound : AnthropicContent → Prop
  | .text s => s ≠ ""
  | .blocks bs => bs ≠ [] ∧ ∀ block ∈ bs, block.type = "text" ∧ block.text ≠ ""

/-- The messages of a request, the system's first. -/
def AnthropicMessagesRequest.chat (r : AnthropicMessagesRequest) : List OpenAiChatMessage :=
  (r.system.toList.map fun content => ⟨"system", content.joined⟩) ++ r.messages.map fun m => ⟨m.role, m.content.joined⟩

/-- The bytes of the roles and the texts. -/
def AnthropicMessagesRequest.chatBytes (r : AnthropicMessagesRequest) : Nat :=
  (r.chat.map fun m => m.role.utf8ByteSize + m.content.utf8ByteSize).sum

/-- What a request has to be for the gateway to take it on. -/
structure AnthropicMessagesRequest.Sound (r : AnthropicMessagesRequest) : Prop where
  model : trimIsEmpty r.model = false ∧ r.model.utf8ByteSize ≤ 200 ∧ isAscii r.model = true
  roles : ∀ m ∈ r.messages, m.role = "user" ∨ m.role = "assistant"
  contents : ∀ m ∈ r.messages, m.content.Sound
  system : ∀ content ∈ r.system, content.Sound
  some_message : r.system.isSome ∨ r.messages ≠ []
  few_messages : r.system.toList.length + r.messages.length ≤ 256
  prompt : r.chatBytes ≤ maxModelPromptBytes
  output : 0 < r.maxTokens ∧ r.maxTokens ≤ maxModelOutputTokens
  floats : F32.fits F32.two r.temperature = true ∧ F32.fits F32.one r.topP = true

/-! ## The translation -/

theorem joined_ne_empty {content : AnthropicContent} (h : content.Sound) : content.joined ≠ "" := by
  cases content with
  | text text => exact h
  | blocks blocks =>
    obtain ⟨hne, hall⟩ := h
    obtain ⟨block, rest, rfl⟩ := List.exists_cons_of_ne_nil hne
    intro hempty
    have hjoin : String.join ((block :: rest).map (·.text)) = block.text ++ String.join (rest.map (·.text)) := by
      rw [List.map_cons, String.join_cons]
    have hnil := (String.append_eq_empty_iff.1 (hjoin.symm.trans hempty)).1
    exact (hall block (List.mem_cons_self ..)).2 hnil

theorem anthropicContentText_ok_iff {content : AnthropicContent} {text : String} :
    anthropicContentText content = .ok text ↔ content.Sound ∧ text = content.joined := by
  have hcheck : ∀ s : String, (if s = "" then Except.error (invalidModelRequest "Anthropic message content must not be empty")
      else Except.ok s) = Except.ok text ↔ s ≠ "" ∧ text = s := by
    intro s
    split
    · rename_i hs
      exact ⟨fun h => (by cases h), fun h => absurd hs h.1⟩
    · rename_i hs
      exact ⟨fun h => ⟨hs, (Except.ok.inj h).symm⟩, fun h => (by rw [h.2])⟩
  unfold anthropicContentText
  cases content with
  | text s => exact hcheck s
  | blocks blocks =>
    have hblocks : (blocks = [] ∨ blocks.any (fun block => block.type != "text" || block.text == "") = true) ↔
        ¬ (AnthropicContent.blocks blocks).Sound := by
      simp only [AnthropicContent.Sound, not_and_or, not_not, not_forall, List.any_eq_true, Bool.or_eq_true, bne_iff_ne,
        beq_iff_eq, exists_prop]
    dsimp only
    by_cases hsound : (AnthropicContent.blocks blocks).Sound
    · rw [if_neg (mt hblocks.1 (not_not.2 hsound))]
      refine (hcheck _).trans ⟨fun h => ⟨hsound, h.2⟩, fun h => ⟨joined_ne_empty hsound, h.2⟩⟩
    · rw [if_pos (hblocks.2 hsound)]
      exact ⟨fun h => (by cases h), fun h => absurd h.1 hsound⟩

theorem translateMessages_ok_iff : ∀ {messages : List AnthropicMessage} {chat : List OpenAiChatMessage},
    translateMessages messages = .ok chat ↔
      (∀ m ∈ messages, (m.role = "user" ∨ m.role = "assistant") ∧ m.content.Sound) ∧
        chat = messages.map fun m => ⟨m.role, m.content.joined⟩
  | [], chat => by
    simp [translateMessages, eq_comm]
  | m :: messages, chat => by
    rw [translateMessages, List.forall_mem_cons, List.map_cons]
    by_cases hrole : m.role = "user" ∨ m.role = "assistant"
    · rw [if_neg (not_not.2 hrole)]
      cases htext : anthropicContentText m.content with
      | error e =>
        refine ⟨fun h => (by cases h), fun h => ?_⟩
        rw [anthropicContentText_ok_iff.2 ⟨h.1.1.2, rfl⟩] at htext
        cases htext
      | ok text =>
        obtain ⟨hsound, rfl⟩ := anthropicContentText_ok_iff.1 htext
        dsimp only
        cases hrest : translateMessages messages with
        | error e =>
          refine ⟨fun h => (by cases h), fun h => ?_⟩
          rw [translateMessages_ok_iff.2 ⟨h.1.2, rfl⟩] at hrest
          cases hrest
        | ok rest =>
          obtain ⟨hall, rfl⟩ := translateMessages_ok_iff.1 hrest
          exact ⟨fun h => (by cases h; exact ⟨⟨⟨hrole, hsound⟩, hall⟩, rfl⟩), fun h => by rw [h.2]⟩
    · rw [if_pos hrole]
      exact ⟨fun h => (by cases h), fun h => absurd h.1.1.1 hrole⟩

theorem translateSystem_ok_iff {system : Option AnthropicContent} {chat : List OpenAiChatMessage} :
    translateSystem system = .ok chat ↔
      (∀ content ∈ system, content.Sound) ∧ chat = system.toList.map fun content => ⟨"system", content.joined⟩ := by
  cases system with
  | none => simp [translateSystem, eq_comm]
  | some content =>
    unfold translateSystem
    dsimp only
    cases htext : anthropicContentText content with
    | error e =>
      refine ⟨fun h => (by cases h), fun h => ?_⟩
      rw [anthropicContentText_ok_iff.2 ⟨h.1 content rfl, rfl⟩] at htext
      cases htext
    | ok s =>
      obtain ⟨hs, rfl⟩ := anthropicContentText_ok_iff.1 htext
      exact ⟨fun h => ⟨fun c hc => Option.some.inj hc ▸ hs, (Except.ok.inj h).symm⟩, fun h => (by rw [h.2]; rfl)⟩

/-- What a request is translated to. -/
def AnthropicMessagesRequest.translated (r : AnthropicMessagesRequest) : OpenAiChatCompletionRequest where
  model := r.model
  messages := r.chat
  stream := r.stream
  maxTokens := none
  maxCompletionTokens := some r.maxTokens
  temperature := r.temperature
  topP := r.topP

theorem translateAnthropicRequest_ok_iff {r : AnthropicMessagesRequest} {t : OpenAiChatCompletionRequest} :
    translateAnthropicRequest r = .ok t ↔
      (r.maxTokens ≠ 0 ∧ (∀ content ∈ r.system, content.Sound) ∧
        ∀ m ∈ r.messages, (m.role = "user" ∨ m.role = "assistant") ∧ m.content.Sound) ∧ t = r.translated := by
  unfold translateAnthropicRequest
  by_cases hmax : r.maxTokens = 0
  · rw [if_pos hmax]
    exact ⟨fun h => (by cases h), fun h => absurd hmax h.1.1⟩
  rw [if_neg hmax]
  cases hsystem : translateSystem r.system with
  | error e =>
    refine ⟨fun h => (by cases h), fun h => ?_⟩
    rw [translateSystem_ok_iff.2 ⟨h.1.2.1, rfl⟩] at hsystem
    cases hsystem
  | ok chat =>
    obtain ⟨hsound, rfl⟩ := translateSystem_ok_iff.1 hsystem
    dsimp only
    cases hmessages : translateMessages r.messages with
    | error e =>
      refine ⟨fun h => (by cases h), fun h => ?_⟩
      rw [translateMessages_ok_iff.2 ⟨h.1.2.2, rfl⟩] at hmessages
      cases hmessages
    | ok messages =>
      obtain ⟨hall, rfl⟩ := translateMessages_ok_iff.1 hmessages
      exact ⟨fun h => ⟨⟨hmax, hsound, hall⟩, (Except.ok.inj h).symm⟩, fun h => (by rw [h.2]; rfl)⟩

/-! ## Acceptance -/

/-- A prompt is counted exactly as long as it is within the limit. -/
theorem promptBytes_translated (r : AnthropicMessagesRequest) : r.translated.promptBytes = min r.chatBytes U64.max := by
  have hfold : ∀ (messages : List OpenAiChatMessage) (n : Nat),
      messages.foldl (fun total m => U64.satAdd (U64.satAdd total m.role.utf8ByteSize) m.content.utf8ByteSize) (min n U64.max) =
        min (n + (messages.map fun m => m.role.utf8ByteSize + m.content.utf8ByteSize).sum) U64.max := by
    intro messages
    induction messages with
    | nil => exact fun n => rfl
    | cons m messages ih =>
      intro n
      have hstep : U64.satAdd (U64.satAdd (min n U64.max) m.role.utf8ByteSize) m.content.utf8ByteSize =
          min (n + (m.role.utf8ByteSize + m.content.utf8ByteSize)) U64.max := by
        show min (min (min n U64.max + _) U64.max + _) U64.max = _
        omega
      rw [List.foldl_cons, hstep, ih, List.map_cons, List.sum_cons, Nat.add_assoc]
  have hzero := hfold r.chat 0
  rw [Nat.zero_add] at hzero
  exact hzero

theorem mem_chat {r : AnthropicMessagesRequest} {m : OpenAiChatMessage} (h : m ∈ r.chat) :
    (∃ content ∈ r.system, m = ⟨"system", content.joined⟩) ∨ ∃ source ∈ r.messages, m = ⟨source.role, source.content.joined⟩ := by
  rcases List.mem_append.1 h with h | h
  · obtain ⟨content, hcontent, rfl⟩ := List.mem_map.1 h
    exact Or.inl ⟨content, Option.mem_toList.1 hcontent, rfl⟩
  · obtain ⟨source, hsource, rfl⟩ := List.mem_map.1 h
    exact Or.inr ⟨source, hsource, rfl⟩

/-- The limit of an accepted request is the one it names, or the default. -/
theorem limit_of_validate {r : OpenAiChatCompletionRequest} {maxOutputTokens : Nat}
    (h : validateOpenaiRequest r = .ok maxOutputTokens) : maxOutputTokens = (r.maxCompletionTokens.or r.maxTokens).getD 512 := by
  unfold validateOpenaiRequest at h
  dsimp only at h
  split at h
  · cases h
  split at h
  · cases h
  split at h
  · cases h
  split at h
  · cases h
  split at h
  · cases h
  split at h
  · cases h
  split at h
  · cases h
  · exact (Except.ok.inj h).symm

/-- Of a request that could be translated, the rest of the checks. -/
theorem validate_translated_iff {r : AnthropicMessagesRequest} {maxOutputTokens : Nat}
    (hsystem : ∀ content ∈ r.system, content.Sound)
    (hmessages : ∀ m ∈ r.messages, (m.role = "user" ∨ m.role = "assistant") ∧ m.content.Sound) :
    validateOpenaiRequest r.translated = .ok maxOutputTokens ↔ r.Sound ∧ maxOutputTokens = r.maxTokens := by
  -- the translation makes texts and roles that pass
  have htexts : r.translated.messages.any (fun m =>
      !(m.role == "system" || m.role == "user" || m.role == "assistant") || m.content == "") = false := by
    refine List.any_eq_false.2 fun m hm => ?_
    rcases mem_chat hm with ⟨content, hcontent, rfl⟩ | ⟨source, hsource, rfl⟩
    · simpa using joined_ne_empty (hsystem content hcontent)
    · have hne := joined_ne_empty (hmessages source hsource).2
      rcases (hmessages source hsource).1 with hrole | hrole
      · simp [hrole, hne]
      · simp [hrole, hne]
  -- the sum of the bytes saturates, above the bound
  have hprompt : maxModelPromptBytes < r.translated.promptBytes ↔ ¬ r.chatBytes ≤ maxModelPromptBytes := by
    have hbound : maxModelPromptBytes < U64.max := by decide
    rw [promptBytes_translated]
    omega
  have hcount : r.translated.messages.length = r.system.toList.length + r.messages.length := by
    show r.chat.length = _
    rw [AnthropicMessagesRequest.chat, List.length_append, List.length_map, List.length_map]
  have hnone : r.translated.messages = [] ↔ ¬ (r.system.isSome ∨ r.messages ≠ []) := by
    rw [← List.length_eq_zero_iff, hcount]
    cases r.system with
    | none => simp
    | some content => simp
  have hlimit : (r.translated.maxCompletionTokens.or r.translated.maxTokens).getD 512 = r.maxTokens := rfl
  constructor
  · intro h
    have haccepted := accepted_of_validate h
    have hmax : maxOutputTokens = r.maxTokens := limit_of_validate h
    have hmodel : ¬ (trimIsEmpty r.translated.model ∨ 200 < r.translated.model.utf8ByteSize ∨
        isAscii r.translated.model = false) := by
      intro hbad
      unfold validateOpenaiRequest at h
      dsimp only at h
      rw [if_pos hbad] at h
      cases h
    simp only [not_or, not_lt, Bool.not_eq_true, Bool.not_eq_false] at hmodel
    have hfew := haccepted.few_messages
    rw [hcount] at hfew
    refine ⟨⟨hmodel, fun m hm => (hmessages m hm).1, fun m hm => (hmessages m hm).2, hsystem, ?_, hfew, ?_,
      hmax ▸ ⟨haccepted.output_pos, haccepted.output_le⟩, haccepted.temperature, haccepted.topP⟩, hmax⟩
    · by_contra hno
      exact haccepted.some_message (hnone.2 hno)
    · by_contra hno
      exact absurd haccepted.prompt (not_le.2 (hprompt.2 hno))
  · rintro ⟨hsound, rfl⟩
    have hmodel : ¬ (trimIsEmpty r.translated.model ∨ 200 < r.translated.model.utf8ByteSize ∨
        isAscii r.translated.model = false) := by
      have hm := hsound.model
      show ¬ (trimIsEmpty r.model ∨ 200 < r.model.utf8ByteSize ∨ isAscii r.model = false)
      simp [hm.1, hm.2.1, hm.2.2]
    have hcounted : ¬ (r.translated.messages = [] ∨ 256 < r.translated.messages.length) := by
      rw [hcount, not_or]
      exact ⟨mt hnone.1 (not_not.2 hsound.some_message), not_lt.2 hsound.few_messages⟩
    have hfloats : ¬ (F32.fits F32.two r.translated.temperature = false ∨ F32.fits F32.one r.translated.topP = false) := by
      show ¬ (F32.fits F32.two r.temperature = false ∨ F32.fits F32.one r.topP = false)
      simp [hsound.floats.1, hsound.floats.2]
    have houtput : ¬ (r.maxTokens = 0 ∨ maxModelOutputTokens < r.maxTokens) := by
      have := hsound.output
      omega
    unfold validateOpenaiRequest
    dsimp only
    rw [hlimit, if_neg hmodel, if_neg hcounted, htexts, if_neg Bool.false_ne_true,
      if_neg (mt hprompt.1 (not_not.2 hsound.prompt)), if_neg (by simp [AnthropicMessagesRequest.translated]), if_neg houtput,
      if_neg hfloats]

/-- **Exactly the sound requests are accepted**, and what a model is asked is their text: the system's first, and of each
message the text of its blocks. -/
theorem anthropic_accepted_iff (r : AnthropicMessagesRequest) (t : OpenAiChatCompletionRequest) (maxOutputTokens : Nat) :
    (translateAnthropicRequest r = .ok t ∧ validateOpenaiRequest t = .ok maxOutputTokens) ↔
      r.Sound ∧ t = r.translated ∧ maxOutputTokens = r.maxTokens := by
  constructor
  · rintro ⟨htranslate, hvalid⟩
    obtain ⟨⟨-, hsystem, hmessages⟩, rfl⟩ := translateAnthropicRequest_ok_iff.1 htranslate
    obtain ⟨hsound, hmax⟩ := (validate_translated_iff hsystem hmessages).1 hvalid
    exact ⟨hsound, rfl, hmax⟩
  · rintro ⟨hsound, rfl, rfl⟩
    have hmessages : ∀ m ∈ r.messages, (m.role = "user" ∨ m.role = "assistant") ∧ m.content.Sound :=
      fun m hm => ⟨hsound.roles m hm, hsound.contents m hm⟩
    exact ⟨translateAnthropicRequest_ok_iff.2 ⟨⟨Nat.pos_iff_ne_zero.1 hsound.output.1, hsound.system, hmessages⟩, rfl⟩,
      (validate_translated_iff hsound.system hmessages).2 ⟨hsound, rfl⟩⟩

end Rampage.Controller
