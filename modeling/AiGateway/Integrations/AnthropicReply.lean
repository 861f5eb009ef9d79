import AiGateway.Integrations.AnthropicStream
import AiGateway.Providers.AnthropicTurns

/- The Anthropic facade's JSON answer, `mapGatewayResponseToAnthropicFormat`, and a client that
   puts the blocks of a stream together to an answer of the same shape.

   The stream learns of the thinking only with `done`, when the text has been sent, so its
   thinking block stands behind the text; in JSON it stands before it.

   `anthropic_stream_agrees`: the two answers are the same but for that. -/
namespace AiGateway.Facade

open Json (Value)

/-- A block of `content`. -/
inductive AnthropicContent where
  | thinking (thinking : String)
  | text (text : String)
  | toolUse (id name : String) (input : Value)

/-- `AnthropicMessagesResponseDto`; `stop_sequence` is `null` and the role `assistant`. -/
structure AnthropicReply where
  id : String
  content : List AnthropicContent
  model : String
  stopReason : AnthropicStopReason
  usage : AnthropicUsage

/-! ## JSON -/

def mapGatewayToolCallsToAnthropic (toolCalls : List GatewayToolCall) : List AnthropicContent :=
  toolCalls.map fun toolCall =>
    let arguments := if toolCall.arguments = "" then "\x7b\x7d" else toolCall.arguments
    .toolUse toolCall.id toolCall.name (parseJsonObject arguments (.obj []))

def thinkingContents (result : ChatResponseDto) : List AnthropicContent :=
  ((JsString.truthy result.thinkingContent).map .thinking).toList

def textContents (result : ChatResponseDto) : List AnthropicContent :=
  if result.text ≠ "" then [.text result.text] else []

def mapGatewayResponseToAnthropicFormat (result : ChatResponseDto) (requestedModel : String) : AnthropicReply where
  id := toAnthropicMessageId result.id
  content := thinkingContents result ++ (textContents result ++ mapGatewayToolCallsToAnthropic result.toolCalls)
  model := requestedModel
  stopReason := mapGatewayFinishReasonToAnthropicStopReason result.finishReason
  usage := mapGatewayUsageToAnthropic result.usage result.usageDetails

/-! ## A client of the stream -/

/-- The events after `message_start`; `blocks` are the blocks begun so far, the last one first. A
block must have the next index, and what belongs to a block the index of the last one. -/
def readBlocks (blocks : List SentBlock) :
    List AnthropicEvent → Option (List SentBlock × AnthropicStopReason × AnthropicUsage)
  | .blockStart index start :: events =>
    if index = blocks.length then readBlocks (⟨start, []⟩ :: blocks) events else none
  | .blockDelta index delta :: events =>
    match blocks with
    | [] => none
    | block :: earlier =>
      if index = earlier.length then readBlocks ({ block with deltas := block.deltas ++ [delta] } :: earlier) events
      else none
  | .blockStop index :: events => if index + 1 = blocks.length then readBlocks blocks events else none
  | [.messageDelta stopReason usage, .messageStop] => some (blocks.reverse, stopReason, usage)
  | _ => none

def readStreamed : List AnthropicEvent → Option StreamedMessage
  | .messageStart id model :: events =>
    (readBlocks [] events).map fun (blocks, stopReason, usage) => ⟨id, model, blocks, stopReason, usage⟩
  | _ => none

/-- The parts of a block put together; the input of a call is JSON. -/
def SentBlock.content (block : SentBlock) : Option AnthropicContent :=
  match block.start with
  | .text => some (.text (joinText block.texts))
  | .thinking => some (.thinking (joinText block.thinkings))
  | .toolUse id name => (Json.parse (joinText block.inputs)).map (.toolUse id name)

def StreamedMessage.reply (m : StreamedMessage) : Option AnthropicReply :=
  (m.blocks.mapM SentBlock.content).map fun content => ⟨m.id, content, m.model, m.stopReason, m.usage⟩

def readAnthropicStream (text : String) : Option AnthropicReply :=
  ((decodeStream text).bind readStreamed).bind StreamedMessage.reply

/-! ## What is sent is read -/

theorem readBlocks_deltas (earlier : List SentBlock) (start : BlockStart) (sent deltas : List BlockDelta)
    (rest : List AnthropicEvent) :
    readBlocks (⟨start, sent⟩ :: earlier)
        (deltas.map (.blockDelta earlier.length) ++ (.blockStop earlier.length :: rest)) =
      readBlocks (⟨start, sent ++ deltas⟩ :: earlier) rest := by
  induction deltas generalizing sent with
  | nil => simp [readBlocks]
  | cons delta deltas ih =>
    calc readBlocks (⟨start, sent⟩ :: earlier)
          ((delta :: deltas).map (.blockDelta earlier.length) ++ (.blockStop earlier.length :: rest))
        = readBlocks (⟨start, sent ++ [delta]⟩ :: earlier)
            (deltas.map (.blockDelta earlier.length) ++ (.blockStop earlier.length :: rest)) := by
          simp [readBlocks]
      _ = readBlocks (⟨start, sent ++ delta :: deltas⟩ :: earlier) rest := by
          rw [ih, List.append_assoc]
          rfl

theorem readBlocks_block (earlier : List SentBlock) (block : SentBlock) (rest : List AnthropicEvent) :
    readBlocks earlier (blockEvents earlier.length block ++ rest) = readBlocks (block :: earlier) rest := by
  calc readBlocks earlier (blockEvents earlier.length block ++ rest)
      = readBlocks (⟨block.start, []⟩ :: earlier)
          (block.deltas.map (.blockDelta earlier.length) ++ (.blockStop earlier.length :: rest)) := by
        simp [blockEvents, readBlocks]
    _ = readBlocks (block :: earlier) rest := readBlocks_deltas earlier block.start [] block.deltas rest

theorem readBlocks_blocks (earlier blocks : List SentBlock) (rest : List AnthropicEvent) :
    readBlocks earlier (blocksFrom earlier.length blocks ++ rest) = readBlocks (blocks.reverse ++ earlier) rest := by
  induction blocks generalizing earlier with
  | nil => rfl
  | cons block blocks ih =>
    calc readBlocks earlier (blocksFrom earlier.length (block :: blocks) ++ rest)
        = readBlocks earlier (blockEvents earlier.length block ++
            (blocksFrom (block :: earlier).length blocks ++ rest)) := by
          rw [blocksFrom, List.append_assoc, List.length_cons]
      _ = readBlocks (block :: earlier) (blocksFrom (block :: earlier).length blocks ++ rest) :=
          readBlocks_block earlier block _
      _ = readBlocks ((block :: blocks).reverse ++ earlier) rest := by
          rw [ih, List.reverse_cons, List.append_assoc]
          rfl

theorem readStreamed_events (m : StreamedMessage) : readStreamed m.events = some m := by
  have hblocks : readBlocks [] (blocksFrom 0 m.blocks ++ [.messageDelta m.stopReason m.usage, .messageStop]) =
      some (m.blocks, m.stopReason, m.usage) := by
    have hread := readBlocks_blocks [] m.blocks [.messageDelta m.stopReason m.usage, .messageStop]
    rw [List.length_nil] at hread
    rw [hread]
    simp [readBlocks]
  simp only [StreamedMessage.events, readStreamed, hblocks, Option.map_some]

/-! ## Stream and JSON -/

/-- The arguments of every call are an object. -/
def ObjectArguments (result : ChatResponseDto) : Prop :=
  ∀ toolCall ∈ result.toolCalls, ∃ members, Json.parse toolCall.arguments = some (.obj members)

theorem content_textBlocks {result : ChatResponseDto} {deltas : List String} (hsplit : joinText deltas = result.text)
    (hnonempty : ∀ delta ∈ deltas, delta ≠ "") :
    (textBlocks deltas).mapM SentBlock.content = some (textContents result) := by
  have hempty := joinText_eq_empty_iff_nil hnonempty
  rw [hsplit] at hempty
  cases deltas with
  | nil => simp [textBlocks, textContents, hempty]
  | cons delta deltas =>
    have htext : result.text ≠ "" := by simp [hempty]
    have hcontent : SentBlock.content ⟨.text, (delta :: deltas).map .text⟩ = some (.text result.text) := by
      show some (AnthropicContent.text (joinText (((delta :: deltas).map BlockDelta.text).filterMap
        BlockDelta.text?))) = _
      rw [texts_map, hsplit]
    simp only [textBlocks, textContents, List.isEmpty_cons, Bool.false_eq_true, if_false, if_pos htext,
      List.mapM_cons, List.mapM_nil, hcontent]
    rfl

theorem content_thinkingBlocks (result : ChatResponseDto) :
    (thinkingBlocks result.thinkingContent).mapM SentBlock.content = some (thinkingContents result) := by
  unfold thinkingBlocks thinkingContents
  cases JsString.truthy result.thinkingContent with
  | none => rfl
  | some thinking => simp [SentBlock.content, SentBlock.thinkings, BlockDelta.thinking?, joinText]

theorem content_toolBlock {toolCall : GatewayToolCall} {members : List (String × Value)}
    (h : Json.parse toolCall.arguments = some (.obj members)) :
    (toolBlock toolCall).content = some (.toolUse toolCall.id toolCall.name (.obj members)) := by
  simp [SentBlock.content, toolBlock, SentBlock.inputs, BlockDelta.inputJson?, joinText, h]

/-- Arguments that are an object are not empty, and read as that object. -/
theorem mapToolCall_object {toolCall : GatewayToolCall} {members : List (String × Value)}
    (h : Json.parse toolCall.arguments = some (.obj members)) :
    mapGatewayToolCallsToAnthropic [toolCall] = [.toolUse toolCall.id toolCall.name (.obj members)] := by
  have hne : toolCall.arguments ≠ "" := by
    intro hempty
    have hnone : Json.parse "" = none := by decide
    rw [hempty, hnone] at h
    cases h
  simp [mapGatewayToolCallsToAnthropic, hne, parseJsonObject, h]

theorem content_toolBlocks {toolCalls : List GatewayToolCall}
    (h : ∀ toolCall ∈ toolCalls, ∃ members, Json.parse toolCall.arguments = some (.obj members)) :
    (toolCalls.map toolBlock).mapM SentBlock.content = some (mapGatewayToolCallsToAnthropic toolCalls) := by
  induction toolCalls with
  | nil => rfl
  | cons toolCall toolCalls ih =>
    obtain ⟨members, hmembers⟩ := h toolCall List.mem_cons_self
    have hrest := ih fun call hcall => h call (List.mem_cons_of_mem toolCall hcall)
    have hhead := mapToolCall_object hmembers
    have hcons : mapGatewayToolCallsToAnthropic (toolCall :: toolCalls) =
        mapGatewayToolCallsToAnthropic [toolCall] ++ mapGatewayToolCallsToAnthropic toolCalls := rfl
    rw [List.map_cons, List.mapM_cons, content_toolBlock hmembers, hrest, hcons, hhead]
    rfl

/-- The answer that the client of a stream puts together. -/
def streamedReply (result : ChatResponseDto) (requestedModel : String) : AnthropicReply :=
  { mapGatewayResponseToAnthropicFormat result requestedModel with
    content := textContents result ++ (thinkingContents result ++ mapGatewayToolCallsToAnthropic result.toolCalls) }

theorem mapM_append_some {α β : Type} {f : α → Option β} {xs ys : List α} {us vs : List β}
    (hx : xs.mapM f = some us) (hy : ys.mapM f = some vs) : (xs ++ ys).mapM f = some (us ++ vs) := by
  rw [List.mapM_append, hx, hy]
  rfl

theorem readAnthropicStream_events {result : ChatResponseDto} {deltas : List String} (requestedModel : String)
    (harguments : ObjectArguments result) (hsplit : joinText deltas = result.text)
    (hnonempty : ∀ delta ∈ deltas, delta ≠ "") :
    readAnthropicStream (String.join (anthropicStreamLines requestedModel (result.events deltas))) =
      some (streamedReply result requestedModel) := by
  have hblocks : (streamedMessage requestedModel result.id deltas result.doneEvent).blocks.mapM SentBlock.content =
      some (streamedReply result requestedModel).content :=
    mapM_append_some (content_textBlocks hsplit hnonempty)
      (mapM_append_some (content_thinkingBlocks result) (content_toolBlocks harguments))
  unfold readAnthropicStream anthropicStreamLines ChatResponseDto.events
  rw [decodeStream_render, emit_stream, Option.bind_some, readStreamed_events, Option.bind_some,
    StreamedMessage.reply, hblocks]
  rfl

/-- For every result whose calls have objects for arguments, and every cut of its text: the stream
gives the JSON answer with the thinking moved behind the text, so the very same answer where there
is no thinking or no text. -/
theorem anthropic_stream_agrees (result : ChatResponseDto) (deltas : List String) (requestedModel : String)
    (harguments : ObjectArguments result) (hsplit : joinText deltas = result.text)
    (hnonempty : ∀ delta ∈ deltas, delta ≠ "") :
    let reply := mapGatewayResponseToAnthropicFormat result requestedModel
    let streamed := readAnthropicStream (String.join (anthropicStreamLines requestedModel (result.events deltas)))
    (∃ thinking text tools, reply.content = thinking ++ (text ++ tools) ∧
      (∀ block ∈ thinking, ∃ t, block = .thinking t) ∧ (∀ block ∈ text, ∃ t, block = .text t) ∧
      (∀ block ∈ tools, ∃ id name input, block = .toolUse id name input) ∧
      streamed = some { reply with content := text ++ (thinking ++ tools) }) ∧
    (JsString.truthy result.thinkingContent = none ∨ result.text = "" → streamed = some reply) := by
  intro reply streamed
  have hstreamed : streamed = some (streamedReply result requestedModel) :=
    readAnthropicStream_events requestedModel harguments hsplit hnonempty
  -- The stream has opened its text block before the thinking is known, which comes with the done event.
  refine ⟨⟨thinkingContents result, textContents result, mapGatewayToolCallsToAnthropic result.toolCalls, rfl,
    ?_, ?_, ?_, hstreamed⟩, ?_⟩
  · intro block hblock
    obtain ⟨thinking, -, rfl⟩ := Option.map_eq_some_iff.mp (Option.mem_toList.mp hblock)
    exact ⟨thinking, rfl⟩
  · intro block hblock
    unfold textContents at hblock
    split_ifs at hblock
    · exact ⟨result.text, List.mem_singleton.mp hblock⟩
    · cases hblock
  · intro block hblock
    obtain ⟨toolCall, -, rfl⟩ := List.mem_map.mp hblock
    exact ⟨_, _, _, rfl⟩
  · intro h
    rw [hstreamed]
    obtain h | h := h
    · simp [streamedReply, reply, mapGatewayResponseToAnthropicFormat, thinkingContents, h]
    · simp [streamedReply, reply, mapGatewayResponseToAnthropicFormat, textContents, h]

/-! ## An answer with thinking -/

def thoughtfulResult (text : String) : ChatResponseDto where
  id := "gw_1"
  text := text
  usage := none
  totalTokens := none
  toolCalls := [⟨"call_1", "get_time", "\x7b\x7d"⟩]
  finishReason := some .toolCalls
  usageDetails := none
  systemFingerprint := none
  thinkingContent := some "Which zone?"

theorem thoughtful_arguments (text : String) : ObjectArguments (thoughtfulResult text) := by
  intro toolCall hmem
  obtain rfl := List.mem_singleton.mp hmem
  exact ⟨[], Json.parse_stringify (.obj [])⟩

/-- With a text, the two answers begin with different blocks. -/
theorem thinking_after_text :
    readAnthropicStream (String.join (anthropicStreamLines "chat-default"
        ((thoughtfulResult "One moment.").events ["One ", "moment."]))) ≠
      some (mapGatewayResponseToAnthropicFormat (thoughtfulResult "One moment.") "chat-default") := by
  have hread := @readAnthropicStream_events _ ["One ", "moment."] "chat-default"
    (thoughtful_arguments "One moment.") (by decide) (by decide)
  intro heq
  rw [hread] at heq
  have hcontent := congrArg (fun reply => (reply.map AnthropicReply.content).bind List.head?) heq
  simp [streamedReply, mapGatewayResponseToAnthropicFormat, textContents, thinkingContents, thoughtfulResult,
    JsString.truthy, Option.filter] at hcontent

/-- Without one they are the same. -/
theorem anthropic_stream_agrees_silent :
    readAnthropicStream (String.join (anthropicStreamLines "chat-default" ((thoughtfulResult "").events []))) =
      some (mapGatewayResponseToAnthropicFormat (thoughtfulResult "") "chat-default") :=
  (anthropic_stream_agrees (thoughtfulResult "") [] "chat-default" (thoughtful_arguments "") rfl (by decide)).2
    (.inr rfl)

end AiGateway.Facade
