import AiGateway.Integrations.GatewayReply
import AiGateway.Lib.EventStream
import AiGateway.Lib.JsValue

/- The Anthropic facade's stream: `mapSseEventToAnthropic`, the events that it writes, and what
   a client may expect of their order.

   The index of a block comes from one counter, which stands on the block under way once there is
   a text block and on the next block before that. `nextIndex` is the index that the next block
   will get in either case; every block takes it and moves it on by one.

   `anthropic_stream_grammar`: a stream is one message, its blocks numbered from 0, each with
   deltas between its start and its stop. -/
namespace AiGateway.Facade

open EventStream (Message)
open Json (Value asNumber readText asNat natNumber)

/-! ## Events of the vendor -/

inductive AnthropicStopReason where
  | endTurn | toolUse | maxTokens | refusal
  deriving DecidableEq, Repr

def AnthropicStopReason.text : AnthropicStopReason → String
  | .endTurn => "end_turn"
  | .toolUse => "tool_use"
  | .maxTokens => "max_tokens"
  | .refusal => "refusal"

/-- `AnthropicMessagesUsageDto`. -/
structure AnthropicUsage where
  inputTokens : Json.Number
  outputTokens : Json.Number
  cacheCreationInputTokens : Option Json.Number
  cacheReadInputTokens : Option Json.Number
  deriving DecidableEq

/-- The `content_block` that a block starts with. -/
inductive BlockStart where
  | text
  | thinking
  | toolUse (id name : String)
  deriving DecidableEq, Repr

inductive BlockDelta where
  | text (text : String)
  | thinking (thinking : String)
  | inputJson (partialJson : String)
  deriving DecidableEq, Repr

inductive AnthropicEvent where
  | messageStart (id model : String)
  | blockStart (index : ℕ) (block : BlockStart)
  | blockDelta (index : ℕ) (delta : BlockDelta)
  | blockStop (index : ℕ)
  | messageDelta (stopReason : AnthropicStopReason) (usage : AnthropicUsage)
  | messageStop
  deriving DecidableEq

def AnthropicEvent.name : AnthropicEvent → String
  | .messageStart _ _ => "message_start"
  | .blockStart _ _ => "content_block_start"
  | .blockDelta _ _ => "content_block_delta"
  | .blockStop _ => "content_block_stop"
  | .messageDelta _ _ => "message_delta"
  | .messageStop => "message_stop"

def BlockStart.json : BlockStart → Value
  | .text => .obj [("type", .str "text"), ("text", .str "")]
  | .thinking => .obj [("type", .str "thinking"), ("thinking", .str "")]
  | .toolUse id name =>
    .obj [("type", .str "tool_use"), ("id", .str id), ("name", .str name), ("input", .obj [])]

def BlockDelta.json : BlockDelta → Value
  | .text t => .obj [("type", .str "text_delta"), ("text", .str t)]
  | .thinking t => .obj [("type", .str "thinking_delta"), ("thinking", .str t)]
  | .inputJson partialJson => .obj [("type", .str "input_json_delta"), ("partial_json", .str partialJson)]

def nullable (n : Option Json.Number) : Value := n.elim .null .num

def AnthropicUsage.json (usage : AnthropicUsage) : Value :=
  .obj [("input_tokens", .num usage.inputTokens), ("output_tokens", .num usage.outputTokens),
    ("cache_creation_input_tokens", nullable usage.cacheCreationInputTokens),
    ("cache_read_input_tokens", nullable usage.cacheReadInputTokens)]

/-- The members of an event besides its `type`. -/
def AnthropicEvent.members : AnthropicEvent → List (String × Value)
  | .messageStart id model =>
    [("message", .obj [("id", .str id), ("type", .str "message"), ("role", .str "assistant"), ("content", .arr []),
      ("model", .str model),
      ("usage", .obj [("input_tokens", .num (natNumber 0)), ("output_tokens", .num (natNumber 0))])])]
  | .blockStart index block => [("index", .num (natNumber index)), ("content_block", block.json)]
  | .blockDelta index delta => [("index", .num (natNumber index)), ("delta", delta.json)]
  | .blockStop index => [("index", .num (natNumber index))]
  | .messageDelta stopReason usage =>
    [("delta", .obj [("stop_reason", .str stopReason.text), ("stop_sequence", .null)]), ("usage", usage.json)]
  | .messageStop => []

def AnthropicEvent.json (event : AnthropicEvent) : Value := .obj (("type", .str event.name) :: event.members)

/-- `eventLine`. -/
def AnthropicEvent.render (event : AnthropicEvent) : String :=
  "event: " ++ event.name ++ "\ndata: " ++ Json.stringify event.json ++ "\n\n"

/-! ## `mapSseEventToAnthropic` -/

structure AnthropicStreamState where
  messageId : String
  model : String
  messageSent : Bool
  textBlockStarted : Bool
  blockIndex : ℕ
  activeToolBlockIndex : Option ℕ
  thinkingBlockEmitted : Bool

def createAnthropicStreamState (model : String) : AnthropicStreamState := ⟨"", model, false, false, 0, none, false⟩

/-- `msg_${id.replace(/^gw_/, '')}`. -/
def toAnthropicMessageId (gatewayId : String) : String :=
  "msg_" ++ if JsString.startsWith gatewayId "gw_" then String.ofList (gatewayId.toList.drop 3) else gatewayId

def mapGatewayFinishReasonToAnthropicStopReason : Option SseFinishReason → AnthropicStopReason
  | some .toolCalls => .toolUse
  | some .length => .maxTokens
  | some .contentFilter => .refusal
  | _ => .endTurn

def mapGatewayUsageToAnthropic (usage : Option ChatUsage) (usageDetails : Option ProviderUsageDetails) :
    AnthropicUsage where
  inputTokens := (usage.bind ChatUsage.inputTokens).getD zeroTokens
  outputTokens := (usage.bind ChatUsage.outputTokens).getD zeroTokens
  cacheCreationInputTokens := usageDetails.bind ProviderUsageDetails.promptCacheCreationTokens
  cacheReadInputTokens := usageDetails.bind ProviderUsageDetails.promptCacheHitTokens

def mapSseDoneUsageToAnthropic (done : SseDoneEvent) : AnthropicUsage :=
  mapGatewayUsageToAnthropic done.usage done.usageDetails

/-- `state.textBlockStarted ? ++state.blockIndex : state.blockIndex++`: the index, and the state
that is left. -/
def takeBlockIndex (state : AnthropicStreamState) : ℕ × AnthropicStreamState :=
  if state.textBlockStarted then (state.blockIndex + 1, { state with blockIndex := state.blockIndex + 1 })
  else (state.blockIndex, { state with blockIndex := state.blockIndex + 1 })

def emitThinkingBlock (state : AnthropicStreamState) (thinking : String) :
    AnthropicStreamState × List AnthropicEvent :=
  let taken := takeBlockIndex state
  ({ taken.2 with thinkingBlockEmitted := true },
    [.blockStart taken.1 .thinking, .blockDelta taken.1 (.thinking thinking), .blockStop taken.1])

/-- `if (event.data.thinkingContent && !state.thinkingBlockEmitted)`. -/
def emitThinking (state : AnthropicStreamState) (thinkingContent : Option String) :
    AnthropicStreamState × List AnthropicEvent :=
  match JsString.truthy thinkingContent, state.thinkingBlockEmitted with
  | some thinking, false => emitThinkingBlock state thinking
  | _, _ => (state, [])

/-- The loop over the tool calls. -/
def emitToolBlocks (state : AnthropicStreamState) :
    List GatewayToolCall → AnthropicStreamState × List AnthropicEvent
  | [] => (state, [])
  | toolCall :: toolCalls =>
    let taken := takeBlockIndex state
    let rest := emitToolBlocks { taken.2 with activeToolBlockIndex := some taken.1 } toolCalls
    (rest.1,
      .blockStart taken.1 (.toolUse toolCall.id toolCall.name) ::
        .blockDelta taken.1 (.inputJson toolCall.arguments) :: .blockStop taken.1 :: rest.2)

/-- `if (hasToolCalls)`. -/
def emitTools (state : AnthropicStreamState) (toolCalls : List GatewayToolCall) :
    AnthropicStreamState × List AnthropicEvent :=
  if toolCalls.isEmpty then (state, [])
  else
    let emitted := emitToolBlocks state toolCalls
    ({ emitted.1 with activeToolBlockIndex := none }, emitted.2)

def mapSseEventToAnthropic (event : SseEvent) (state : AnthropicStreamState) :
    AnthropicStreamState × List AnthropicEvent :=
  match event with
  | .metaEvent id =>
    let state := { state with messageId := toAnthropicMessageId id }
    if state.messageSent then (state, [])
    else ({ state with messageSent := true }, [.messageStart state.messageId state.model])
  | .delta text =>
    let start := if state.textBlockStarted then [] else [.blockStart state.blockIndex .text]
    ({ state with textBlockStarted := true }, start ++ [.blockDelta state.blockIndex (.text text)])
  | .done data =>
    let stop := if state.textBlockStarted then [.blockStop state.blockIndex] else []
    let thinking := emitThinking state data.thinkingContent
    let tools := emitTools thinking.1 data.toolCalls
    (tools.1, stop ++ thinking.2 ++ tools.2 ++
      [.messageDelta (mapGatewayFinishReasonToAnthropicStopReason data.finishReason)
        (mapSseDoneUsageToAnthropic data), .messageStop])

/-- What a stream writes, line by line, from a fresh state. -/
def anthropicStreamLines (model : String) (events : List SseEvent) : List String :=
  (emitAll mapSseEventToAnthropic (createAnthropicStreamState model) events).map AnthropicEvent.render

/-! ## Reading the lines -/

def decodeStart (block : Value) : Option BlockStart :=
  let type := readText (block.get? "type")
  if type = some "text" then some .text
  else if type = some "thinking" then some .thinking
  else if type = some "tool_use" then do
    let id ← readText (block.get? "id")
    let name ← readText (block.get? "name")
    return .toolUse id name
  else none

def decodeDelta (delta : Value) : Option BlockDelta :=
  let type := readText (delta.get? "type")
  if type = some "text_delta" then (readText (delta.get? "text")).map .text
  else if type = some "thinking_delta" then (readText (delta.get? "thinking")).map .thinking
  else if type = some "input_json_delta" then (readText (delta.get? "partial_json")).map .inputJson
  else none

def decodeStopReason (text : String) : Option AnthropicStopReason :=
  [AnthropicStopReason.endTurn, .toolUse, .maxTokens, .refusal].find? fun reason => reason.text = text

def decodeUsage (usage : Value) : Option AnthropicUsage := do
  let input ← (usage.get? "input_tokens").bind asNumber
  let output ← (usage.get? "output_tokens").bind asNumber
  return ⟨input, output, (usage.get? "cache_creation_input_tokens").bind asNumber,
    (usage.get? "cache_read_input_tokens").bind asNumber⟩

def decodeEvent (data : Value) : Option AnthropicEvent :=
  let type := readText (data.get? "type")
  let index := (data.get? "index").bind asNat
  if type = some "message_start" then do
    let message ← data.get? "message"
    let id ← readText (message.get? "id")
    let model ← readText (message.get? "model")
    return .messageStart id model
  else if type = some "content_block_start" then do
    let index ← index
    let block ← (data.get? "content_block").bind decodeStart
    return .blockStart index block
  else if type = some "content_block_delta" then do
    let index ← index
    let delta ← (data.get? "delta").bind decodeDelta
    return .blockDelta index delta
  else if type = some "content_block_stop" then index.map .blockStop
  else if type = some "message_delta" then do
    let stopReason ← (readText (Json.prop (data.get? "delta") "stop_reason")).bind decodeStopReason
    let usage ← (data.get? "usage").bind decodeUsage
    return .messageDelta stopReason usage
  else if type = some "message_stop" then some .messageStop
  else none

/-- A message of the stream is one event, of the type that the stream names. -/
def decodeMessage (m : Message) : Option AnthropicEvent :=
  ((Json.parse m.data).bind decodeEvent).filter fun event => m.event = some event.name

/-- The events in the text of a whole stream. -/
def decodeStream (text : String) : Option (List AnthropicEvent) := (EventStream.read text).mapM decodeMessage

/-! ## Lines and events -/

def AnthropicEvent.message (event : AnthropicEvent) : Message := ⟨some event.name, Json.stringify event.json⟩

theorem AnthropicEvent.render_eq (event : AnthropicEvent) : event.render = event.message.render := by
  simp [AnthropicEvent.render, AnthropicEvent.message, Message.render, String.append_assoc]

theorem AnthropicEvent.oneLine (event : AnthropicEvent) : event.message.OneLine := by
  refine ⟨?_, Json.stringify_not_lineBreak _⟩
  intro name hname
  cases hname
  apply Json.not_lineBreak_of_all
  cases event <;> simp [AnthropicEvent.name, Json.isLineBreak]

theorem decodeStart_json (block : BlockStart) : decodeStart block.json = some block := by
  cases block <;> rfl

theorem decodeDelta_json (delta : BlockDelta) : decodeDelta delta.json = some delta := by
  cases delta <;> rfl

theorem decodeStopReason_text (reason : AnthropicStopReason) : decodeStopReason reason.text = some reason := by
  cases reason <;> decide

theorem decodeUsage_json (usage : AnthropicUsage) : decodeUsage usage.json = some usage := by
  obtain ⟨input, output, creation, read⟩ := usage
  cases creation <;> cases read <;> rfl

/-- The index of an event, read from its text. -/
theorem index_json (index : ℕ) : asNat (.num (natNumber index)) = some index := Json.asNat_natNumber index

theorem decodeEvent_json (event : AnthropicEvent) : decodeEvent event.json = some event := by
  cases event with
  | messageStart id model => rfl
  | messageStop => rfl
  | blockStart index block =>
    show ((asNat (.num (natNumber index))).bind fun i => (decodeStart block.json).bind fun b =>
      some (AnthropicEvent.blockStart i b)) = _
    rw [index_json, decodeStart_json]
    rfl
  | blockDelta index delta =>
    show ((asNat (.num (natNumber index))).bind fun i => (decodeDelta delta.json).bind fun d =>
      some (AnthropicEvent.blockDelta i d)) = _
    rw [index_json, decodeDelta_json]
    rfl
  | blockStop index =>
    show (asNat (.num (natNumber index))).map AnthropicEvent.blockStop = _
    rw [index_json]
    rfl
  | messageDelta stopReason usage =>
    show ((decodeStopReason stopReason.text).bind fun r => (decodeUsage usage.json).bind fun u =>
      some (AnthropicEvent.messageDelta r u)) = _
    rw [decodeStopReason_text, decodeUsage_json]
    rfl

theorem decodeMessage_message (event : AnthropicEvent) : decodeMessage event.message = some event := by
  simp [decodeMessage, AnthropicEvent.message, Json.parse_stringify, decodeEvent_json, Option.filter]

theorem decodeMessages_map (events : List AnthropicEvent) :
    (events.map AnthropicEvent.message).mapM decodeMessage = some events := by
  induction events with
  | nil => rfl
  | cons event events ih =>
    rw [List.map_cons, List.mapM_cons, decodeMessage_message, ih]
    rfl

theorem decodeStream_render (events : List AnthropicEvent) :
    decodeStream (String.join (events.map AnthropicEvent.render)) = some events := by
  unfold decodeStream
  rw [EventStream.read_map AnthropicEvent.render_eq AnthropicEvent.oneLine, decodeMessages_map]

/-! ## Blocks -/

/-- A block as it is sent. -/
structure SentBlock where
  start : BlockStart
  deltas : List BlockDelta
  deriving DecidableEq

def blockEvents (index : ℕ) (block : SentBlock) : List AnthropicEvent :=
  .blockStart index block.start :: (block.deltas.map (.blockDelta index) ++ [.blockStop index])

/-- The blocks one after the other, numbered from `first` on. -/
def blocksFrom (first : ℕ) : List SentBlock → List AnthropicEvent
  | [] => []
  | block :: blocks => blockEvents first block ++ blocksFrom (first + 1) blocks

theorem blocksFrom_append (first : ℕ) (xs ys : List SentBlock) :
    blocksFrom first (xs ++ ys) = blocksFrom first xs ++ blocksFrom (first + xs.length) ys := by
  induction xs generalizing first with
  | nil => rfl
  | cons x xs ih =>
    calc blocksFrom first (x :: xs ++ ys)
        = blockEvents first x ++ blocksFrom (first + 1) (xs ++ ys) := rfl
      _ = blockEvents first x ++ (blocksFrom (first + 1) xs ++ blocksFrom (first + 1 + xs.length) ys) := by rw [ih]
      _ = blocksFrom first (x :: xs) ++ blocksFrom (first + (x :: xs).length) ys := by
          rw [← List.append_assoc, List.length_cons, Nat.add_assoc, Nat.add_comm 1]
          rfl

/-- A message as it is sent: its start, its blocks with the numbers 0, 1, 2, ..., and its end. -/
structure StreamedMessage where
  id : String
  model : String
  blocks : List SentBlock
  stopReason : AnthropicStopReason
  usage : AnthropicUsage
  deriving DecidableEq

def StreamedMessage.events (m : StreamedMessage) : List AnthropicEvent :=
  .messageStart m.id m.model :: (blocksFrom 0 m.blocks ++ [.messageDelta m.stopReason m.usage, .messageStop])

def textBlocks (deltas : List String) : List SentBlock :=
  if deltas.isEmpty then [] else [⟨.text, deltas.map .text⟩]

def thinkingBlocks (thinkingContent : Option String) : List SentBlock :=
  ((JsString.truthy thinkingContent).map fun thinking => ⟨.thinking, [.thinking thinking]⟩).toList

def toolBlock (toolCall : GatewayToolCall) : SentBlock :=
  ⟨.toolUse toolCall.id toolCall.name, [.inputJson toolCall.arguments]⟩

/-- The message that the stream of a `meta`, some deltas and a `done` is. -/
def streamedMessage (model id : String) (deltas : List String) (done : SseDoneEvent) : StreamedMessage where
  id := toAnthropicMessageId id
  model := model
  blocks := textBlocks deltas ++ (thinkingBlocks done.thinkingContent ++ done.toolCalls.map toolBlock)
  stopReason := mapGatewayFinishReasonToAnthropicStopReason done.finishReason
  usage := mapSseDoneUsageToAnthropic done

/-! ## The counter -/

namespace AnthropicStreamState

/-- The index of the next block, whatever the counter stands on. -/
def nextIndex (state : AnthropicStreamState) : ℕ :=
  if state.textBlockStarted then state.blockIndex + 1 else state.blockIndex

end AnthropicStreamState

theorem takeBlockIndex_index (state : AnthropicStreamState) : (takeBlockIndex state).1 = state.nextIndex := by
  unfold takeBlockIndex AnthropicStreamState.nextIndex
  split_ifs <;> rfl

theorem takeBlockIndex_next (state : AnthropicStreamState) :
    (takeBlockIndex state).2.nextIndex = state.nextIndex + 1 := by
  unfold takeBlockIndex AnthropicStreamState.nextIndex
  cases state.textBlockStarted <;> rfl

theorem emitThinking_events (state : AnthropicStreamState) (hthinking : state.thinkingBlockEmitted = false)
    (thinkingContent : Option String) :
    (emitThinking state thinkingContent).2 = blocksFrom state.nextIndex (thinkingBlocks thinkingContent) ∧
      (emitThinking state thinkingContent).1.nextIndex =
        state.nextIndex + (thinkingBlocks thinkingContent).length := by
  unfold emitThinking thinkingBlocks
  rw [hthinking]
  cases JsString.truthy thinkingContent with
  | none => exact ⟨rfl, rfl⟩
  | some thinking =>
    refine ⟨?_, takeBlockIndex_next state⟩
    rw [← takeBlockIndex_index]
    rfl

theorem emitToolBlocks_events (state : AnthropicStreamState) (toolCalls : List GatewayToolCall) :
    (emitToolBlocks state toolCalls).2 = blocksFrom state.nextIndex (toolCalls.map toolBlock) := by
  induction toolCalls generalizing state with
  | nil => rfl
  | cons toolCall toolCalls ih =>
    have hnext : ({ (takeBlockIndex state).2 with
        activeToolBlockIndex := some (takeBlockIndex state).1 } : AnthropicStreamState).nextIndex =
          state.nextIndex + 1 := takeBlockIndex_next state
    calc (emitToolBlocks state (toolCall :: toolCalls)).2
        = blockEvents (takeBlockIndex state).1 (toolBlock toolCall) ++ (emitToolBlocks { (takeBlockIndex state).2 with
            activeToolBlockIndex := some (takeBlockIndex state).1 } toolCalls).2 := rfl
      _ = blockEvents state.nextIndex (toolBlock toolCall) ++
            blocksFrom (state.nextIndex + 1) (toolCalls.map toolBlock) := by
          rw [ih, hnext, takeBlockIndex_index]
      _ = blocksFrom state.nextIndex ((toolCall :: toolCalls).map toolBlock) := rfl

theorem emitTools_events (state : AnthropicStreamState) (toolCalls : List GatewayToolCall) :
    (emitTools state toolCalls).2 = blocksFrom state.nextIndex (toolCalls.map toolBlock) := by
  cases toolCalls with
  | nil => rfl
  | cons toolCall toolCalls => exact emitToolBlocks_events state (toolCall :: toolCalls)

/-- A `done` closes the text block; what it adds are whole blocks from the next index on. -/
theorem mapDone_events (state : AnthropicStreamState) (hthinking : state.thinkingBlockEmitted = false)
    (done : SseDoneEvent) :
    (mapSseEventToAnthropic (.done done) state).2 =
      (if state.textBlockStarted then [.blockStop state.blockIndex] else []) ++
        blocksFrom state.nextIndex (thinkingBlocks done.thinkingContent ++ done.toolCalls.map toolBlock) ++
        [.messageDelta (mapGatewayFinishReasonToAnthropicStopReason done.finishReason)
          (mapSseDoneUsageToAnthropic done), .messageStop] := by
  obtain ⟨hevents, hnext⟩ := emitThinking_events state hthinking done.thinkingContent
  simp only [mapSseEventToAnthropic, hevents, emitTools_events, hnext, blocksFrom_append, List.append_assoc]

/-- Once there is a text block, its deltas go into it and leave the state alone. -/
theorem emit_textDeltas (state : AnthropicStreamState) (hstarted : state.textBlockStarted = true)
    (deltas : List String) :
    emitAll mapSseEventToAnthropic state (deltas.map .delta) =
        (deltas.map BlockDelta.text).map (.blockDelta state.blockIndex) ∧
      stateAfter mapSseEventToAnthropic state (deltas.map .delta) = state := by
  have hstep : ∀ text, mapSseEventToAnthropic (.delta text) state =
      (state, [.blockDelta state.blockIndex (.text text)]) := by
    intro text
    obtain ⟨messageId, model, messageSent, textBlockStarted, blockIndex, active, thinking⟩ := state
    cases hstarted
    rfl
  obtain ⟨hemit, hstate⟩ := emitAll_steady hstep deltas
  refine ⟨?_, hstate⟩
  rw [hemit, List.map_map]
  rfl

/-- The whole stream from a fresh state. -/
theorem emit_stream (model id : String) (deltas : List String) (done : SseDoneEvent) :
    emitAll mapSseEventToAnthropic (createAnthropicStreamState model)
        (.metaEvent id :: (deltas.map .delta ++ [.done done])) =
      (streamedMessage model id deltas done).events := by
  have hend : ∀ state : AnthropicStreamState,
      emitAll mapSseEventToAnthropic state [.done done] = (mapSseEventToAnthropic (.done done) state).2 := by
    intro state
    exact List.append_nil _
  cases deltas with
  | nil =>
    -- no text block: the counter stands on the first block
    let opened : AnthropicStreamState := ⟨toAnthropicMessageId id, model, true, false, 0, none, false⟩
    calc emitAll mapSseEventToAnthropic (createAnthropicStreamState model) [.metaEvent id, .done done]
        = .messageStart (toAnthropicMessageId id) model :: emitAll mapSseEventToAnthropic opened [.done done] := rfl
      _ = (streamedMessage model id [] done).events := by rw [hend, mapDone_events opened rfl]; rfl
  | cons text deltas =>
    let started : AnthropicStreamState := ⟨toAnthropicMessageId id, model, true, true, 0, none, false⟩
    obtain ⟨hdeltas, hstate⟩ := emit_textDeltas started rfl deltas
    calc emitAll mapSseEventToAnthropic (createAnthropicStreamState model)
          (.metaEvent id :: ((text :: deltas).map .delta ++ [.done done]))
        = .messageStart (toAnthropicMessageId id) model :: .blockStart 0 .text :: .blockDelta 0 (.text text) ::
            emitAll mapSseEventToAnthropic started (deltas.map .delta ++ [.done done]) := rfl
      _ = (streamedMessage model id (text :: deltas) done).events := by
          rw [emitAll_append, hdeltas, hstate, hend, mapDone_events started rfl]
          simp [streamedMessage, StreamedMessage.events, textBlocks, blocksFrom, blockEvents, started,
            AnthropicStreamState.nextIndex]

/-! ## The stream as its client reads it -/

def BlockDelta.text? : BlockDelta → Option String
  | .text t => some t
  | _ => none

def BlockDelta.thinking? : BlockDelta → Option String
  | .thinking t => some t
  | _ => none

def BlockDelta.inputJson? : BlockDelta → Option String
  | .inputJson t => some t
  | _ => none

namespace SentBlock

def texts (block : SentBlock) : List String := block.deltas.filterMap BlockDelta.text?

def thinkings (block : SentBlock) : List String := block.deltas.filterMap BlockDelta.thinking?

def inputs (block : SentBlock) : List String := block.deltas.filterMap BlockDelta.inputJson?

/-- The call of a `tool_use` block, its arguments put together. -/
def toolCall? (block : SentBlock) : Option GatewayToolCall :=
  match block.start with
  | .toolUse id name => some ⟨id, name, joinText block.inputs⟩
  | _ => none

end SentBlock

/-- The text of a text block. -/
theorem texts_map (deltas : List String) : (deltas.map BlockDelta.text).filterMap BlockDelta.text? = deltas := by
  simp [List.filterMap_map, BlockDelta.text?, Function.comp_def]

theorem texts_streamed (model id : String) (deltas : List String) (done : SseDoneEvent) :
    (streamedMessage model id deltas done).blocks.flatMap SentBlock.texts = deltas := by
  have htext : (textBlocks deltas).flatMap SentBlock.texts = deltas := by
    cases deltas with
    | nil => rfl
    | cons text deltas => exact (List.append_nil _).trans (texts_map (text :: deltas))
  have hthinking : (thinkingBlocks done.thinkingContent).flatMap SentBlock.texts = [] := by
    unfold thinkingBlocks
    cases JsString.truthy done.thinkingContent <;> rfl
  have htools : (done.toolCalls.map toolBlock).flatMap SentBlock.texts = [] := by
    simp [SentBlock.texts, toolBlock, BlockDelta.text?]
  simp [streamedMessage, htext, hthinking, htools]

theorem toolCalls_streamed (model id : String) (deltas : List String) (done : SseDoneEvent) :
    (streamedMessage model id deltas done).blocks.filterMap SentBlock.toolCall? = done.toolCalls := by
  have htext : (textBlocks deltas).filterMap SentBlock.toolCall? = [] := by
    cases deltas <;> rfl
  have hthinking : (thinkingBlocks done.thinkingContent).filterMap SentBlock.toolCall? = [] := by
    unfold thinkingBlocks
    cases JsString.truthy done.thinkingContent <;> rfl
  have htools : (done.toolCalls.map toolBlock).filterMap SentBlock.toolCall? = done.toolCalls := by
    simp [List.filterMap_map, Function.comp_def, SentBlock.toolCall?, SentBlock.inputs, BlockDelta.inputJson?,
      toolBlock, joinText]
  simp [streamedMessage, htext, hthinking, htools]

theorem deltas_streamed (model id : String) (deltas : List String) (done : SseDoneEvent) :
    ∀ block ∈ (streamedMessage model id deltas done).blocks, block.deltas ≠ [] := by
  intro block hblock
  simp only [streamedMessage, List.mem_append] at hblock
  obtain hblock | hblock | hblock := hblock
  · cases deltas with
    | nil => cases hblock
    | cons text deltas =>
      obtain rfl := List.mem_singleton.mp hblock
      simp
  · obtain ⟨thinking, -, rfl⟩ := Option.map_eq_some_iff.mp (Option.mem_toList.mp hblock)
    simp
  · obtain ⟨toolCall, -, rfl⟩ := List.mem_map.mp hblock
    simp [toolBlock]

/-- For every stream: its lines read as one message, with the blocks 0, 1, 2, ... one after the
other, each with deltas between its start and its stop; the text deltas are those of the stream
and the calls of the `tool_use` blocks are its calls, in order. -/
theorem anthropic_stream_grammar (model id : String) (deltas : List String) (done : SseDoneEvent) :
    ∃ m : StreamedMessage,
      decodeStream (String.join (anthropicStreamLines model (.metaEvent id :: (deltas.map .delta ++ [.done done])))) =
        some (.messageStart m.id m.model ::
          (blocksFrom 0 m.blocks ++ [.messageDelta m.stopReason m.usage, .messageStop])) ∧
      (∀ block ∈ m.blocks, block.deltas ≠ []) ∧
      m.blocks.flatMap SentBlock.texts = deltas ∧
      m.blocks.filterMap SentBlock.toolCall? = done.toolCalls := by
  refine ⟨streamedMessage model id deltas done, ?_, deltas_streamed model id deltas done,
    texts_streamed model id deltas done, toolCalls_streamed model id deltas done⟩
  unfold anthropicStreamLines
  rw [decodeStream_render, emit_stream]
  rfl

end AiGateway.Facade
