import AiGateway.Chat.UnfinishedReplies
import AiGateway.Integrations.AnthropicReply
import AiGateway.Integrations.Conversation
import AiGateway.Integrations.OpenAiReply

/- A reply on its way from a provider to a client: the way back of `Conversation`. Four APIs
   answer the gateway, whole or streamed, and three surfaces answer its clients, two of them
   also as a stream. What is said is read of each as utterances, the text first and then the
   calls, as the gateway keeps them.

   `model_reply_kept`: each client reads just what the model said. -/
namespace AiGateway

open JsString (truthy)

/-! ## Providers -/

namespace Anthropic

/-- The input of a call; an SDK that has not parsed it gives its text. -/
def inputSaid : Option Json.Value → Json.Value
  | some (.str text) => argumentsSaid text
  | input => inputObject input

def ContentBlock.call? : ContentBlock → Option Utterance
  | .toolUse id name input => some (.call id name (inputSaid input))
  | _ => none

/-- The texts of a message are one text. -/
def Message.utterances (m : Message) : List Utterance := spoken m.text ++ m.content.filterMap ContentBlock.call?

end Anthropic

namespace Google

/-- A call without an id is known by its name. -/
def FunctionCall.utterance? (f : FunctionCall) : Option Utterance :=
  (truthy f.name).map fun name => .call (f.id.getD ("call_" ++ name)) name (inputObject f.args)

def GenerateContentResponse.utterances (r : GenerateContentResponse) : List Utterance :=
  spoken (r.text.getD "") ++ (r.functionCalls.getD []).filterMap FunctionCall.utterance?

end Google

namespace ChatCompletions

def MessageToolCall.utterance? : MessageToolCall → Option Utterance
  | .function id name arguments => some (.call id name (argumentsSaid (arguments.getD "{}")))
  | .custom => none

def Message.utterances (m : Message) : List Utterance :=
  spoken (m.content.getD "") ++ (m.toolCalls.getD []).filterMap MessageToolCall.utterance?

/-- The first choice speaks. -/
def ChatCompletion.utterances (r : ChatCompletion) : List Utterance := (r.message.map Message.utterances).getD []

end ChatCompletions

namespace Responses

def OutputItem.utterance? : OutputItem → Option Utterance
  | .functionCall _ callId name arguments => some (.call callId name (argumentsSaid arguments))
  | _ => none

def Response.utterances (r : Response) : List Utterance :=
  spoken (r.outputText.getD "") ++ (r.output.getD []).filterMap OutputItem.utterance?

end Responses

/-- What `complete` resolves with; a stream is read by `stream` instead. -/
def Upstream.complete (tools : Bool) : Upstream → Option ProviderChatResponse
  | .anthropic m => some (Anthropic.complete tools m)
  | .google c r => some (Google.complete tools c r)
  | .responses modelId r => some (Responses.complete modelId r)
  | .chatCompletions r => some (ChatCompletions.complete r)
  | _ => none

def Upstream.utterances : Upstream → List Utterance
  | .anthropic m => m.utterances
  | .google _ r => r.utterances
  | .responses _ r => r.utterances
  | .chatCompletions r => r.utterances
  | _ => []

def Utterance.isCall : Utterance → Bool
  | .call _ _ _ => true
  | _ => false

/-! ## Clients -/

namespace Facade

/-- The native answer. -/
def ChatResponseDto.utterances (dto : ChatResponseDto) : List Utterance :=
  spoken dto.text ++ dto.toolCalls.map GatewayToolCall.utterance

def OpenAiToolCall.utterance (call : OpenAiToolCall) : Utterance :=
  .call call.id call.name (argumentsSaid call.arguments)

def OpenAiMessage.utterances (m : OpenAiMessage) : List Utterance :=
  spoken (m.content.getD "") ++ m.toolCalls.map OpenAiToolCall.utterance

/-- The calls that a client has put together are `said`. -/
def OpenAiClient.Reads (client : OpenAiClient) (said : List Utterance) : Prop :=
  ∃ calls : List OpenAiToolCall, (∀ index, client.toolCalls index = calls[index]?) ∧
    spoken client.content ++ calls.map OpenAiToolCall.utterance = said

def AnthropicContent.utterances : AnthropicContent → List Utterance
  | .thinking _ => []
  | .text said => spoken said
  | .toolUse id name input => [.call id name input]

def AnthropicReply.utterances (reply : AnthropicReply) : List Utterance :=
  reply.content.flatMap AnthropicContent.utterances

end Facade

/-! ## From the providers to the gateway -/

def ProviderChatResponse.utterances (r : ProviderChatResponse) : List Utterance :=
  spoken r.text ++ r.toolCalls.map GatewayToolCall.utterance

theorem argumentsSaid_stringify (v : Json.Value) : argumentsSaid (Json.stringify v) = inputObject (some v) := by
  cases v <;> simp only [argumentsSaid, inputObject, Json.parse_stringify]

theorem filterMap_utterance {α : Type} {said : α → Option Utterance} {call : α → Option GatewayToolCall}
    (h : ∀ a, said a = (call a).map GatewayToolCall.utterance) (items : List α) :
    items.filterMap said = (items.filterMap call).map GatewayToolCall.utterance := by
  rw [List.map_filterMap]
  exact List.filterMap_congr fun a _ => h a

/-- Calls are heard where tools were sent; without tools a reply has none. -/
theorem filterMap_no_calls {α : Type} {f : α → Option Utterance} {items : List α} {text : String}
    (hcall : ∀ a u, f a = some u → u.isCall = true)
    (h : ∀ u ∈ spoken text ++ items.filterMap f, u.isCall = false) : items.filterMap f = [] := by
  rw [List.eq_nil_iff_forall_not_mem]
  intro u hu
  obtain ⟨a, -, ha⟩ := List.mem_filterMap.mp hu
  have := h u (List.mem_append_right _ hu)
  rw [hcall a u ha] at this
  cases this

namespace Anthropic

theorem stringify_input (input : Option Json.Value) : argumentsSaid (stringifyToolInput input) = inputSaid input := by
  cases input with
  | none => rfl
  | some v =>
    cases v with
    | str text => rfl
    | null => rfl
    | bool b => exact argumentsSaid_stringify _
    | num n => exact argumentsSaid_stringify _
    | arr items => exact argumentsSaid_stringify _
    | obj members => exact argumentsSaid_stringify _

theorem call?_eq (b : ContentBlock) : b.call? = b.toolCall?.map GatewayToolCall.utterance := by
  cases b with
  | toolUse id name input => simp [ContentBlock.call?, ContentBlock.toolCall?, GatewayToolCall.utterance, stringify_input]
  | text t => rfl
  | thinking t => rfl
  | other => rfl

theorem complete_utterances {tools : Bool} {m : Message}
    (h : tools = true ∨ ∀ u ∈ m.utterances, u.isCall = false) : (complete tools m).utterances = m.utterances := by
  have hcalls := filterMap_utterance call?_eq m.content
  cases tools with
  | true => exact congrArg (spoken m.text ++ ·) hcalls.symm
  | false =>
    have hnone := filterMap_no_calls (f := ContentBlock.call?) (by
      intro b u hb
      obtain ⟨call, -, rfl⟩ := Option.map_eq_some_iff.mp ((call?_eq b).symm.trans hb)
      rfl) (h.resolve_left Bool.false_ne_true)
    exact congrArg (spoken m.text ++ ·) hnone.symm

end Anthropic

namespace Google

theorem utterance?_eq (f : FunctionCall) : f.utterance? = f.toolCall?.map GatewayToolCall.utterance := by
  have hargs : argumentsSaid (Json.stringify (f.args.getD (.obj []))) = inputObject f.args := by
    rw [argumentsSaid_stringify]
    cases f.args <;> rfl
  unfold FunctionCall.utterance? FunctionCall.toolCall?
  cases truthy f.name with
  | none => rfl
  | some name => simp [GatewayToolCall.utterance, hargs]

theorem complete_utterances {tools : Bool} {c : Call} {r : GenerateContentResponse}
    (h : tools = true ∨ ∀ u ∈ r.utterances, u.isCall = false) : (complete tools c r).utterances = r.utterances := by
  have hcalls := filterMap_utterance utterance?_eq (r.functionCalls.getD [])
  cases tools with
  | true => exact congrArg (spoken (r.text.getD "") ++ ·) hcalls.symm
  | false =>
    have hnone := filterMap_no_calls (f := FunctionCall.utterance?) (by
      intro f u hf
      obtain ⟨call, -, rfl⟩ := Option.map_eq_some_iff.mp ((utterance?_eq f).symm.trans hf)
      rfl) (h.resolve_left Bool.false_ne_true)
    exact congrArg (spoken (r.text.getD "") ++ ·) hnone.symm

end Google

namespace ChatCompletions

theorem utterance?_eq (call : MessageToolCall) : call.utterance? = call.toolCall?.map GatewayToolCall.utterance := by
  cases call <;> rfl

theorem complete_utterances (r : ChatCompletion) : (complete r).utterances = r.utterances := by
  unfold ChatCompletion.utterances
  show spoken ((r.message.bind Message.content).getD "") ++
    (mapOpenAiToolCalls ((r.message.bind Message.toolCalls).getD [])).map GatewayToolCall.utterance = _
  cases r.message with
  | none => rfl
  | some m => exact congrArg (spoken (m.content.getD "") ++ ·) (filterMap_utterance utterance?_eq _).symm

end ChatCompletions

namespace Responses

theorem utterance?_eq (item : OutputItem) : item.utterance? = item.toolCall?.map GatewayToolCall.utterance := by
  cases item with
  | functionCall id callId name arguments =>
    simp [OutputItem.utterance?, OutputItem.toolCall?, GatewayToolCall.utterance, argumentsSaid_orEmptyObject]
  | reasoning summary => rfl
  | message content => rfl
  | other => rfl

theorem complete_utterances (modelId : String) (r : Response) : (complete modelId r).utterances = r.utterances :=
  congrArg (spoken (r.outputText.getD "") ++ ·) (filterMap_utterance utterance?_eq (r.output.getD [])).symm

end Responses

/-- The gateway has what the model said; of a request without tools, where that is no call. -/
theorem upstream_utterances {u : Upstream} {tools : Bool} {response : ProviderChatResponse}
    (hresponse : u.complete tools = some response)
    (hasked : tools = true ∨ ∀ said ∈ u.utterances, said.isCall = false) :
    response.utterances = u.utterances := by
  cases u with
  | anthropic m =>
    obtain rfl := Option.some.inj hresponse
    exact Anthropic.complete_utterances hasked
  | google c r =>
    obtain rfl := Option.some.inj hresponse
    exact Google.complete_utterances hasked
  | responses modelId r =>
    obtain rfl := Option.some.inj hresponse
    exact Responses.complete_utterances modelId r
  | chatCompletions r =>
    obtain rfl := Option.some.inj hresponse
    exact ChatCompletions.complete_utterances r
  | anthropicStream s => cases hresponse
  | googleStream c s => cases hresponse
  | responsesStream s => cases hresponse
  | chatCompletionsStream s => cases hresponse

/-! ## From the gateway to the clients -/

namespace Facade

theorem openAi_utterances (dto : ChatResponseDto) (requestedModel : String) (created : Json.Number) :
    (mapChatResponseToOpenAi dto requestedModel created).message.utterances = dto.utterances := by
  unfold OpenAiMessage.utterances ChatResponseDto.utterances
  rw [content_getD]
  show _ ++ (mapGatewayToolCallsToOpenAi dto.toolCalls).map _ = _
  rw [mapGatewayToolCallsToOpenAi, List.map_map]
  rfl

theorem anthropic_calls (toolCalls : List GatewayToolCall) :
    (mapGatewayToolCallsToAnthropic toolCalls).flatMap AnthropicContent.utterances =
      toolCalls.map GatewayToolCall.utterance := by
  rw [mapGatewayToolCallsToAnthropic, List.flatMap_map, List.map_eq_flatMap]
  apply List.flatMap_congr
  intro call _
  show [Utterance.call call.id call.name (parseJsonObject (orEmptyObject call.arguments) (.obj []))] = _
  rw [parseJsonObject_eq, argumentsSaid_orEmptyObject]
  rfl

theorem anthropic_thinking (dto : ChatResponseDto) :
    (thinkingContents dto).flatMap AnthropicContent.utterances = [] := by
  unfold thinkingContents
  cases truthy dto.thinkingContent <;> rfl

theorem anthropic_text (dto : ChatResponseDto) :
    (textContents dto).flatMap AnthropicContent.utterances = spoken dto.text := by
  unfold textContents spoken
  by_cases htext : dto.text = ""
  · simp [htext]
  · simp [htext, AnthropicContent.utterances, spoken]

theorem anthropic_utterances (dto : ChatResponseDto) (requestedModel : String) :
    (mapGatewayResponseToAnthropicFormat dto requestedModel).utterances = dto.utterances := by
  unfold AnthropicReply.utterances mapGatewayResponseToAnthropicFormat ChatResponseDto.utterances
  rw [List.flatMap_append, List.flatMap_append, anthropic_thinking, anthropic_text, anthropic_calls, List.nil_append]

theorem openAi_stream_reads (numberOf : ℚ → Json.Number) (dto : ChatResponseDto) {deltas : List String}
    (hsplit : joinText deltas = dto.text) (requestedModel : String) (includeUsage : Bool) (created : Json.Number) :
    ∃ client, readOpenAiStream (String.join (openAiStreamLines numberOf requestedModel includeUsage created
        (dto.events deltas))) = some client ∧ client.Reads dto.utterances := by
  refine ⟨_, readOpenAiStream_events numberOf dto deltas requestedModel includeUsage created,
    mapGatewayToolCallsToOpenAi dto.toolCalls, fun _ => rfl, ?_⟩
  show spoken (joinText deltas) ++ _ = _
  rw [hsplit, mapGatewayToolCallsToOpenAi, List.map_map]
  rfl

/-- The text block of a stream, put together; one that stays empty says nothing. -/
theorem textBlocks_read (deltas : List String) : ∃ content,
    (textBlocks deltas).mapM SentBlock.content = some content ∧
      content.flatMap AnthropicContent.utterances = spoken (joinText deltas) := by
  cases deltas with
  | nil => exact ⟨[], rfl, rfl⟩
  | cons delta deltas =>
    have hcontent : SentBlock.content ⟨.text, (delta :: deltas).map .text⟩ =
        some (.text (joinText (delta :: deltas))) := by
      show some (AnthropicContent.text (joinText (((delta :: deltas).map BlockDelta.text).filterMap
        BlockDelta.text?))) = _
      rw [texts_map]
    refine ⟨[.text (joinText (delta :: deltas))], ?_, List.append_nil _⟩
    show [(⟨.text, (delta :: deltas).map .text⟩ : SentBlock)].mapM SentBlock.content = _
    rw [List.mapM_cons, hcontent]
    rfl

/-- In a stream the thinking stands behind the text, and says nothing there either. -/
theorem anthropic_stream_reads {dto : ChatResponseDto} {deltas : List String} (harguments : ObjectArguments dto)
    (hsplit : joinText deltas = dto.text) (requestedModel : String) :
    ∃ reply, readAnthropicStream (String.join (anthropicStreamLines requestedModel (dto.events deltas))) = some reply ∧
      reply.utterances = dto.utterances := by
  obtain ⟨content, htext, hspoken⟩ := textBlocks_read deltas
  have hblocks : (streamedMessage requestedModel dto.id deltas dto.doneEvent).blocks.mapM SentBlock.content =
      some (content ++ (thinkingContents dto ++ mapGatewayToolCallsToAnthropic dto.toolCalls)) :=
    mapM_append_some htext (mapM_append_some (content_thinkingBlocks dto) (content_toolBlocks harguments))
  have hread : readAnthropicStream (String.join (anthropicStreamLines requestedModel (dto.events deltas))) =
      (streamedMessage requestedModel dto.id deltas dto.doneEvent).reply := by
    unfold readAnthropicStream anthropicStreamLines ChatResponseDto.events
    rw [decodeStream_render, emit_stream, Option.bind_some, readStreamed_events, Option.bind_some]
  rw [hread, StreamedMessage.reply, hblocks]
  refine ⟨_, rfl, ?_⟩
  unfold AnthropicReply.utterances ChatResponseDto.utterances
  rw [List.flatMap_append, List.flatMap_append, hspoken, anthropic_thinking, anthropic_calls, hsplit, List.nil_append]

/-- The answers to a request that is not streamed, on the three surfaces. -/
structure AnswersSay (dto : ChatResponseDto) (said : List Utterance) : Prop where
  native : dto.utterances = said
  openAi : ∀ requestedModel created, (mapChatResponseToOpenAi dto requestedModel created).message.utterances = said
  anthropic : ∀ requestedModel, (mapGatewayResponseToAnthropicFormat dto requestedModel).utterances = said

/-- What the clients of the two facades put together of a stream. -/
structure StreamsSay (events : List SseEvent) (said : List Utterance) : Prop where
  openAi : ∀ numberOf requestedModel includeUsage created,
    ∃ client, readOpenAiStream (String.join (openAiStreamLines numberOf requestedModel includeUsage created
      events)) = some client ∧ client.Reads said
  anthropic : ∀ requestedModel,
    ∃ reply, readAnthropicStream (String.join (anthropicStreamLines requestedModel events)) = some reply ∧
      reply.utterances = said

theorem answers_say (dto : ChatResponseDto) : AnswersSay dto dto.utterances :=
  ⟨rfl, openAi_utterances dto, anthropic_utterances dto⟩

theorem streams_say {dto : ChatResponseDto} {deltas : List String} (harguments : ObjectArguments dto)
    (hsplit : joinText deltas = dto.text) : StreamsSay (dto.events deltas) dto.utterances :=
  ⟨fun numberOf requestedModel includeUsage created =>
    openAi_stream_reads numberOf dto hsplit requestedModel includeUsage created,
    anthropic_stream_reads harguments hsplit⟩

end Facade

open Facade in
/-- Whatever provider has replied: every client is told what the model said, of an answer in one
piece and of a stream. -/
theorem model_reply_kept (u : Upstream) (tools : Bool) (response : ProviderChatResponse)
    (hresponse : u.complete tools = some response)
    (hasked : tools = true ∨ ∀ said ∈ u.utterances, said.isCall = false) :
    (∀ providerName modelAlias requestId conversationId effectiveModelAlias warnings responseId totalTokens,
      AnswersSay (toChatResponseDto (buildChatResponse response.toProviderResponse providerName modelAlias requestId
        conversationId effectiveModelAlias warnings responseId) totalTokens) u.utterances) ∧
    ∀ (stream : StreamResult) (final : StreamFinal), stream.Agrees response → stream.final = some final →
      (∀ call ∈ response.toolCalls, ∃ members, Json.parse call.arguments = some (.obj members)) →
      ∀ (i : StreamInput) (leg : Leg),
        StreamsSay (([.metaEvent (i.metaData leg)] ++ stream.textStream.map .delta ++
          [.done (buildStreamDoneEvent final (i.warnings leg) (i.effectiveAlias leg))] :
            List AiGateway.SseEvent).map ofSseEvent) u.utterances := by
  have hsaid := upstream_utterances hresponse hasked
  constructor
  · intro providerName modelAlias requestId conversationId effectiveModelAlias warnings responseId totalTokens
    have hutterances : (toChatResponseDto (buildChatResponse response.toProviderResponse providerName modelAlias
        requestId conversationId effectiveModelAlias warnings responseId) totalTokens).utterances = u.utterances := by
      rw [← hsaid, ChatResponseDto.utterances, toChatResponseDto_toolCalls]
      rfl
    rw [← hutterances]
    exact answers_say _
  · intro stream final hagrees hfinal hobjects i leg
    obtain ⟨htext, final', hfinal', hcalls, -⟩ := hagrees
    obtain rfl : final' = final := Option.some.inj (hfinal'.symm.trans hfinal)
    -- the stream is that of the response which is stored of it
    rw [live_events]
    have hutterances : (toChatResponseDto (storedResponse i leg (joinText stream.textStream) final')
        (buildStreamDoneEvent final' (i.warnings leg) (i.effectiveAlias leg)).totalTokens).utterances =
          u.utterances := by
      rw [← hsaid, ChatResponseDto.utterances, toChatResponseDto_toolCalls]
      show spoken (joinText stream.textStream) ++ final'.toolCalls.map _ = spoken response.text ++ _
      rw [htext, hcalls]
    rw [← hutterances]
    apply streams_say
    · intro call hcall
      rw [toChatResponseDto_toolCalls] at hcall
      exact hobjects call (hcalls ▸ hcall)
    · rfl

/-- A message with a text and a call. -/
def weatherReply : Anthropic.Message where
  content := [.text "Let me look.", .toolUse "toolu_1" "get_weather" (some (.obj [("city", .str "Oslo")]))]
  stopReason := some .toolUse
  model := "claude-sonnet"
  usage := ⟨zeroTokens, zeroTokens, none, none⟩

def weatherStream : Anthropic.MessageStream := ⟨[.textDelta "Let me ", .textDelta "look."], false, some weatherReply⟩

theorem weather_call_object : ∀ call ∈ (Anthropic.complete true weatherReply).toolCalls,
    ∃ members, Json.parse call.arguments = some (.obj members) := by
  intro call hcall
  obtain rfl := List.mem_singleton.mp hcall
  exact ⟨_, Json.parse_stringify (.obj [("city", .str "Oslo")])⟩

open Facade in
/-- Said to a client that does not stream, and to one that does. -/
theorem model_reply_kept_weather :
    (mapGatewayResponseToAnthropicFormat (toChatResponseDto (buildChatResponse
        (Anthropic.complete true weatherReply).toProviderResponse "anthropic" "chat" "req_1" "conv_1" none [] "gw_1")
        none) "chat").utterances =
      [.assistant "Let me look.", .call "toolu_1" "get_weather" (.obj [("city", .str "Oslo")])] ∧
    ∃ final, StreamsSay (([.metaEvent (plainStream.metaData .primary)] ++ ["Let me ", "look."].map .delta ++
        [.done (buildStreamDoneEvent final [] none)] : List AiGateway.SseEvent).map ofSseEvent)
      [.assistant "Let me look.", .call "toolu_1" "get_weather" (.obj [("city", .str "Oslo")])] := by
  obtain ⟨hanswers, hstreams⟩ := model_reply_kept (.anthropic weatherReply) true _ rfl (.inl rfl)
  refine ⟨(hanswers "anthropic" "chat" "req_1" "conv_1" none [] "gw_1" none).anthropic "chat", _,
    hstreams (Anthropic.stream weatherStream) _ ?_ rfl weather_call_object plainStream .primary⟩
  exact Anthropic.stream_agrees weatherReply weatherStream rfl rfl (by decide)

end AiGateway
