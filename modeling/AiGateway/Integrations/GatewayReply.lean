import AiGateway.Chat.CachedAnswer

/- What the facades are given to answer with: a finished response, or the events of a stream.
   Of each only what their mappers read; an absent list of tool calls is the empty list.

   `live_events`: the stream of an attempt is the stream of the response that is built of it. -/
namespace AiGateway.Facade

/-- `SseFinishReason`, and the values of `ChatResponseDto.finishReason`. -/
inductive SseFinishReason where
  | endTurn | toolUse | maxTokens | stopSequence | pauseTurn | refusal | toolCalls | stop | length | contentFilter
  deriving DecidableEq, Repr

def SseFinishReason.ofGateway : FinishReason → SseFinishReason
  | .stop => .stop
  | .toolCalls => .toolCalls
  | .length => .length
  | .contentFilter => .contentFilter

/-- `SseDoneEvent`; `totalTokens` belongs to the usage. -/
structure SseDoneEvent where
  usage : Option ChatUsage
  totalTokens : Option ℚ
  toolCalls : List GatewayToolCall
  finishReason : Option SseFinishReason
  usageDetails : Option ProviderUsageDetails
  systemFingerprint : Option String
  thinkingContent : Option String
  deriving DecidableEq

inductive SseEvent where
  | metaEvent (id : String)
  | delta (text : String)
  | done (data : SseDoneEvent)
  deriving DecidableEq

/-- A `ChatResponseDto`, as the mappers read it. -/
structure ChatResponseDto where
  id : String
  text : String
  usage : Option ChatUsage
  totalTokens : Option ℚ
  toolCalls : List GatewayToolCall
  finishReason : Option SseFinishReason
  usageDetails : Option ProviderUsageDetails
  systemFingerprint : Option String
  thinkingContent : Option String
  deriving DecidableEq

/-- The last event of the stream of a result. -/
def ChatResponseDto.doneEvent (result : ChatResponseDto) : SseDoneEvent where
  usage := result.usage
  totalTokens := result.totalTokens
  toolCalls := result.toolCalls
  finishReason := result.finishReason
  usageDetails := result.usageDetails
  systemFingerprint := result.systemFingerprint
  thinkingContent := result.thinkingContent

/-- The stream of a result whose text is cut into `deltas`. -/
def ChatResponseDto.events (result : ChatResponseDto) (deltas : List String) : List SseEvent :=
  .metaEvent result.id :: (deltas.map .delta ++ [.done result.doneEvent])

/-! ## From the chat service -/

/-- What the mappers read of an answer, live or from a cache. -/
def ofChatResponseDto (dto : JsonChat.ChatResponseDto) : ChatResponseDto where
  id := dto.id
  text := dto.text
  usage := dto.usage.map fun u => ⟨u.inputTokens, u.outputTokens⟩
  totalTokens := dto.usage.bind JsonChat.ChatUsageDto.totalTokens
  toolCalls := dto.toolCalls
  finishReason := dto.finishReason.map .ofGateway
  usageDetails := dto.usageDetails
  systemFingerprint := dto.systemFingerprint
  thinkingContent := dto.thinkingContent

def toChatResponseDto (data : ChatResponseData) (totalTokens : Option ℚ) : ChatResponseDto :=
  ofChatResponseDto (JsonChat.toChatResponseDto ⟨data, totalTokens⟩)

@[simp] theorem toChatResponseDto_toolCalls (data : ChatResponseData) (totalTokens : Option ℚ) :
    (toChatResponseDto data totalTokens).toolCalls = data.toolCalls := List.map_id _

def ofSseDone (done : SseDone) : SseDoneEvent where
  usage := done.usage.map fun u => ⟨some u.inputTokens, some u.outputTokens⟩
  totalTokens := done.totalTokens
  toolCalls := done.toolCalls
  finishReason := some (.ofGateway done.finishReason)
  usageDetails := done.usageDetails
  systemFingerprint := done.systemFingerprint
  thinkingContent := done.thinkingContent

def ofSseEvent : AiGateway.SseEvent → SseEvent
  | .metaEvent data => .metaEvent data.id
  | .delta text => .delta text
  | .done data => .done (ofSseDone data)

/-- The events that `executeStreamMiss` emits for an attempt, and the response that it stores. -/
theorem live_events (i : StreamInput) (leg : Leg) (deltas : List String) (f : StreamFinal) :
    (([.metaEvent (i.metaData leg)] ++ deltas.map .delta ++
        [.done (buildStreamDoneEvent f (i.warnings leg) (i.effectiveAlias leg))] :
          List AiGateway.SseEvent).map ofSseEvent) =
      (toChatResponseDto (storedResponse i leg (joinText deltas) f)
        (buildStreamDoneEvent f (i.warnings leg) (i.effectiveAlias leg)).totalTokens).events deltas := by
  have hcalls : f.toolCalls.map JsonChat.toGatewayToolCallDto = f.toolCalls := List.map_id _
  cases husage : f.usage <;>
    simp [ChatResponseDto.events, ofSseEvent, ofSseDone, toChatResponseDto, ofChatResponseDto, JsonChat.toChatResponseDto,
      storedResponse, buildChatResponse, buildStreamDoneEvent, StreamFinal.toProviderResponse, StreamInput.metaData,
      ChatResponseDto.doneEvent, hcalls, husage, Function.comp_def]

/-! ## A mapper over a stream -/

/-- `emit` over the events of a stream: what the mapper of a facade returns, its state kept from
one event to the next. -/
def emitAll {σ ρ : Type} (mapEvent : SseEvent → σ → σ × List ρ) : σ → List SseEvent → List ρ
  | _, [] => []
  | state, event :: events => (mapEvent event state).2 ++ emitAll mapEvent (mapEvent event state).1 events

/-- The state that the events leave. -/
def stateAfter {σ ρ : Type} (mapEvent : SseEvent → σ → σ × List ρ) : σ → List SseEvent → σ
  | state, [] => state
  | state, event :: events => stateAfter mapEvent (mapEvent event state).1 events

theorem emitAll_append {σ ρ : Type} (mapEvent : SseEvent → σ → σ × List ρ) (state : σ) (xs ys : List SseEvent) :
    emitAll mapEvent state (xs ++ ys) =
      emitAll mapEvent state xs ++ emitAll mapEvent (stateAfter mapEvent state xs) ys := by
  induction xs generalizing state with
  | nil => rfl
  | cons x xs ih =>
    calc emitAll mapEvent state (x :: xs ++ ys)
        = (mapEvent x state).2 ++ emitAll mapEvent (mapEvent x state).1 (xs ++ ys) := rfl
      _ = (mapEvent x state).2 ++ (emitAll mapEvent (mapEvent x state).1 xs ++
            emitAll mapEvent (stateAfter mapEvent (mapEvent x state).1 xs) ys) := by rw [ih]
      _ = emitAll mapEvent state (x :: xs) ++ emitAll mapEvent (stateAfter mapEvent state (x :: xs)) ys := by
          rw [← List.append_assoc]
          rfl

/-- Deltas that leave the state alone are mapped one by one. -/
theorem emitAll_steady {σ ρ : Type} {mapEvent : SseEvent → σ → σ × List ρ} {state : σ} {line : String → ρ}
    (hstep : ∀ text, mapEvent (.delta text) state = (state, [line text])) (deltas : List String) :
    emitAll mapEvent state (deltas.map .delta) = deltas.map line ∧
      stateAfter mapEvent state (deltas.map .delta) = state := by
  induction deltas with
  | nil => exact ⟨rfl, rfl⟩
  | cons text deltas ih =>
    rw [List.map_cons, emitAll, stateAfter, hstep, ih.1, ih.2]
    exact ⟨rfl, rfl⟩

end AiGateway.Facade
