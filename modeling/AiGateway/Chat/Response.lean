import AiGateway.Cache.CachedReply
import AiGateway.Cache.Identity

/- From a provider's answer to the gateway's: `mapStopReasonToFinishReason`,
   `ChatResponseBuilderService`, and what the caches keep of a response
   (`shouldStoreChatResponse`, `toCachedChatResponse`). An absent list of tool calls is the
   empty list, since every reader tests `?.length`. -/
namespace AiGateway

/-- `ProviderChatResponse['stopReason']`. -/
inductive StopReason where
  | endTurn | toolUse | maxTokens | stopSequence | pauseTurn | refusal
  | toolCalls | stop | length | contentFilter | insufficientSystemResource
  deriving DecidableEq, Repr

def mapStopReasonToFinishReason (stopReason : Option StopReason) (toolCalls : List GatewayToolCall) :
    FinishReason :=
  match stopReason with
  | some .maxTokens | some .length => .length
  | _ =>
    if !toolCalls.isEmpty then .toolCalls
    else match stopReason with
      | some .toolUse | some .toolCalls => .toolCalls
      | some .contentFilter | some .refusal => .contentFilter
      | _ => .stop

structure ChatUsage where
  inputTokens : Option Json.Number
  outputTokens : Option Json.Number
  deriving DecidableEq

/-- `ProviderResponse`: what the builder reads of a provider's answer. -/
structure ProviderResponse where
  text : String
  usage : Option ChatUsage
  toolCalls : List GatewayToolCall
  stopReason : Option StopReason
  usageDetails : Option ProviderUsageDetails
  systemFingerprint : Option String
  thinkingContent : Option String
  deriving DecidableEq

/-- The text that its chunks add up to. -/
def joinText : List String → String
  | [] => ""
  | t :: ts => t ++ joinText ts

theorem joinText_append (xs ys : List String) : joinText (xs ++ ys) = joinText xs ++ joinText ys := by
  induction xs with
  | nil => simp [joinText]
  | cons x xs ih => simp [joinText, ih, String.append_assoc]

theorem joinText_truthy (texts : List String) :
    joinText (texts.filterMap fun text => JsString.truthy (some text)) = joinText texts := by
  induction texts with
  | nil => rfl
  | cons text texts ih =>
    by_cases htext : text = ""
    · rw [List.filterMap_cons_none (by simp [JsString.truthy_some, htext]), ih, htext]
      simp [joinText]
    · rw [List.filterMap_cons_some (b := text) (by simp [JsString.truthy_some, htext])]
      show text ++ joinText _ = text ++ joinText texts
      rw [ih]

theorem joinText_eq_empty {texts : List String} : joinText texts = "" ↔ ∀ text ∈ texts, text = "" := by
  induction texts with
  | nil => simp [joinText]
  | cons text texts ih => rw [joinText, String.append_eq_empty_iff, ih, List.forall_mem_cons]

theorem joinText_eq_empty_iff_nil {texts : List String} (h : ∀ text ∈ texts, text ≠ "") :
    joinText texts = "" ↔ texts = [] := by
  cases texts with
  | nil => simp [joinText]
  | cons text texts =>
    have htext := h text List.mem_cons_self
    simp [joinText, htext]

/-- What an attempt has besides its text when `streamOnce` resolves. -/
structure StreamFinal where
  usage : Option CachedUsage
  toolCalls : List GatewayToolCall
  stopReason : Option StopReason
  systemFingerprint : Option String
  thinkingContent : Option String
  usageDetails : Option ProviderUsageDetails
  deriving DecidableEq

/-- The argument of `buildChatResponse` in `executeStreamMiss`. -/
def StreamFinal.toProviderResponse (f : StreamFinal) (assembledText : String) : ProviderResponse where
  text := assembledText
  usage := f.usage.map fun u => ⟨some u.inputTokens, some u.outputTokens⟩
  toolCalls := f.toolCalls
  stopReason := f.stopReason
  usageDetails := f.usageDetails
  systemFingerprint := f.systemFingerprint
  thinkingContent := f.thinkingContent

structure ChatResponseData where
  id : String
  provider : String
  model : String
  effectiveModelAlias : Option String
  text : String
  usage : Option ChatUsage
  requestId : String
  conversationId : String
  toolCalls : List GatewayToolCall
  finishReason : FinishReason
  usageDetails : Option ProviderUsageDetails
  systemFingerprint : Option String
  thinkingContent : Option String
  warnings : List CachedChatWarning
  deriving DecidableEq

/-- `buildChatResponse`; `warnings` is what `buildGenerationWarnings` found. -/
def buildChatResponse (response : ProviderResponse) (providerName modelAlias requestId conversationId : String)
    (effectiveModelAlias : Option String) (warnings : List CachedChatWarning) (responseId : String) :
    ChatResponseData where
  id := responseId
  provider := providerName
  model := modelAlias
  effectiveModelAlias := JsString.truthy effectiveModelAlias
  text := response.text
  usage := response.usage
  requestId := requestId
  conversationId := conversationId
  toolCalls := response.toolCalls
  finishReason := mapStopReasonToFinishReason response.stopReason response.toolCalls
  usageDetails := response.usageDetails
  systemFingerprint := JsString.truthy response.systemFingerprint
  thinkingContent := JsString.truthy response.thinkingContent
  warnings := warnings

def shouldStoreChatResponse (r : ChatResponseData) : Bool :=
  r.finishReason = .stop && (JsString.trim r.text).length ≠ 0 && r.toolCalls.isEmpty

def zeroTokens : Json.Number := ⟨['0'], by decide⟩

/-- `toCachedChatResponse` at the time `cachedAt`. -/
def toCachedChatResponse (r : ChatResponseData) (cachedAt : String) : CachedChatResponse where
  id := r.id
  provider := r.provider
  model := r.model
  text := r.text
  finishReason := r.finishReason
  usage := r.usage.map fun u => ⟨u.inputTokens.getD zeroTokens, u.outputTokens.getD zeroTokens⟩
  warnings := if r.warnings.isEmpty then none else some r.warnings
  thinkingContent := JsString.truthy r.thinkingContent
  effectiveModelAlias := JsString.truthy r.effectiveModelAlias
  usageDetails := r.usageDetails
  systemFingerprint := JsString.truthy r.systemFingerprint
  cachedAt := cachedAt

/-- What is stored can be served: the gates of the two sides agree. -/
theorem shouldStore_servable {r : ChatResponseData} (cachedAt : String) (h : shouldStoreChatResponse r = true) :
    isUnservableCachedReply (toCachedChatResponse r cachedAt) = false := by
  simp only [shouldStoreChatResponse, Bool.and_eq_true, decide_eq_true_eq] at h
  simp [isUnservableCachedReply, toCachedChatResponse, h.1.1, h.1.2]

/-- The finish reason is `stop` exactly without tool calls and with a stop reason that is
absent or one of the five that end a turn. -/
theorem mapStopReason_eq_stop {stopReason : Option StopReason} {toolCalls : List GatewayToolCall} :
    mapStopReasonToFinishReason stopReason toolCalls = .stop ↔
      toolCalls = [] ∧ ∀ r, stopReason = some r → r ∈ [StopReason.endTurn, .stopSequence, .pauseTurn,
        .stop, .insufficientSystemResource] := by
  cases stopReason with
  | none => cases toolCalls <;> simp [mapStopReasonToFinishReason]
  | some r => cases r <;> cases toolCalls <;> simp [mapStopReasonToFinishReason]

end AiGateway
