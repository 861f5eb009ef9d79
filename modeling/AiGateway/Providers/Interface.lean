import AiGateway.Chat.Response

/- `AIProvider`, as the chat service sees it: what `complete` resolves with, and what
   `streamOnce` reads of the `StreamResult` of `stream`. -/
namespace AiGateway

structure ProviderChatResponse where
  text : String
  toolCalls : List GatewayToolCall
  stopReason : Option StopReason
  model : String
  usage : Option CachedUsage
  usageDetails : Option ProviderUsageDetails
  systemFingerprint : Option String
  thinkingContent : Option String
  deriving DecidableEq

/-- The argument of `buildChatResponse` in `completeChatAndStore`. -/
def ProviderChatResponse.toProviderResponse (r : ProviderChatResponse) : ProviderResponse where
  text := r.text
  usage := r.usage.map fun u => ⟨some u.inputTokens, some u.outputTokens⟩
  toolCalls := r.toolCalls
  stopReason := r.stopReason
  usageDetails := r.usageDetails
  systemFingerprint := r.systemFingerprint
  thinkingContent := r.thinkingContent

/-- A stream read to its end: the texts that `textStream` yields, and what the getters give
then; `none` when `textStream` or an awaited getter throws. -/
structure StreamResult where
  textStream : List String
  final : Option StreamFinal

/-- What `streamOnce` keeps of the getters: an empty text or list like an absent one. -/
def streamFinal (usage : Option CachedUsage) (toolCalls : Option (List GatewayToolCall))
    (stopReason : Option StopReason) (systemFingerprint thinkingContent : Option String)
    (usageDetails : Option ProviderUsageDetails) : StreamFinal where
  usage := usage
  toolCalls := toolCalls.getD []
  stopReason := stopReason
  systemFingerprint := JsString.truthy systemFingerprint
  thinkingContent := JsString.truthy thinkingContent
  usageDetails := usageDetails

/-- A stream read to its end gives what `complete` resolves with. -/
structure StreamResult.Agrees (result : StreamResult) (response : ProviderChatResponse) : Prop where
  text : joinText result.textStream = response.text
  final : ∃ final, result.final = some final ∧ final.toolCalls = response.toolCalls ∧
    final.stopReason = response.stopReason ∧ final.usage = response.usage ∧
    final.usageDetails = response.usageDetails ∧ final.systemFingerprint = response.systemFingerprint ∧
    final.thinkingContent = response.thinkingContent

/-- `x ?? 0` of a token count. -/
def tokensOr0 (n : Option Json.Number) : Json.Number := n.getD zeroTokens

/-- `text || '{}'`. -/
def orEmptyObject (text : String) : String := if text = "" then "{}" else text

end AiGateway
