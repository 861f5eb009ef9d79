import AiGateway.Providers.Interface

/- `createGoogleProvider`: how a `GenerateContentResponse`, whole or in chunks, becomes the
   gateway's answer. `text` and `functionCalls` are getters of the SDK, taken as fields; the
   finish reason of the candidate is a field that nothing here reads. -/
namespace AiGateway.Google

/-- `FinishReason` of a candidate. -/
inductive CandidateFinishReason where
  | unspecified | stop | maxTokens
  | safety | recitation | blocklist | prohibitedContent | spii | imageSafety
  | language | malformedFunctionCall
  | other (word : String)
  deriving DecidableEq, Repr

structure FunctionCall where
  id : Option String
  name : Option String
  args : Option Json.Value

/-- `thoughts`, `thinkingContent`: a text or a list of texts. -/
inductive Thoughts where
  | one (text : String)
  | many (texts : List String)

structure Part where
  thought : Bool
  text : Option String

structure UsageMetadata where
  promptTokenCount : Option Json.Number
  candidatesTokenCount : Option Json.Number

/-- `parts` and `finishReason` are those of the first candidate. -/
structure GenerateContentResponse where
  text : Option String
  functionCalls : Option (List FunctionCall)
  thoughts : Option Thoughts
  thinkingContent : Option Thoughts
  parts : Option (List Part)
  finishReason : Option CandidateFinishReason
  modelVersion : Option String
  usageMetadata : Option UsageMetadata

/-- What the adapter reads of the call: the model and `options.thinkingEnabled`. -/
structure Call where
  modelId : String
  thinkingEnabled : Option Bool

/-- `options?.thinkingEnabled && modelId.startsWith('gemini-3')`. -/
def Call.thinks (c : Call) : Bool := c.thinkingEnabled = some true && JsString.startsWith c.modelId "gemini-3"

def normalizeThoughtValue : Thoughts → String
  | .one text => text
  | .many texts => String.intercalate "\n" texts

def extractFromLegacyFields (r : GenerateContentResponse) : Option String :=
  match r.thoughts.or r.thinkingContent with
  | none | some (.one "") => none
  | some raw => some (normalizeThoughtValue raw)

def extractFromThoughtParts (parts : Option (List Part)) : Option String :=
  match (parts.getD []).filterMap fun p => if p.thought then p.text else none with
  | [] => none
  | texts => some (String.intercalate "\n" texts)

def extractGeminiThinkingContent (r : GenerateContentResponse) : Option String :=
  (JsString.truthy (extractFromLegacyFields r)).or (extractFromThoughtParts r.parts)

/-- A function call without a name is skipped. -/
def FunctionCall.toolCall? (f : FunctionCall) : Option GatewayToolCall :=
  (JsString.truthy f.name).map fun name =>
    ⟨f.id.getD ("call_" ++ name), name, Json.stringify (f.args.getD (.obj []))⟩

def GenerateContentResponse.toolCalls (r : GenerateContentResponse) : List GatewayToolCall :=
  (r.functionCalls.getD []).filterMap FunctionCall.toolCall?

def UsageMetadata.providerUsage (u : UsageMetadata) : CachedUsage :=
  ⟨tokensOr0 u.promptTokenCount, tokensOr0 u.candidatesTokenCount⟩

def parseGeminiResponseWithTools (r : GenerateContentResponse) (modelId : String) : ProviderChatResponse where
  text := r.text.getD ""
  toolCalls := r.toolCalls
  stopReason := some (if r.toolCalls.isEmpty then .endTurn else .toolUse)
  model := r.modelVersion.getD modelId
  usage := r.usageMetadata.map UsageMetadata.providerUsage
  usageDetails := none
  systemFingerprint := none
  thinkingContent := none

/-- `complete`; without tools neither the function calls nor a stop reason is passed on. -/
def complete (tools : Bool) (c : Call) (r : GenerateContentResponse) : ProviderChatResponse :=
  let thinkingContent := if c.thinks then JsString.truthy (extractGeminiThinkingContent r) else none
  if tools then { parseGeminiResponseWithTools r c.modelId with thinkingContent := thinkingContent }
  else
    { text := r.text.getD ""
      toolCalls := []
      stopReason := none
      model := r.modelVersion.getD c.modelId
      usage := r.usageMetadata.map UsageMetadata.providerUsage
      usageDetails := none
      systemFingerprint := none
      thinkingContent := thinkingContent }

/-- The chunks of a stream, and whether it throws after them. -/
structure ContentStream where
  chunks : List GenerateContentResponse
  throws : Bool

def accumulatedThinkingContent (c : Call) (chunks : List GenerateContentResponse) : List String :=
  if c.thinks then chunks.filterMap fun r => JsString.truthy (extractGeminiThinkingContent r) else []

def getThinkingContent (c : Call) (chunks : List GenerateContentResponse) : Option String :=
  match accumulatedThinkingContent c chunks with
  | [] => none
  | texts => some (String.intercalate "\n" texts)

/-- Only `lastChunk` is asked for the tool calls, the stop reason and the usage. -/
def stream (c : Call) (s : ContentStream) : StreamResult where
  textStream := s.chunks.filterMap fun r => JsString.truthy r.text
  final :=
    if s.throws then none
    else
      let parsed := s.chunks.getLast?.map fun r => parseGeminiResponseWithTools r c.modelId
      some (streamFinal (parsed.bind ProviderChatResponse.usage) (parsed.map ProviderChatResponse.toolCalls)
        (parsed.bind ProviderChatResponse.stopReason) none (getThinkingContent c s.chunks) none)

/-! ## The ends that are reported -/

theorem complete_finish (c : Call) (r : GenerateContentResponse) :
    mapStopReasonToFinishReason (complete false c r).stopReason (complete false c r).toolCalls = .stop := rfl

/-- A stream counts as finished unless its last chunk calls a function. -/
theorem stream_finish {c : Call} {s : ContentStream} {f : StreamFinal} (h : (stream c s).final = some f) :
    mapStopReasonToFinishReason f.stopReason f.toolCalls = .stop ↔
      ∀ r, s.chunks.getLast? = some r → r.toolCalls = [] := by
  unfold stream at h
  split at h
  · cases h
  · obtain rfl := Option.some.inj h
    cases hlast : s.chunks.getLast? with
    | none => simp [streamFinal, mapStopReasonToFinishReason]
    | some r => cases hcalls : r.toolCalls <;>
        simp [streamFinal, parseGeminiResponseWithTools, hcalls, mapStopReasonToFinishReason]

end AiGateway.Google
