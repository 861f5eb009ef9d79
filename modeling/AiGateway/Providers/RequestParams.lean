import AiGateway.Chat.CallOptions
import AiGateway.Providers.GoogleTools
import AiGateway.Providers.TurnHistory

/- What a provider is sent for a call: the input and the call options mapped to the parameters of
   four APIs, for a completion and for a stream. Numbers are sent as values, so that two texts
   of one number are one parameter.

   `tools_kept`: the tools that are offered and the choice among them arrive at each provider,
   without tools no choice is sent, and a stream is asked for with what a completion is asked
   for with. -/
namespace AiGateway

open Json (Value)

/-- `mapStopSequences`, which three files have. -/
def mapStopSequences : Option StopParam → Option (List String)
  | none => none
  | some (.one stop) => some [stop]
  | some (.many stops) => some stops

/-- `options?.responseFormat?.type === type`. -/
def responseFormatIs (options : ProviderCallOptions) (type : String) : Bool :=
  Json.isText (Json.prop options.responseFormat "type") type

/-- `options?.responseFormat?.jsonSchema`. -/
def responseSchema (options : ProviderCallOptions) : Option Value := Json.prop options.responseFormat "jsonSchema"

/-! ## Tools -/

/-- A tool as it is sent; `schema` stands under a key of its own in each API. -/
structure SentTool where
  name : Option Value
  description : Option Value
  schema : Option Value

/-- The part that the four mappers have in common. -/
def mapTool (tool : Value) (schema : Option Value) : SentTool where
  name := tool.get? "name"
  description := (tool.get? "description").filter Value.truthy
  schema := schema

/-- `{ type: 'object', properties: parameters }`. -/
def schemaOfProperties (parameters : Option Value) : Value :=
  .obj (("type", .str "object") :: (parameters.map fun p => ("properties", p)).toList)

def toInputSchema (parameters : Option Value) : Value :=
  match parameters with
  | some schema =>
    if schema.isObject && Json.isText (schema.get? "type") "object" then schema else schemaOfProperties parameters
  | none => schemaOfProperties none

/-- Unlike `toInputSchema` it reads `type` of whatever there is. -/
def toParametersSchema (parameters : Option Value) : Except ThrownError Value :=
  match parameters with
  | none => .error (cannotRead "undefined" "type")
  | some .null => .error (cannotRead "null" "type")
  | some schema => .ok (if Json.isText (schema.get? "type") "object" then schema else schemaOfProperties parameters)

def mapToolsToAnthropic (tools : List Value) : List SentTool :=
  tools.map fun tool => mapTool tool (some (toInputSchema (tool.get? "parameters")))

def mapToolsToGemini (tools : List Value) : Except ThrownError (List SentTool) :=
  let mapOne (tool : Value) : Except ThrownError SentTool := do
    let schema ← toParametersSchema (tool.get? "parameters")
    .ok (mapTool tool (some schema))
  Fallible.collect mapOne tools

def mapToolsToOpenAi (tools : List Value) : List SentTool := tools.map fun tool => mapTool tool (tool.get? "parameters")

def mapToolsToResponses (tools : List Value) : List SentTool := tools.map fun tool => mapTool tool (tool.get? "parameters")

/-- `choice.function.name` of a choice of type `function`. -/
def functionChoice (choice : Value) : Option (Option Value) :=
  if choice.isObject && Json.isText (choice.get? "type") "function" then some (Json.prop (choice.get? "function") "name")
  else none

/-- `Anthropic.ToolChoice`. -/
inductive AnthropicToolChoice where
  | auto | none | any
  | tool (name : Option Value)

def mapToolChoiceToAnthropic : Option Value → Option AnthropicToolChoice
  | none => none
  | some choice =>
    if Json.isText choice "auto" then some .auto
    else if Json.isText choice "none" then some .none
    else if Json.isText choice "required" then some .any
    else (functionChoice choice).map .tool

/-- The choice of both OpenAI APIs. -/
inductive OpenAiToolChoiceOption where
  | auto | none | required
  | function (name : Option Value)

/-- `mapToolChoiceToOpenAi` and `mapToolChoiceToResponses`. -/
def openAiToolChoice : Option Value → Option OpenAiToolChoiceOption
  | none => none
  | some choice =>
    if Json.isText choice "auto" then some .auto
    else if Json.isText choice "none" then some .none
    else if Json.isText choice "required" then some .required
    else (functionChoice choice).map .function

def mapToolChoiceToOpenAi (choice : Option Value) : Option OpenAiToolChoiceOption := openAiToolChoice choice

def mapToolChoiceToResponses (choice : Option Value) : Option OpenAiToolChoiceOption := openAiToolChoice choice

inductive FunctionCallingConfigMode where
  | auto | any | none
  deriving DecidableEq, Repr

structure FunctionCallingConfig where
  mode : FunctionCallingConfigMode
  allowedFunctionNames : Option (List (Option Value))

def mapToolChoiceToGemini : Option Value → Option FunctionCallingConfig
  | none => none
  | some choice =>
    if Json.isText choice "none" then some ⟨.none, none⟩
    else if Json.isText choice "required" then some ⟨.any, none⟩
    else
      match functionChoice choice with
      | some name => some ⟨.any, some [name]⟩
      | none => some ⟨.auto, none⟩

/-- Tools with the choice among them: sent together, or not at all. -/
structure SentTools (χ : Type) where
  tools : List SentTool
  toolChoice : Option χ

def ProviderChatInput.sentTools {χ : Type} (input : ProviderChatInput) (mapTools : List Value → List SentTool)
    (mapChoice : Option Value → Option χ) : Option (SentTools χ) :=
  match input.tools with
  | some (tool :: tools) => some ⟨mapTools (tool :: tools), mapChoice input.toolChoice⟩
  | _ => none

/-! ## Anthropic -/

namespace Anthropic

structure SamplingParams where
  temperature : Option ℚ
  topP : Option ℚ
  topK : Option ℚ
  deriving DecidableEq

/-- At most one of the three is sent. -/
def resolveAnthropicSamplingParams (options : ProviderCallOptions) : SamplingParams :=
  match options.topK, options.topP, options.temperature with
  | some topK, _, _ => ⟨none, none, some topK.value⟩
  | none, some topP, _ => ⟨none, some topP.value, none⟩
  | none, none, some temperature => ⟨some temperature.value, none, none⟩
  | none, none, none => ⟨none, none, none⟩

/-- `display` is `summarized` in both. -/
inductive ThinkingConfigParam where
  | enabled (budgetTokens : ℚ)
  | adaptive
  deriving DecidableEq

/-- `MIN_THINKING_BUDGET_TOKENS`. -/
def minThinkingBudgetTokens : ℚ := 1024

def mapThinkingToAnthropic (options : ProviderCallOptions) : Option ThinkingConfigParam :=
  if options.thinkingEnabled = some true then
    match options.thinkingBudget with
    | some (.tokens budget) => some (.enabled (max minThinkingBudgetTokens budget.value))
    | _ => some .adaptive
  else none

/-- `ANTHROPIC_EFFORT_LEVELS`. -/
def anthropicEffortLevels : List String := ["low", "medium", "high", "xhigh", "max"]

def mapThinkingBudgetToAnthropicEffort : Option ThinkingBudget → Option String
  | some (.effort word) => if word ∈ anthropicEffortLevels then some word else none
  | _ => none

/-- `format` is a `json_schema` with this schema. -/
structure OutputConfig where
  format : Option Value
  effort : Option String

def anyObjectSchema : Value := .obj [("type", .str "object"), ("additionalProperties", .bool true)]

/-- `{}` is not sent. -/
def resolveAnthropicOutputConfig (options : ProviderCallOptions) : Option OutputConfig :=
  let effort := mapThinkingBudgetToAnthropicEffort options.thinkingBudget
  let format :=
    if responseFormatIs options "json_object" then some (Json.orElse (responseSchema options) anyObjectSchema) else none
  if format.isNone && effort.isNone then none else some ⟨format, effort⟩

/-- The parameters that the call options decide. -/
structure CallParams where
  maxTokens : ℚ
  sampling : SamplingParams
  stopSequences : Option (List String)
  outputConfig : Option OutputConfig
  thinking : Option ThinkingConfigParam

def callParams (options : ProviderCallOptions) : CallParams where
  maxTokens := effectiveMaxTokens options.maxOutputTokens
  sampling := resolveAnthropicSamplingParams options
  stopSequences := mapStopSequences options.stop
  outputConfig := resolveAnthropicOutputConfig options
  thinking := mapThinkingToAnthropic options

/-- `user_id` is `String` of this value. -/
structure MessageCreateParams where
  model : String
  params : CallParams
  system : String
  messages : List MessageParam
  userId : Option Value
  tools : Option (SentTools AnthropicToolChoice)
  stream : Bool

/-- What `complete` sends: the base, and the tools if there are any. -/
def completeParams (input : ProviderChatInput) (modelId : String) (options : ProviderCallOptions) :
    MessageCreateParams :=
  let baseParams : MessageCreateParams :=
    { model := modelId, params := callParams options, system := input.system
      messages := mapTurnsToAnthropicMessages input.messages, userId := Json.prop input.metadata "userId"
      tools := none, stream := false }
  match input.tools with
  | some (tool :: tools) =>
    { baseParams with
      tools := some ⟨mapToolsToAnthropic (tool :: tools), mapToolChoiceToAnthropic input.toolChoice⟩ }
  | _ => baseParams

def streamParams (input : ProviderChatInput) (modelId : String) (options : ProviderCallOptions) :
    MessageCreateParams where
  model := modelId
  params := callParams options
  system := input.system
  messages := mapTurnsToAnthropicMessages input.messages
  userId := Json.prop input.metadata "userId"
  tools := input.sentTools mapToolsToAnthropic mapToolChoiceToAnthropic
  stream := true

end Anthropic

/-! ## Gemini -/

namespace Google

inductive ThinkingLevel where
  | minimal | low | medium | high
  deriving DecidableEq, Repr

def mapThinkingBudgetToGeminiLevel (budget : String) : ThinkingLevel :=
  if budget = "none" ∨ budget = "minimal" then .minimal
  else if budget = "low" then .low
  else if budget = "medium" then .medium
  else .high

/-- `includeThoughts` is true. -/
structure ThinkingConfig where
  thinkingBudget : Option ℚ
  thinkingLevel : ThinkingLevel
  deriving DecidableEq

structure GenerationConfig where
  temperature : Option ℚ
  maxOutputTokens : ℚ
  topP : Option ℚ
  topK : Option ℚ
  stopSequences : Option (List String)
  seed : Option ℚ
  jsonMode : Bool
  responseSchema : Option Value
  thinkingConfig : Option ThinkingConfig

def thinkingConfigFor (budget : Option ThinkingBudget) : ThinkingConfig :=
  match budget with
  | some (.tokens n) => ⟨some n.value, .high⟩
  | some (.effort word) => ⟨none, mapThinkingBudgetToGeminiLevel word⟩
  | none => ⟨none, .high⟩

/-- `response_format` is `application/json` in JSON mode. -/
def buildGenerationConfig (options : ProviderCallOptions) (modelId : String) : GenerationConfig where
  temperature := options.temperature.map Json.Number.value
  maxOutputTokens := effectiveMaxTokens options.maxOutputTokens
  topP := options.topP.map Json.Number.value
  topK := options.topK.map Json.Number.value
  stopSequences := mapStopSequences options.stop
  seed := options.seed.map Json.Number.value
  jsonMode := responseFormatIs options "json_object"
  responseSchema := AiGateway.responseSchema options
  thinkingConfig :=
    if options.thinkingEnabled = some true ∧ JsString.startsWith modelId "gemini-3" then
      some (thinkingConfigFor options.thinkingBudget)
    else none

structure GenerateContentParameters where
  model : String
  contents : List Content
  systemInstruction : Option String
  config : GenerationConfig
  tools : Option (SentTools FunctionCallingConfig)

section Request
variable (createPartFromFunctionResponse : String → String → Value → HistoryPart)

def systemInstruction (system : String) : Option String := if JsString.trim system = "" then none else some system

/-- The request, without tools. -/
def baseParams (input : ProviderChatInput) (modelId : String) (options : ProviderCallOptions) :
    GenerateContentParameters where
  model := modelId
  contents := mapTurnsToGeminiContents createPartFromFunctionResponse input.messages
  systemInstruction := systemInstruction input.system
  config := buildGenerationConfig options modelId
  tools := none

def completeParams (input : ProviderChatInput) (modelId : String) (options : ProviderCallOptions) :
    Except ThrownError GenerateContentParameters :=
  match input.tools with
  | some (tool :: tools) => do
    let declarations ← mapToolsToGemini (tool :: tools)
    .ok { baseParams createPartFromFunctionResponse input modelId options with
      tools := some ⟨declarations, mapToolChoiceToGemini input.toolChoice⟩ }
  | _ => .ok (baseParams createPartFromFunctionResponse input modelId options)

def streamedTools (input : ProviderChatInput) : Except ThrownError (Option (SentTools FunctionCallingConfig)) :=
  match input.tools with
  | some (tool :: tools) => do
    let declarations ← mapToolsToGemini (tool :: tools)
    .ok (some ⟨declarations, mapToolChoiceToGemini input.toolChoice⟩)
  | _ => .ok none

def streamParams (input : ProviderChatInput) (modelId : String) (options : ProviderCallOptions) :
    Except ThrownError GenerateContentParameters := do
  let tools ← streamedTools input
  .ok { baseParams createPartFromFunctionResponse input modelId options with tools := tools }

end Request

end Google

/-! ## Chat Completions -/

namespace ChatCompletions

/-- `/^prefix/i`. -/
def startsWithAnyCase (modelId start : String) : Bool :=
  JsString.startsWith (String.ofList (modelId.toList.map Char.toLower)) start

/-- `/^o\d/i`, `/^gpt-5/i`, `/^gpt-4\.1/i`, `/^gpt-4o/i`. -/
def prefersMaxCompletionTokens (modelId : String) : Bool :=
  (match modelId.toList with
    | o :: digit :: _ => o.toLower = 'o' && digit.isDigit
    | _ => false) ||
    startsWithAnyCase modelId "gpt-5" || startsWithAnyCase modelId "gpt-4.1" || startsWithAnyCase modelId "gpt-4o"

inductive MaxTokens where
  | maxTokens (n : ℚ)
  | maxCompletionTokens (n : ℚ)
  deriving DecidableEq

def mapMaxOutputTokensForChatCompletions (modelId : String) (maxOutputTokens : Option Json.Number) : Option MaxTokens :=
  maxOutputTokens.map fun n =>
    if prefersMaxCompletionTokens modelId then .maxCompletionTokens n.value else .maxTokens n.value

inductive SentResponseFormat where
  | jsonObject
  | jsonSchema (name : Value) (schema : Value)

/-- `DEFAULT_JSON_SCHEMA_NAME`. -/
def defaultJsonSchemaName : Value := .str "gateway_response"

/-- `mapResponseFormatToChatCompletion` and `mapResponseFormatToResponses`. -/
def mapResponseFormat (options : ProviderCallOptions) : Option SentResponseFormat :=
  if responseFormatIs options "json_object" then some .jsonObject
  else
    match responseFormatIs options "json_schema", (responseSchema options).filter Value.truthy with
    | true, some schema =>
      some (.jsonSchema (Json.orElse (Json.prop options.responseFormat "jsonSchemaName") defaultJsonSchemaName) schema)
    | _, _ => none

/-- `thinking` is `enabled` or `disabled`. -/
structure CallParams where
  thinking : Bool
  temperature : Option ℚ
  topP : Option ℚ
  frequencyPenalty : Option ℚ
  presencePenalty : Option ℚ
  seed : Option ℚ
  stop : Option (List String)
  responseFormat : Option SentResponseFormat
  maxTokens : Option MaxTokens

def mapCallOptionsToChatCompletionParams (modelId : String) (options : ProviderCallOptions) : CallParams where
  thinking := isOpenAiReasoningRequested options
  temperature := options.temperature.map Json.Number.value
  topP := options.topP.map Json.Number.value
  frequencyPenalty := options.frequencyPenalty.map Json.Number.value
  presencePenalty := options.presencePenalty.map Json.Number.value
  seed := options.seed.map Json.Number.value
  stop := mapStopSequences options.stop
  responseFormat := mapResponseFormat options
  maxTokens := mapMaxOutputTokensForChatCompletions modelId options.maxOutputTokens

structure CreateParams where
  model : String
  messages : List ChatCompletionMessageParam
  params : CallParams
  tools : Option (SentTools OpenAiToolChoiceOption)
  stream : Bool
  includeUsage : Bool

def completeParams (input : ProviderChatInput) (modelId : String) (options : ProviderCallOptions) : CreateParams :=
  let baseParams : CreateParams :=
    { model := modelId, messages := mapTurnsToOpenAiMessages input.messages (some input.system)
      params := mapCallOptionsToChatCompletionParams modelId options, tools := none, stream := false
      includeUsage := false }
  match input.tools with
  | some (tool :: tools) =>
    { baseParams with tools := some ⟨mapToolsToOpenAi (tool :: tools), mapToolChoiceToOpenAi input.toolChoice⟩ }
  | _ => baseParams

/-- `includeStreamUsage` is set for the type `openai-compatible`, the only one that has this adapter. -/
def streamParams (includeStreamUsage : Bool) (input : ProviderChatInput) (modelId : String)
    (options : ProviderCallOptions) : CreateParams where
  model := modelId
  messages := mapTurnsToOpenAiMessages input.messages (some input.system)
  params := mapCallOptionsToChatCompletionParams modelId options
  tools := input.sentTools mapToolsToOpenAi mapToolChoiceToOpenAi
  stream := true
  includeUsage := includeStreamUsage

end ChatCompletions

/-! ## Responses -/

namespace Responses

/-- `OPENAI_EFFORT_LEVELS`. -/
def openAiEffortLevels : List String := ["none", "minimal", "low", "medium", "high", "xhigh"]

def mapThinkingBudgetToEffort : Option ThinkingBudget → Option String
  | some (.effort word) =>
    if word = "max" then some "xhigh" else if word ∈ openAiEffortLevels then some word else none
  | _ => none

/-- The `effort` of `reasoning`; its `summary` is `auto`. -/
def mapThinkingToResponsesReasoning (options : ProviderCallOptions) : Option String :=
  if isOpenAiReasoningRequested options then some ((mapThinkingBudgetToEffort options.thinkingBudget).getD "medium")
  else none

structure CallParams where
  temperature : Option ℚ
  maxOutputTokens : Option ℚ
  topP : Option ℚ
  text : Option ChatCompletions.SentResponseFormat
  parallelToolCalls : Option Bool
  reasoning : Option String

/-- `mapCallOptionsToResponsesParams`, with the reasoning that is added to it. -/
def callParams (options : ProviderCallOptions) : CallParams where
  temperature := options.temperature.map Json.Number.value
  maxOutputTokens := options.maxOutputTokens.map Json.Number.value
  topP := options.topP.map Json.Number.value
  text := ChatCompletions.mapResponseFormat options
  parallelToolCalls := options.parallelToolCalls
  reasoning := mapThinkingToResponsesReasoning options

/-- Each value of `metadata` is sent as its `String`. -/
structure ResponseCreateParams where
  model : String
  instructions : Option String
  input : List ResponseInputItem
  params : CallParams
  metadata : Option (List (String × Value))
  tools : Option (SentTools OpenAiToolChoiceOption)
  stream : Bool

def metadataMembers : Option Value → Option (List (String × Value))
  | some (.obj (member :: members)) => some (member :: members)
  | _ => none

def buildResponsesCreateParams (input : ProviderChatInput) (modelId : String) (options : ProviderCallOptions) :
    ResponseCreateParams where
  model := modelId
  instructions := JsString.truthy (some (JsString.trim input.system))
  input := mapTurnsToResponsesInput input.messages
  params := callParams options
  metadata := metadataMembers input.metadata
  tools := input.sentTools mapToolsToResponses mapToolChoiceToResponses
  stream := false

def streamParams (input : ProviderChatInput) (modelId : String) (options : ProviderCallOptions) : ResponseCreateParams :=
  { buildResponsesCreateParams input modelId options with stream := true }

end Responses

/-! ## A stream asks for the same -/

/-- The tools of a completion, which are looked at in a branch of their own. -/
theorem sentTools_eq {χ : Type} (input : ProviderChatInput) (mapTools : List Value → List SentTool)
    (mapChoice : Option Value → Option χ) :
    input.sentTools mapTools mapChoice =
      if (input.tools.getD []).isEmpty then none
      else some ⟨mapTools (input.tools.getD []), mapChoice input.toolChoice⟩ := by
  unfold ProviderChatInput.sentTools
  cases input.tools with
  | none => rfl
  | some tools => cases tools <;> rfl

namespace Anthropic

theorem stream_asks_same (input : ProviderChatInput) (modelId : String) (options : ProviderCallOptions) :
    { streamParams input modelId options with stream := false } = completeParams input modelId options := by
  unfold completeParams streamParams ProviderChatInput.sentTools
  cases input.tools with
  | none => rfl
  | some tools => cases tools <;> rfl

end Anthropic

namespace Google

theorem stream_asks_same (createPart : String → String → Value → HistoryPart) (input : ProviderChatInput)
    (modelId : String) (options : ProviderCallOptions) :
    streamParams createPart input modelId options = completeParams createPart input modelId options := by
  unfold completeParams streamParams streamedTools
  cases input.tools with
  | none => rfl
  | some tools =>
    cases tools with
    | nil => rfl
    | cons tool tools =>
      dsimp only
      cases mapToolsToGemini (tool :: tools) <;> rfl

end Google

namespace ChatCompletions

theorem stream_asks_same (includeStreamUsage : Bool) (input : ProviderChatInput) (modelId : String)
    (options : ProviderCallOptions) :
    { streamParams includeStreamUsage input modelId options with stream := false, includeUsage := false } =
      completeParams input modelId options := by
  unfold completeParams streamParams ProviderChatInput.sentTools
  cases input.tools with
  | none => rfl
  | some tools => cases tools <;> rfl

end ChatCompletions

namespace Responses

theorem stream_asks_same (input : ProviderChatInput) (modelId : String) (options : ProviderCallOptions) :
    { streamParams input modelId options with stream := false } =
      buildResponsesCreateParams input modelId options := by
  unfold streamParams buildResponsesCreateParams
  rfl

end Responses

/-! ## Tools arrive -/

/-- A definition as `buildProviderInputForAlias` hands it on. -/
def GatewayToolDefinition.toJson (d : GatewayToolDefinition) : Value :=
  .obj (("name", d.name) :: (d.description.map fun text => ("description", text)).toList ++ [("parameters", d.parameters)])

def GatewayToolChoice.toJson : GatewayToolChoice → Value
  | .auto => .str "auto"
  | .none => .str "none"
  | .required => .str "required"
  | .function name => .obj [("type", .str "function"), ("function", .obj [("name", name)])]

/-- The request with its tools, for the input of a provider. -/
def ChatRequestDto.body (dto : ChatRequestDto) : ChatRequestBody where
  request := dto.toChatRequest
  definitions := ((dto.tooling.bind ChatTooling.definitions).getD []).map GatewayToolDefinition.toJson
  toolChoice := (dto.tooling.bind ChatTooling.toolChoice).map GatewayToolChoice.toJson
  metadata := dto.metadata
  definitions_length := List.length_map ..

def AnthropicToolChoice.said : AnthropicToolChoice → Option GatewayToolChoice
  | .auto => some .auto
  | .none => some .none
  | .any => some .required
  | .tool name => name.map .function

def OpenAiToolChoiceOption.said : OpenAiToolChoiceOption → Option GatewayToolChoice
  | .auto => some .auto
  | .none => some .none
  | .required => some .required
  | .function name => name.map .function

/-- A mode, or the one function that is allowed. -/
def FunctionCallingConfig.said (c : FunctionCallingConfig) : Option GatewayToolChoice :=
  match c.mode, c.allowedFunctionNames with
  | .auto, _ => some .auto
  | .none, _ => some .none
  | .any, some [name] => name.map .function
  | .any, _ => some .required

/-- The schema that parameters are sent as where it has to be of type `object`. -/
inductive ObjectSchema (parameters : Value) : Value → Prop where
  | itself : parameters.get? "type" = some (.str "object") → ObjectSchema parameters parameters
  | properties : parameters.get? "type" ≠ some (.str "object") →
    ObjectSchema parameters (.obj [("type", .str "object"), ("properties", parameters)])

/-- A tool is sent under its name, with its description if that is not empty, and its schema. -/
structure SentTool.Describes (Schema : Value → Value → Prop) (sent : SentTool) (d : GatewayToolDefinition) : Prop where
  name : sent.name = some d.name
  description : sent.description = d.description.filter Value.truthy
  schema : ∃ schema, sent.schema = some schema ∧ Schema d.parameters schema

/-- What is sent of the tools says what the gateway was asked for: all the definitions in their
order and the choice, or nothing if there are no definitions. -/
structure KeepsTools {χ : Type} (said : χ → Option GatewayToolChoice) (Schema : Value → Value → Prop)
    (tooling : Option ChatTooling) (sent : Option (SentTools χ)) : Prop where
  nothing : (tooling.bind ChatTooling.definitions).getD [] = [] → sent = none
  all : (tooling.bind ChatTooling.definitions).getD [] ≠ [] → ∃ tools, sent = some tools ∧
    List.Forall₂ (SentTool.Describes Schema) tools.tools ((tooling.bind ChatTooling.definitions).getD []) ∧
    tools.toolChoice.bind said = tooling.bind ChatTooling.toolChoice

theorem get?_name (d : GatewayToolDefinition) : d.toJson.get? "name" = some d.name := by
  unfold GatewayToolDefinition.toJson
  cases d.description <;> rfl

theorem get?_description (d : GatewayToolDefinition) : d.toJson.get? "description" = d.description := by
  unfold GatewayToolDefinition.toJson
  cases d.description <;> rfl

theorem get?_parameters (d : GatewayToolDefinition) : d.toJson.get? "parameters" = some d.parameters := by
  unfold GatewayToolDefinition.toJson
  cases d.description <;> rfl

theorem mapTool_describes {Schema : Value → Value → Prop} {d : GatewayToolDefinition} {schema : Value}
    (h : Schema d.parameters schema) : (mapTool d.toJson (some schema)).Describes Schema d where
  name := get?_name d
  description := congrArg (Option.filter Value.truthy) (get?_description d)
  schema := ⟨schema, rfl, h⟩

theorem isText_iff {v : Option Value} {text : String} : Json.isText v text = true ↔ v = some (.str text) := by
  unfold Json.isText
  split
  · rw [decide_eq_true_iff]
    exact ⟨fun h => h ▸ rfl, fun h => Value.str.inj (Option.some.inj h)⟩
  · next hstr => exact ⟨nofun, fun h => absurd h (hstr text)⟩

/-- What has a type is an object. -/
theorem isObject_of_get? {v w : Value} {key : String} (h : v.get? key = some w) : v.isObject = true := by
  cases v with
  | obj members => rfl
  | _ => cases h

theorem toInputSchema_object (parameters : Value) : ObjectSchema parameters (toInputSchema (some parameters)) := by
  unfold toInputSchema
  by_cases htype : parameters.get? "type" = some (.str "object")
  · have hcond : (parameters.isObject && Json.isText (parameters.get? "type") "object") = true := by
      rw [isObject_of_get? htype, isText_iff.mpr htype]
      rfl
    dsimp only
    rw [if_pos hcond]
    exact .itself htype
  · have hcond : ¬ (parameters.isObject && Json.isText (parameters.get? "type") "object") = true := by
      intro h
      exact htype (isText_iff.mp (Bool.and_eq_true_iff.mp h).2)
    dsimp only
    rw [if_neg hcond]
    exact .properties htype

theorem toParametersSchema_object {parameters : Value} (h : parameters ≠ .null) :
    ∃ schema, toParametersSchema (some parameters) = .ok schema ∧ ObjectSchema parameters schema := by
  unfold toParametersSchema
  refine ⟨if Json.isText (parameters.get? "type") "object" then parameters else schemaOfProperties (some parameters),
    ?_, ?_⟩
  · cases parameters with
    | null => exact absurd rfl h
    | _ => rfl
  · by_cases htype : parameters.get? "type" = some (.str "object")
    · rw [if_pos (isText_iff.mpr htype)]
      exact .itself htype
    · rw [if_neg fun hobject => htype (isText_iff.mp hobject)]
      exact .properties htype

theorem anthropicChoice_said (choice : Option GatewayToolChoice) :
    (mapToolChoiceToAnthropic (choice.map GatewayToolChoice.toJson)).bind AnthropicToolChoice.said = choice := by
  cases choice with
  | none => rfl
  | some c => cases c <;> rfl

theorem openAiChoice_said (choice : Option GatewayToolChoice) :
    (openAiToolChoice (choice.map GatewayToolChoice.toJson)).bind OpenAiToolChoiceOption.said = choice := by
  cases choice with
  | none => rfl
  | some c => cases c <;> rfl

theorem geminiChoice_said (choice : Option GatewayToolChoice) :
    (mapToolChoiceToGemini (choice.map GatewayToolChoice.toJson)).bind FunctionCallingConfig.said = choice := by
  cases choice with
  | none => rfl
  | some c => cases c <;> rfl

/-- The tools of an input that was built for a request. -/
theorem input_tools {dto : ChatRequestDto} {modelAlias : String} {prompts : SystemPrompts} {input : ProviderChatInput}
    (h : buildProviderInputForAlias dto.body modelAlias prompts = .ok input) :
    input.tools = (if dto.body.definitions.isEmpty then none else some dto.body.definitions) ∧
      input.toolChoice = if dto.body.definitions.isEmpty then none else dto.body.toolChoice := by
  obtain ⟨system, -, h⟩ := Fallible.bind_eq_ok.mp h
  obtain ⟨messages, -, h⟩ := Fallible.bind_eq_ok.mp h
  cases h
  exact ⟨rfl, rfl⟩

/-- One lemma for the four mappers: the tools that are sent describe the definitions one by one. -/
theorem keepsTools {χ : Type} {said : χ → Option GatewayToolChoice} {Schema : Value → Value → Prop}
    {mapTools : List Value → List SentTool} {mapChoice : Option Value → Option χ}
    (hchoice : ∀ choice : Option GatewayToolChoice, (mapChoice (choice.map GatewayToolChoice.toJson)).bind said = choice)
    {dto : ChatRequestDto} {modelAlias : String} {prompts : SystemPrompts} {input : ProviderChatInput}
    (h : buildProviderInputForAlias dto.body modelAlias prompts = .ok input)
    (htools : List.Forall₂ (SentTool.Describes Schema) (mapTools dto.body.definitions)
      ((dto.tooling.bind ChatTooling.definitions).getD [])) :
    KeepsTools said Schema dto.tooling (input.sentTools mapTools mapChoice) := by
  obtain ⟨hinput, htoolChoice⟩ := input_tools h
  have hsent := sentTools_eq input mapTools mapChoice
  have hempty : dto.body.definitions.isEmpty = ((dto.tooling.bind ChatTooling.definitions).getD []).isEmpty :=
    List.isEmpty_map
  refine ⟨?_, ?_⟩
  · intro hnil
    rw [hnil] at hempty
    rw [hsent, hinput, hempty]
    rfl
  · intro hne
    have hfull : dto.body.definitions.isEmpty = false := by
      rw [hempty]
      simpa [List.isEmpty_iff] using hne
    refine ⟨⟨mapTools dto.body.definitions, mapChoice dto.body.toolChoice⟩, ?_, htools, hchoice _⟩
    rw [hsent, hinput, htoolChoice, hfull]
    simp [hfull]

/-- Definitions that are mapped one by one. -/
theorem describes_map {Schema : Value → Value → Prop} {mapOne : Value → SentTool}
    {definitions : List GatewayToolDefinition} (h : ∀ d ∈ definitions, (mapOne d.toJson).Describes Schema d) :
    List.Forall₂ (SentTool.Describes Schema) ((definitions.map GatewayToolDefinition.toJson).map mapOne) definitions := by
  rw [List.map_map, List.forall₂_map_left_iff, List.forall₂_same]
  exact h

theorem mapToolsToGemini_ok {definitions : List GatewayToolDefinition} (h : ∀ d ∈ definitions, d.parameters ≠ .null) :
    ∃ sent, mapToolsToGemini (definitions.map GatewayToolDefinition.toJson) = .ok sent ∧
      List.Forall₂ (SentTool.Describes ObjectSchema) sent definitions := by
  induction definitions with
  | nil => exact ⟨[], rfl, .nil⟩
  | cons d definitions ih =>
    obtain ⟨hd, hdefinitions⟩ := List.forall_mem_cons.mp h
    obtain ⟨sent, hsent, hdescribes⟩ := ih hdefinitions
    obtain ⟨schema, hschema, hobject⟩ := toParametersSchema_object hd
    refine ⟨mapTool d.toJson (some schema) :: sent, ?_, .cons (mapTool_describes hobject) hdescribes⟩
    unfold mapToolsToGemini at hsent ⊢
    rw [List.map_cons, Fallible.collect, get?_parameters, hschema, hsent]
    rfl

theorem mapToolsToGemini_null {definitions : List GatewayToolDefinition} (h : ∃ d ∈ definitions, d.parameters = .null) :
    mapToolsToGemini (definitions.map GatewayToolDefinition.toJson) = .error (cannotRead "null" "type") := by
  induction definitions with
  | nil => simp at h
  | cons d definitions ih =>
    unfold mapToolsToGemini at ih ⊢
    rw [List.map_cons, Fallible.collect, get?_parameters]
    by_cases hd : d.parameters = .null
    · rw [hd]
      rfl
    · obtain ⟨schema, hschema, -⟩ := toParametersSchema_object hd
      obtain ⟨d', hd', hnull⟩ := h
      obtain rfl | hd' := List.mem_cons.mp hd'
      · exact absurd hnull hd
      · rw [hschema, ih ⟨d', hd', hnull⟩]
        rfl

/-- What Gemini is asked, if nothing is thrown before. -/
theorem google_keepsTools (createPart : String → String → Value → Google.HistoryPart) {dto : ChatRequestDto}
    {modelAlias : String} {prompts : SystemPrompts} {input : ProviderChatInput}
    (h : buildProviderInputForAlias dto.body modelAlias prompts = .ok input) (modelId : String)
    (options : ProviderCallOptions)
    (hnull : ∀ d ∈ (dto.tooling.bind ChatTooling.definitions).getD [], d.parameters ≠ .null) :
    ∃ params, Google.completeParams createPart input modelId options = .ok params ∧
      KeepsTools FunctionCallingConfig.said ObjectSchema dto.tooling params.tools := by
  obtain ⟨sent, hsent, hdescribes⟩ := mapToolsToGemini_ok hnull
  have hkeeps : KeepsTools FunctionCallingConfig.said ObjectSchema dto.tooling
      (input.sentTools (fun _ => sent) mapToolChoiceToGemini) := keepsTools geminiChoice_said h hdescribes
  refine ⟨{ Google.baseParams createPart input modelId options with
    tools := input.sentTools (fun _ => sent) mapToolChoiceToGemini }, ?_, hkeeps⟩
  obtain ⟨hinput, -⟩ := input_tools h
  unfold Google.completeParams ProviderChatInput.sentTools
  rw [hinput]
  cases hdefinitions : dto.body.definitions with
  | nil => rfl
  | cons tool tools =>
    have hmapped : mapToolsToGemini (tool :: tools) = .ok sent := hdefinitions ▸ hsent
    show (mapToolsToGemini (tool :: tools) >>= _) = _
    rw [hmapped]
    rfl

theorem google_throws (createPart : String → String → Value → Google.HistoryPart) {dto : ChatRequestDto}
    {modelAlias : String} {prompts : SystemPrompts} {input : ProviderChatInput}
    (h : buildProviderInputForAlias dto.body modelAlias prompts = .ok input) (modelId : String)
    (options : ProviderCallOptions)
    (hnull : ∃ d ∈ (dto.tooling.bind ChatTooling.definitions).getD [], d.parameters = .null) :
    Google.completeParams createPart input modelId options = .error (cannotRead "null" "type") := by
  have hthrows := mapToolsToGemini_null hnull
  obtain ⟨hinput, -⟩ := input_tools h
  unfold Google.completeParams
  rw [hinput]
  cases hdefinitions : dto.body.definitions with
  | nil =>
    obtain ⟨d, hd, -⟩ := hnull
    have hmem : d.toJson ∈ dto.body.definitions := List.mem_map_of_mem hd
    rw [hdefinitions] at hmem
    cases hmem
  | cons tool tools =>
    have hmapped : mapToolsToGemini (tool :: tools) = .error (cannotRead "null" "type") := hdefinitions ▸ hthrows
    show (mapToolsToGemini (tool :: tools) >>= _) = _
    rw [hmapped]
    rfl

/-- **Tools are kept**: whatever came in, each provider gets the tools of the request and the
choice among them, in a stream as in a completion. The two OpenAI APIs get a schema as it is,
the others one of type `object`. At parameters that are `null`, which no validated body has, the
mapper for Gemini throws. -/
theorem tools_kept (createPart : String → String → Value → Google.HistoryPart) (includeStreamUsage : Bool)
    (dto : ChatRequestDto) (modelAlias : String) (prompts : SystemPrompts) (input : ProviderChatInput)
    (h : buildProviderInputForAlias dto.body modelAlias prompts = .ok input) (modelId : String)
    (options : ProviderCallOptions) :
    (KeepsTools AnthropicToolChoice.said ObjectSchema dto.tooling (Anthropic.completeParams input modelId options).tools ∧
      { Anthropic.streamParams input modelId options with stream := false } =
        Anthropic.completeParams input modelId options) ∧
    (((∀ d ∈ (dto.tooling.bind ChatTooling.definitions).getD [], d.parameters ≠ .null) →
        ∃ params, Google.completeParams createPart input modelId options = .ok params ∧
          KeepsTools FunctionCallingConfig.said ObjectSchema dto.tooling params.tools) ∧
      ((∃ d ∈ (dto.tooling.bind ChatTooling.definitions).getD [], d.parameters = .null) →
        Google.completeParams createPart input modelId options = .error (cannotRead "null" "type")) ∧
      Google.streamParams createPart input modelId options = Google.completeParams createPart input modelId options) ∧
    (KeepsTools OpenAiToolChoiceOption.said Eq dto.tooling
        (ChatCompletions.completeParams input modelId options).tools ∧
      { ChatCompletions.streamParams includeStreamUsage input modelId options with
          stream := false, includeUsage := false } = ChatCompletions.completeParams input modelId options) ∧
    (KeepsTools OpenAiToolChoiceOption.said Eq dto.tooling
        (Responses.buildResponsesCreateParams input modelId options).tools ∧
      { Responses.streamParams input modelId options with stream := false } =
        Responses.buildResponsesCreateParams input modelId options) := by
  have hopenAi : List.Forall₂ (SentTool.Describes Eq) (mapToolsToOpenAi dto.body.definitions)
      ((dto.tooling.bind ChatTooling.definitions).getD []) := by
    refine describes_map fun d _ => ?_
    rw [get?_parameters]
    exact mapTool_describes rfl
  refine ⟨⟨?_, Anthropic.stream_asks_same input modelId options⟩,
    ⟨google_keepsTools createPart h modelId options, google_throws createPart h modelId options,
      Google.stream_asks_same createPart input modelId options⟩,
    ⟨?_, ChatCompletions.stream_asks_same includeStreamUsage input modelId options⟩,
    ?_, Responses.stream_asks_same input modelId options⟩
  -- The stream parameters take the tools as they are, without a branch of their own.
  · rw [← Anthropic.stream_asks_same]
    refine keepsTools anthropicChoice_said h (describes_map fun d _ => ?_)
    rw [get?_parameters]
    exact mapTool_describes (toInputSchema_object d.parameters)
  · rw [← ChatCompletions.stream_asks_same includeStreamUsage]
    exact keepsTools openAiChoice_said h hopenAi
  · exact keepsTools openAiChoice_said h hopenAi

/-- A tool whose parameters are no schema of type `object`, and a choice of it. -/
def lookupDto : ChatRequestDto where
  modelAlias := "chat-default"
  messages := [⟨.user, "hi", none, none⟩]
  params := none
  conversationId := none
  tooling := some ⟨some [⟨.str "lookup", some (.str ""), .obj [("key", .obj [])]⟩], some (.function (.str "lookup"))⟩
  metadata := none

theorem tools_kept_lookup : ∃ input,
    buildProviderInputForAlias lookupDto.body "chat-default" ⟨"Be brief.", none, .empty⟩ = .ok input ∧
      KeepsTools AnthropicToolChoice.said ObjectSchema lookupDto.tooling
        (Anthropic.completeParams input "claude-haiku-4-5" ⟨none, none, none, none, none, none, none, none, none, none,
          none, none⟩).tools :=
  ⟨_, rfl, (tools_kept Google.functionResponsePart false lookupDto "chat-default" ⟨"Be brief.", none, .empty⟩ _
    rfl "claude-haiku-4-5" _).1.1⟩

end AiGateway
