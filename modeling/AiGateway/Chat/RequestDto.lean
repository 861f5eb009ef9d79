import AiGateway.Cache.Identity
import AiGateway.Chat.Resilience
import AiGateway.Lib.Fallible
import AiGateway.Lib.JsValue

/- `ChatRequestDto`, the request that the native endpoints receive and that the facades map
   their bodies to. Values that the DTOs do not check are JSON as sent. -/
namespace AiGateway

structure GatewayToolDefinition where
  name : Json.Value
  description : Option Json.Value
  parameters : Json.Value

inductive GatewayToolChoice where
  | auto | none | required
  | function (name : Json.Value)

structure ChatTooling where
  definitions : Option (List GatewayToolDefinition)
  toolChoice : Option GatewayToolChoice

structure ResponseFormat where
  type : Option Json.Value
  jsonSchema : Option Json.Value

structure ChatParams where
  temperature : Option Json.Value := none
  maxOutputTokens : Option Json.Value := none
  topP : Option Json.Value := none
  topK : Option Json.Value := none
  stop : Option Json.Value := none
  frequencyPenalty : Option Json.Value := none
  presencePenalty : Option Json.Value := none
  seed : Option Json.Value := none
  responseFormat : Option ResponseFormat := none
  thinkingEnabled : Option Bool := none
  thinkingBudget : Option Json.Value := none
  parallelToolCalls : Option Json.Value := none

structure ChatRequestDto where
  modelAlias : String
  messages : List ChatMessage
  params : Option ChatParams
  conversationId : Option String
  tooling : Option ChatTooling
  metadata : Option Json.Value

/-- What executing the request reads besides its parameters. -/
def ChatRequestDto.toChatRequest (dto : ChatRequestDto) : ChatRequest where
  modelAlias := dto.modelAlias
  messages := dto.messages
  toolDefinitions := ((dto.tooling.bind ChatTooling.definitions).getD []).length
  conversationId := dto.conversationId

/-- `body.tools?.length ? map(body.tools) : undefined`. -/
def mapTools (map : Json.Value → Except ThrownError (List GatewayToolDefinition)) :
    Option Json.Value → Except ThrownError (Option (List GatewayToolDefinition))
  | none => .ok none
  | some tools => if tools.hasLength then (map tools).map some else .ok none

open Fallible in
theorem succeeds_mapTools {map : Json.Value → Except ThrownError (List GatewayToolDefinition)}
    {tools : Option Json.Value} :
    Succeeds (mapTools map tools) ↔ ∀ v, tools = some v → v.hasLength = true → Succeeds (map v) := by
  cases tools with
  | none => simp [mapTools, succeeds_ok]
  | some v =>
    by_cases hlen : v.hasLength = true
    · simp [mapTools, hlen, succeeds_map]
    · simp [mapTools, hlen, succeeds_ok]

/-- The `tooling` of a mapped body: left out when there are neither definitions nor a choice. -/
def mapTooling (definitions : Option (List GatewayToolDefinition)) (toolChoice : Option GatewayToolChoice) :
    Option ChatTooling :=
  let definitions := definitions.filter fun ds => !ds.isEmpty
  if definitions.isSome || toolChoice.isSome then some ⟨definitions, toolChoice⟩ else none

/-- An item of an array under `@ValidateNested({ each: true })`, as the mappers meet it: an
instance of the DTO, or a nested array, which is let through with none of its properties. A `null`
is turned away before. -/
inductive Nested (α : Type) where
  | dto (a : α)
  | null
  | array

/-- `new BadRequestException({ code: VALIDATION_FAILED, ... })`. -/
def validationFailed (message : String) : ThrownError := .http 400 (some "VALIDATION_FAILED") message none

/-- A property read on `null` or `undefined`. -/
def cannotRead (value property : String) : ThrownError :=
  .other ("Cannot read properties of " ++ value ++ " (reading '" ++ property ++ "')")

/-- The last case of both facades' tool choice: a function with a name, or a rejection. -/
def namedChoice (isFunction : Bool) (name : Option Json.Value) :
    Except ThrownError (Option GatewayToolChoice) :=
  match isFunction, name.filter Json.Value.truthy with
  | true, some name => .ok (some (.function name))
  | _, _ => .error (validationFailed "Invalid tool_choice value")

open Fallible in
theorem succeeds_namedChoice {isFunction : Bool} {name : Option Json.Value} :
    Succeeds (namedChoice isFunction name) ↔ isFunction = true ∧ Json.truthy? name = true := by
  cases isFunction with
  | false => simp [namedChoice, not_succeeds_error]
  | true =>
    cases name with
    | none => simp [namedChoice, Json.truthy?, not_succeeds_error]
    | some v =>
      by_cases hv : v.truthy = true
      · simp [namedChoice, Option.filter, Json.truthy?, hv, succeeds_ok]
      · simp [namedChoice, Option.filter, Json.truthy?, hv, not_succeeds_error]

end AiGateway
