import AiGateway.Cache.Identity
import AiGateway.Chat.Resilience

/- What a provider is asked for a request: `composeSystemPrompt`, `toProviderTurns` and
   `buildProviderInputForAlias`. Of a request without tools it sees the messages, the alias and
   the prompts (`buildProviderInput_noTools`). -/
namespace AiGateway

/-! ## The system prompt -/

/-- `SYSTEM_PROMPT_SECTION_JOINER`. -/
def systemPromptSectionJoiner : String := "\n\n"

/-- The sections, joined. One is left out when it is missing or empty; a blank one is kept, as "". -/
def promptSections (resolved : SystemPrompts) (perModelPrompt : Option String) : String :=
  String.intercalate systemPromptSectionJoiner
    ([JsString.trim resolved.master] ++
      ((JsString.truthy resolved.main).map JsString.trim).toList ++
      ((JsString.truthy perModelPrompt).map JsString.trim).toList)

def promptNotText : ThrownError := .other "perModelPrompt.trim is not a function"

def composeSystemPrompt (resolved : SystemPrompts) (modelAlias : String) : Except ThrownError String :=
  match property resolved.perModelByAlias modelAlias with
  | .own content => .ok (promptSections resolved (some content))
  | .missing => .ok (promptSections resolved none)
  | .inherited => .error promptNotText

theorem composeSystemPrompt_eq {p : SystemPrompts} {modelAlias : String} : composeSystemPrompt p modelAlias =
    if p.reads modelAlias then .ok (promptSections p (p.perModelByAlias.get? modelAlias)) else .error promptNotText := by
  unfold composeSystemPrompt SystemPrompts.reads
  cases hget : p.perModelByAlias.get? modelAlias with
  | some content => simp [property_of_get? hget]
  | none =>
    by_cases hmember : modelAlias ∈ objectPrototypeMembers
    · rw [property_of_not_own hget, if_pos hmember]
      rfl
    · rw [property_of_not_own hget, if_neg hmember]
      rfl

theorem composeSystemPrompt_ok {p : SystemPrompts} {modelAlias system : String}
    (h : composeSystemPrompt p modelAlias = .ok system) :
    p.reads modelAlias = true ∧ system = promptSections p (p.perModelByAlias.get? modelAlias) := by
  rw [composeSystemPrompt_eq] at h
  split at h
  · next hreads => exact ⟨hreads, (Except.ok.inj h).symm⟩
  · cases h

/-! ## Turns -/

/-- `ProviderChatTurn`; the calls of an assistant turn are never an empty list. -/
inductive ProviderChatTurn where
  | user (content : String)
  | assistant (content : String) (toolCalls : Option (List GatewayToolCall))
  | tool (toolCallId content : String)
  deriving DecidableEq, Repr

def missingToolCallIdError : ThrownError :=
  .http 400 (some "VALIDATION_FAILED") "Tool messages must include toolCallId" none

def toProviderTurn (m : ChatMessage) : Except ThrownError ProviderChatTurn :=
  match m.role with
  | .user => .ok (.user m.content)
  | .assistant => .ok (.assistant m.content (m.toolCalls.filter fun calls => !calls.isEmpty))
  | .tool =>
    match JsString.truthy m.toolCallId with
    | some id => .ok (.tool id m.content)
    | none => .error missingToolCallIdError

def toProviderTurns (messages : List ChatMessage) : Except ThrownError (List ProviderChatTurn) :=
  messages.mapM toProviderTurn

/-! ## The input of a provider -/

/-- A request with the parts that only the provider input reads. Definitions, tool choice and
metadata are handed on as they are. -/
structure ChatRequestBody where
  request : ChatRequest
  definitions : List Json.Value
  toolChoice : Option Json.Value
  metadata : Option Json.Value
  definitions_length : definitions.length = request.toolDefinitions

structure ProviderChatInput where
  system : String
  messages : List ProviderChatTurn
  tools : Option (List Json.Value)
  toolChoice : Option Json.Value
  metadata : Option Json.Value

def ProviderChatInput.withoutMetadata (input : ProviderChatInput) : ProviderChatInput :=
  { input with metadata := none }

def buildProviderInputForAlias (body : ChatRequestBody) (modelAlias : String) (resolvedPrompts : SystemPrompts) :
    Except ThrownError ProviderChatInput := do
  let system ← composeSystemPrompt resolvedPrompts modelAlias
  let messages ← toProviderTurns body.request.messages
  return {
    system := system
    messages := messages
    tools := if body.definitions.isEmpty then none else some body.definitions
    toolChoice := if body.definitions.isEmpty then none else body.toolChoice
    metadata := body.metadata }

theorem definitions_nil {body : ChatRequestBody} (h : isToolingRequest body.request = false) :
    body.definitions = [] := by
  apply List.length_eq_zero_iff.mp
  rw [body.definitions_length]
  simp only [isToolingRequest, Bool.or_eq_false_iff, decide_eq_false_iff_not] at h
  omega

/-- Without tools the messages, the alias and the prompts are all that the provider sees. -/
theorem buildProviderInput_noTools {body : ChatRequestBody} (h : isToolingRequest body.request = false)
    (modelAlias : String) (resolvedPrompts : SystemPrompts) :
    (buildProviderInputForAlias body modelAlias resolvedPrompts).map ProviderChatInput.withoutMetadata =
      (do
        let system ← composeSystemPrompt resolvedPrompts modelAlias
        let messages ← toProviderTurns body.request.messages
        return ⟨system, messages, none, none, none⟩) := by
  unfold buildProviderInputForAlias
  rw [definitions_nil h]
  cases composeSystemPrompt resolvedPrompts modelAlias with
  | error e => rfl
  | ok system => cases toProviderTurns body.request.messages <;> rfl

end AiGateway
