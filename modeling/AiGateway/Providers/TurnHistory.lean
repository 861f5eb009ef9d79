import AiGateway.Lib.JsonText
import AiGateway.Lib.RunLoop
import AiGateway.Providers.AnthropicTurns
import AiGateway.Providers.Interface

/- The history of a conversation as three providers get it. Each mapper goes through the turns
   with one loop, whose inner loop takes the tool turns that follow a tool turn
   (`RunLoop.mapRuns`). Anthropic gets a run of tool turns as one user message, the two OpenAI
   surfaces get its results one by one. `history_kept`: no turn is lost, repeated or moved, and
   the messages of Anthropic are the maximal runs. -/
namespace AiGateway

/-- What a tool turn says. -/
def ProviderChatTurn.toolResult? : ProviderChatTurn → Option (String × String)
  | .tool toolCallId content => some (toolCallId, content)
  | .user _ | .assistant _ _ => none

/-! ## Chat Completions -/

/-- `ChatCompletionMessageParam`; the calls are those of functions. -/
inductive ChatCompletionMessageParam where
  | system (content : String)
  | user (content : String)
  | assistant (content : Option String) (toolCalls : List GatewayToolCall)
  | tool (toolCallId content : String)
  deriving DecidableEq, Repr

namespace OpenAiMessages

def mapAssistantTurn (content : String) (toolCalls : Option (List GatewayToolCall)) : ChatCompletionMessageParam :=
  let calls := toolCalls.getD []
  if calls.isEmpty then .assistant (some content) []
  else
    .assistant (JsString.truthy (some content))
      (calls.map fun call => ⟨call.id, call.name, orEmptyObject call.arguments⟩)

def toolMessage (result : String × String) : ChatCompletionMessageParam := .tool result.1 result.2

/-- The message of a turn that is no tool turn. -/
def single : ProviderChatTurn → List ChatCompletionMessageParam
  | .user content => [.user content]
  | .assistant content toolCalls => [mapAssistantTurn content toolCalls]
  | .tool _ _ => []

end OpenAiMessages

def systemMessages (system : Option String) : List ChatCompletionMessageParam :=
  match system with
  | some text => if JsString.trim text = "" then [] else [.system text]
  | none => []

def mapTurnsToOpenAiMessages (turns : List ProviderChatTurn) (system : Option String) :
    List ChatCompletionMessageParam :=
  systemMessages system ++
    RunLoop.mapRuns ProviderChatTurn.toolResult? OpenAiMessages.single (List.map OpenAiMessages.toolMessage) turns

/-! ## Responses -/

inductive ResponseInputItem where
  | user (content : String)
  | assistant (content : String)
  | functionCall (callId name arguments : String)
  | functionCallOutput (callId output : String)
  deriving DecidableEq, Repr

def mapAssistantTurnToResponsesInput (content : String) (toolCalls : Option (List GatewayToolCall)) :
    List ResponseInputItem :=
  (if content = "" then [] else [.assistant content]) ++
    (toolCalls.getD []).map fun call => .functionCall call.id call.name (orEmptyObject call.arguments)

namespace ResponsesInput

def outputItem (result : String × String) : ResponseInputItem := .functionCallOutput result.1 result.2

/-- The items of a turn that is no tool turn. -/
def single : ProviderChatTurn → List ResponseInputItem
  | .user content => [.user content]
  | .assistant content toolCalls => mapAssistantTurnToResponsesInput content toolCalls
  | .tool _ _ => []

end ResponsesInput

def mapTurnsToResponsesInput (turns : List ProviderChatTurn) : List ResponseInputItem :=
  RunLoop.mapRuns ProviderChatTurn.toolResult? ResponsesInput.single (List.map ResponsesInput.outputItem) turns

/-! ## What a history says -/

/-- A call, its arguments read as the JSON object that they are. -/
structure CallSaid where
  id : String
  name : String
  input : Json.Value

/-- A turn, in terms that all three providers have. -/
inductive TurnSaid where
  | user (text : String)
  | assistant (text : String) (calls : List CallSaid)
  | toolResult (toolCallId content : String)

/-- The arguments of a call as a JSON object, or `{}`. -/
def argumentsSaid (arguments : String) : Json.Value := .obj (((Json.parse arguments).map Json.asMembers).getD [])

def ProviderChatTurn.said : ProviderChatTurn → TurnSaid
  | .user content => .user content
  | .assistant content toolCalls =>
    .assistant content ((toolCalls.getD []).map fun call => ⟨call.id, call.name, argumentsSaid call.arguments⟩)
  | .tool toolCallId content => .toolResult toolCallId content

def ContentBlockParam.text? : ContentBlockParam → Option String
  | .text said => some said
  | .toolUse _ _ _ | .toolResult _ _ => none

def ContentBlockParam.call? : ContentBlockParam → Option CallSaid
  | .toolUse id name input => some ⟨id, name, input⟩
  | .text _ | .toolResult _ _ => none

def ContentBlockParam.result? : ContentBlockParam → Option TurnSaid
  | .toolResult toolUseId content => some (.toolResult toolUseId content)
  | .text _ | .toolUse _ _ _ => none

/-- A message of the Anthropic API read back: a text, or the tool results of a user, or the text
and the calls of an assistant. -/
def MessageParam.said (m : MessageParam) : List TurnSaid :=
  match m.role, m.content with
  | .user, .text text => [.user text]
  | .user, .blocks items => items.filterMap ContentBlockParam.result?
  | .assistant, .text text => [.assistant text []]
  | .assistant, .blocks items =>
    [.assistant (joinText (items.filterMap ContentBlockParam.text?)) (items.filterMap ContentBlockParam.call?)]

/-- The turns, grouped: a maximal run of tool turns is one group, any other turn one of its own. -/
def toolRuns (turns : List ProviderChatTurn) : List (List ProviderChatTurn) :=
  RunLoop.runs ProviderChatTurn.toolResult? turns

/-- The arguments of a call as they are sent: a text, and for an empty one the empty object. -/
def argumentsText (arguments : String) : String := if arguments = "" then "\x7b\x7d" else arguments

/-- The one message of a turn. With calls, an empty text of an assistant is `null`. -/
def OpenAiMessages.messageOf : ProviderChatTurn → ChatCompletionMessageParam
  | .user content => .user content
  | .assistant content none => .assistant (some content) []
  | .assistant content (some []) => .assistant (some content) []
  | .assistant content (some (call :: calls)) =>
    .assistant (if content = "" then none else some content)
      ((call :: calls).map fun c => { c with arguments := argumentsText c.arguments })
  | .tool toolCallId content => .tool toolCallId content

/-- A system text that is not blank has a message before those of the turns. -/
def OpenAiMessages.systemOf (system : Option String) : List ChatCompletionMessageParam :=
  (system.toList.filter fun text => JsString.trim text ≠ "").map .system

/-- The items of a turn: the text of a user, the text of an assistant if it has one and then its
calls, or the output of a tool. -/
def ResponsesInput.itemsOf : ProviderChatTurn → List ResponseInputItem
  | .user content => [.user content]
  | .assistant content toolCalls =>
    (if content = "" then [] else [.assistant content]) ++
      (toolCalls.getD []).map fun c => .functionCall c.id c.name (argumentsText c.arguments)
  | .tool toolCallId content => [.functionCallOutput toolCallId content]

theorem parseJsonObject_eq (arguments : String) : parseJsonObject arguments (.obj []) = argumentsSaid arguments := by
  unfold parseJsonObject argumentsSaid
  cases Json.parse arguments with
  | none => rfl
  | some v => cases v <;> rfl

/-! ## Anthropic: runs -/

namespace AnthropicMessages

def resultBlock (result : String × String) : ContentBlockParam := .toolResult result.1 result.2

def single : ProviderChatTurn → List MessageParam
  | .user content => [⟨.user, .text content⟩]
  | .assistant content toolCalls => [mapAssistantTurn content toolCalls]
  | .tool _ _ => []

def run (results : List (String × String)) : List MessageParam := [⟨.user, .blocks (results.map resultBlock)⟩]

theorem takeToolResults_eq (turns : List ProviderChatTurn) :
    takeToolResults turns = ((RunLoop.takeRun ProviderChatTurn.toolResult? turns).1.map resultBlock,
      (RunLoop.takeRun ProviderChatTurn.toolResult? turns).2) := by
  induction turns with
  | nil => rfl
  | cons turn turns ih =>
    cases turn with
    | user content => rfl
    | assistant content toolCalls => rfl
    | tool toolCallId content =>
      rw [takeToolResults, ih]
      rfl

/-- The loop of `mapTurnsToAnthropicMessages` is the common one. -/
theorem mapTurns_eq (turns : List ProviderChatTurn) :
    mapTurnsToAnthropicMessages turns = RunLoop.mapRuns ProviderChatTurn.toolResult? single run turns := by
  fun_induction mapTurnsToAnthropicMessages turns with
  | case1 => rw [RunLoop.mapRuns]
  | case2 content turns ih =>
    rw [RunLoop.mapRuns_none rfl, ih]
    rfl
  | case3 content toolCalls turns ih =>
    rw [RunLoop.mapRuns_none rfl, ih]
    rfl
  | case4 toolCallId content turns ih =>
    have hresult : (ProviderChatTurn.tool toolCallId content).toolResult? = some (toolCallId, content) := rfl
    rw [RunLoop.mapRuns_some hresult, ih, takeToolResults_eq]
    rfl

theorem said_assistant (content : String) (toolCalls : Option (List GatewayToolCall)) :
    (mapAssistantTurn content toolCalls).said = [(ProviderChatTurn.assistant content toolCalls).said] := by
  have htexts : ∀ calls : List GatewayToolCall,
      (calls.map fun c => ContentBlockParam.toolUse c.id c.name (parseToolCallArguments c.arguments)).filterMap
        ContentBlockParam.text? = [] := by
    intro calls
    rw [List.filterMap_map]
    exact List.filterMap_eq_nil_iff.mpr fun _ _ => rfl
  have hcalls : ∀ calls : List GatewayToolCall,
      (calls.map fun c => ContentBlockParam.toolUse c.id c.name (parseToolCallArguments c.arguments)).filterMap
        ContentBlockParam.call? = calls.map fun call => ⟨call.id, call.name, argumentsSaid call.arguments⟩ := by
    intro calls
    rw [List.filterMap_map]
    refine List.filterMap_eq_map_iff_forall_eq_some.mpr fun call _ => ?_
    rw [← parseJsonObject_eq]
    rfl
  unfold mapAssistantTurn ProviderChatTurn.said
  by_cases hnone : (toolCalls.getD []).isEmpty = true
  · simp [MessageParam.said, List.isEmpty_iff.mp hnone]
  · dsimp only
    rw [if_neg hnone]
    by_cases hempty : content = ""
    · simp [MessageParam.said, hempty, htexts, hcalls, joinText]
    · rw [if_neg hempty]
      show [TurnSaid.assistant (joinText (content :: List.filterMap ContentBlockParam.text? (List.map _ _)))
        (List.filterMap ContentBlockParam.call? (List.map _ _))] = _
      rw [htexts, hcalls]
      simp [joinText]

/-- The results of a run, read back, are its turns. -/
theorem results_said {turns : List ProviderChatTurn} (h : ∀ turn ∈ turns, turn.toolResult?.isSome = true) :
    ((turns.filterMap ProviderChatTurn.toolResult?).map resultBlock).filterMap ContentBlockParam.result? =
      turns.map ProviderChatTurn.said := by
  induction turns with
  | nil => rfl
  | cons turn turns ih =>
    have ih := ih fun t ht => h t (List.mem_cons_of_mem _ ht)
    cases turn with
    | user content => cases h _ List.mem_cons_self
    | assistant content toolCalls => cases h _ List.mem_cons_self
    | tool toolCallId content => exact congrArg (TurnSaid.toolResult toolCallId content :: ·) ih

/-- One message, read back, is its group. -/
theorem said_pushGroup {group : List ProviderChatTurn}
    (h : (∃ turn, group = [turn] ∧ turn.toolResult? = none) ∨
      (group ≠ [] ∧ ∀ turn ∈ group, turn.toolResult?.isSome = true)) :
    (RunLoop.pushGroup ProviderChatTurn.toolResult? single run group).map MessageParam.said =
      [group.map ProviderChatTurn.said] := by
  obtain ⟨turn, rfl, hturn⟩ | ⟨hne, hall⟩ := h
  · cases turn with
    | user content => rfl
    | assistant content toolCalls => exact congrArg (fun turns => [turns]) (said_assistant content toolCalls)
    | tool toolCallId content => cases hturn
  · have hpush : RunLoop.pushGroup ProviderChatTurn.toolResult? single run group =
        run (group.filterMap ProviderChatTurn.toolResult?) := by
      cases group with
      | nil => exact absurd rfl hne
      | cons turn turns =>
        obtain ⟨result, hresult⟩ := Option.isSome_iff_exists.mp (hall turn List.mem_cons_self)
        unfold RunLoop.pushGroup
        rw [List.filterMap_cons, hresult]
    rw [hpush]
    exact congrArg (fun turns => [turns]) (results_said hall)

end AnthropicMessages

/-! ## Nothing lost, nothing moved -/

/-- The messages for Anthropic, read back, are the maximal runs of the turns. -/
theorem anthropic_said_runs (turns : List ProviderChatTurn) :
    (mapTurnsToAnthropicMessages turns).map MessageParam.said =
      (toolRuns turns).map fun group => group.map ProviderChatTurn.said := by
  rw [AnthropicMessages.mapTurns_eq, RunLoop.mapRuns_eq, List.map_flatMap, List.map_eq_flatMap]
  apply List.flatMap_congr
  intro group hgroup
  exact AnthropicMessages.said_pushGroup (RunLoop.group_cases hgroup)

theorem openAi_system (system : Option String) : systemMessages system = OpenAiMessages.systemOf system := by
  unfold systemMessages OpenAiMessages.systemOf
  cases system with
  | none => rfl
  | some text => by_cases htext : JsString.trim text = "" <;> simp [htext]

theorem openAi_assistant (content : String) (toolCalls : Option (List GatewayToolCall)) :
    OpenAiMessages.mapAssistantTurn content toolCalls = OpenAiMessages.messageOf (.assistant content toolCalls) := by
  cases toolCalls with
  | none => rfl
  | some calls =>
    cases calls with
    | nil => rfl
    | cons call calls =>
      have htext : JsString.truthy (some content) = if content = "" then none else some content :=
        JsString.truthy_some content
      show ChatCompletionMessageParam.assistant (JsString.truthy (some content)) _ = _
      rw [htext]
      rfl

theorem openAi_each (turns : List ProviderChatTurn) (system : Option String) :
    mapTurnsToOpenAiMessages turns system = OpenAiMessages.systemOf system ++ turns.map OpenAiMessages.messageOf := by
  have hrun : ∀ results : List (String × String), results.map OpenAiMessages.toolMessage =
      results.flatMap fun result => [OpenAiMessages.toolMessage result] := fun _ => List.map_eq_flatMap
  unfold mapTurnsToOpenAiMessages
  rw [RunLoop.mapRuns_each hrun, List.map_eq_flatMap, openAi_system]
  congr 1
  apply List.flatMap_congr
  intro turn _
  cases turn with
  | user content => rfl
  | assistant content toolCalls => exact congrArg (fun message => [message]) (openAi_assistant content toolCalls)
  | tool toolCallId content => rfl

theorem responses_each (turns : List ProviderChatTurn) :
    mapTurnsToResponsesInput turns = turns.flatMap ResponsesInput.itemsOf := by
  have hrun : ∀ results : List (String × String), results.map ResponsesInput.outputItem =
      results.flatMap fun result => [ResponsesInput.outputItem result] := fun _ => List.map_eq_flatMap
  unfold mapTurnsToResponsesInput
  rw [RunLoop.mapRuns_each hrun]
  apply List.flatMap_congr
  intro turn _
  cases turn with
  | user content => rfl
  | assistant content toolCalls => rfl
  | tool toolCallId content => rfl

/-- The three mappers keep the history: the messages of Anthropic are the maximal runs of tool
turns and the other turns one by one, so that flattened they are the turns in order; Chat
Completions gets one message a turn after the system message, and Responses the items of each
turn. -/
theorem history_kept (turns : List ProviderChatTurn) (system : Option String) :
    (mapTurnsToAnthropicMessages turns).map MessageParam.said =
        (toolRuns turns).map (fun group => group.map ProviderChatTurn.said) ∧
      (mapTurnsToAnthropicMessages turns).flatMap MessageParam.said = turns.map ProviderChatTurn.said ∧
      mapTurnsToOpenAiMessages turns system =
        OpenAiMessages.systemOf system ++ turns.map OpenAiMessages.messageOf ∧
      mapTurnsToResponsesInput turns = turns.flatMap ResponsesInput.itemsOf := by
  have hruns := anthropic_said_runs turns
  refine ⟨hruns, ?_, openAi_each turns system, responses_each turns⟩
  calc (mapTurnsToAnthropicMessages turns).flatMap MessageParam.said
      = ((mapTurnsToAnthropicMessages turns).map MessageParam.said).flatten := List.flatMap_def
    _ = ((toolRuns turns).map fun group => group.map ProviderChatTurn.said).flatten := by rw [hruns]
    _ = ((toolRuns turns).flatten).map ProviderChatTurn.said := List.map_flatten.symm
    _ = turns.map ProviderChatTurn.said := by rw [toolRuns, RunLoop.flatten_runs]

end AiGateway
