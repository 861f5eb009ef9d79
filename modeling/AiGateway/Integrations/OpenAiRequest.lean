import AiGateway.Chat.RequestDto

/- The OpenAI facade's request: `OpenAiChatCompletionRequestDto` as validation leaves it, and
   `mapOpenAiChatRequestToGateway` with its mappers for messages, tools and tool choice.

   `mapOpenAiChatRequestToGateway_succeeds`: the bodies that the mapping does not reject. -/
namespace AiGateway

open JsString (truthy)

inductive OpenAiRole where
  | system | user | assistant | tool
  deriving DecidableEq, Repr

/-- An item of `tool_calls`, read at the types the mapper casts it to. -/
inductive OpenAiToolCallItem where
  | other                                    -- not an object
  | call (id type name arguments : Option String)

/-- `OpenAiChatMessageDto`; `content` has been through `normalizeOpenAiContent`. -/
structure OpenAiChatMessage where
  role : OpenAiRole
  content : String
  toolCallId : Option String := none
  toolCalls : Option (List OpenAiToolCallItem) := none

/-- `OpenAiChatCompletionRequestDto`; for the properties kept as JSON, `some .null` is a `null`
that `@IsOptional()` lets through. -/
structure OpenAiChatBody where
  model : String
  messages : List (Nested OpenAiChatMessage)
  stream : Option Bool := none
  temperature : Option Json.Value := none
  maxTokens : Option Json.Value := none
  tools : Option Json.Value := none
  toolChoice : Option Json.Value := none
  parallelToolCalls : Option Json.Value := none
  topP : Option Json.Value := none
  stop : Option Json.Value := none
  presencePenalty : Option Json.Value := none
  frequencyPenalty : Option Json.Value := none
  seed : Option Json.Value := none
  responseFormat : Option Json.Value := none
  metadata : Option Json.Value := none
  maxCompletionTokens : Option Json.Value := none
  reasoningEffort : Option Json.Value := none

/-! ## Messages -/

def mapOpenAiToolCall : OpenAiToolCallItem → Option GatewayToolCall
  | .call id type name arguments =>
    match type, truthy id, truthy name with
    | some "function", some id, some name => some ⟨id, name, arguments.getD "{}"⟩
    | _, _, _ => none
  | .other => none

def mapOpenAiToolCalls (raw : List OpenAiToolCallItem) : List GatewayToolCall := raw.filterMap mapOpenAiToolCall

/-- One turn of the loop: the gateway messages that a message is mapped to, none or one. -/
def mapOpenAiMessage : Nested OpenAiChatMessage → Except ThrownError (List ChatMessage)
  | .null => .error (cannotRead "null" "role")
  | .array => .ok []
  | .dto m =>
    match m.role with
    | .system => .ok []
    | .user => .ok [⟨.user, m.content, none, none⟩]
    | .assistant =>
      let toolCalls := mapOpenAiToolCalls (m.toolCalls.getD [])
      .ok [⟨.assistant, m.content, none, if toolCalls.isEmpty then none else some toolCalls⟩]
    | .tool =>
      match truthy m.toolCallId with
      | none => .error (validationFailed "Tool messages must include tool_call_id")
      | some id => .ok [⟨.tool, m.content, some id, none⟩]

def mapOpenAiMessagesToGateway (messages : List (Nested OpenAiChatMessage)) :
    Except ThrownError (List ChatMessage) := do
  let mapped ← Fallible.collect mapOpenAiMessage messages
  if mapped.flatten.isEmpty then
    .error (validationFailed "At least one user, assistant or tool message is required after filtering.")
  else .ok mapped.flatten

/-! ## Tools -/

def mapOpenAiTool (raw : Json.Value) : Option GatewayToolDefinition :=
  let function := raw.get? "function"
  match raw.isObject && Json.isText (raw.get? "type") "function",
    (Json.prop function "name").filter Json.Value.truthy with
  | true, some name =>
    some ⟨name, (Json.prop function "description").filter Json.Value.truthy,
      Json.orElse (Json.prop function "parameters") (.obj [])⟩
  | _, _ => none

/-- It is only called with a truthy `tools.length`. -/
def mapOpenAiToolsToGateway (tools : Json.Value) : Except ThrownError (List GatewayToolDefinition) :=
  match Json.iterate tools with
  | none => .error (.other "tools is not iterable")
  | some items =>
    let definitions := items.filterMap mapOpenAiTool
    if items.length > 0 ∧ definitions.length = 0 then
      .error (validationFailed "Tools must contain at least one valid function tool")
    else .ok definitions

def mapOpenAiToolChoice (toolChoice : Option Json.Value) : Except ThrownError (Option GatewayToolChoice) :=
  match toolChoice.filter Json.Value.truthy with
  | none => .ok none
  | some (.str "auto") => .ok (some .auto)
  | some (.str "none") => .ok (some .none)
  | some (.str "required") => .ok (some .required)
  | some choice =>
    namedChoice (Json.isText (choice.get? "type") "function") (Json.prop (choice.get? "function") "name")

/-! ## The request -/

def OpenAiChatBody.hasParams (body : OpenAiChatBody) : Bool :=
  [body.temperature, body.maxTokens, body.topP, body.stop, body.frequencyPenalty, body.presencePenalty,
    body.seed, body.responseFormat, body.maxCompletionTokens, body.reasoningEffort,
    body.parallelToolCalls].any Option.isSome

def openAiResponseFormat : Json.Value → Except ThrownError ResponseFormat
  | .null => .error (cannotRead "null" "type")
  | format => .ok ⟨format.get? "type", none⟩

def openAiThinking (reasoningEffort : Option Json.Value) (params : ChatParams) : ChatParams :=
  match reasoningEffort with
  | none => params
  | some effort =>
    if Json.isText (some effort) "none" then { params with thinkingEnabled := some false }
    else { params with thinkingEnabled := some true, thinkingBudget := some effort }

def openAiParams (body : OpenAiChatBody) : Except ThrownError (Option ChatParams) := do
  if !body.hasParams then .ok none
  else
    let responseFormat ← match body.responseFormat with
      | none => .ok none
      | some format => (openAiResponseFormat format).map some
    .ok (some (openAiThinking body.reasoningEffort
      { temperature := body.temperature, maxOutputTokens := body.maxCompletionTokens.or body.maxTokens
        topP := body.topP, stop := body.stop, frequencyPenalty := body.frequencyPenalty
        presencePenalty := body.presencePenalty, seed := body.seed, responseFormat := responseFormat
        parallelToolCalls := body.parallelToolCalls }))

/-- The rest of the mapping, once the messages are mapped. -/
def openAiRequestOf (body : OpenAiChatBody) (messages : List ChatMessage) :
    Except ThrownError ChatRequestDto := do
  let params ← openAiParams body
  let definitions ← mapTools mapOpenAiToolsToGateway body.tools
  let toolChoice ← mapOpenAiToolChoice body.toolChoice
  .ok { modelAlias := body.model, messages := messages, params := params, conversationId := none
        tooling := mapTooling definitions toolChoice, metadata := body.metadata.filter Json.Value.truthy }

def mapOpenAiChatRequestToGateway (body : OpenAiChatBody) : Except ThrownError ChatRequestDto := do
  let messages ← mapOpenAiMessagesToGateway body.messages
  openAiRequestOf body messages

/-! ## What is rejected -/

/-- Not `null`, and a tool message names its call. -/
def openAiMessageKnown (m : Nested OpenAiChatMessage) : Prop :=
  m = .array ∨ ∃ d, m = .dto d ∧ (d.role = .tool → truthy d.toolCallId ≠ none)

/-- `tool_choice` is falsy, one of the three words, or a function with a name. -/
def openAiToolChoiceKnown (toolChoice : Option Json.Value) : Prop :=
  ∀ choice, toolChoice = some choice → choice.truthy = true →
    choice = .str "auto" ∨ choice = .str "none" ∨ choice = .str "required" ∨
      (Json.isText (choice.get? "type") "function" = true ∧
        Json.truthy? (Json.prop (choice.get? "function") "name") = true)

structure OpenAiChatBody.Mappable (body : OpenAiChatBody) : Prop where
  messages : ∀ m ∈ body.messages, openAiMessageKnown m
  notOnlySystem : ∃ d, .dto d ∈ body.messages ∧ d.role ≠ .system
  responseFormat : body.responseFormat ≠ some .null
  tools : ∀ v, body.tools = some v → v.hasLength = true →
    ∃ items raw, v = .arr items ∧ raw ∈ items ∧ (mapOpenAiTool raw).isSome = true
  toolChoice : openAiToolChoiceKnown body.toolChoice

open Fallible in
theorem mapOpenAiMessage_succeeds (m : Nested OpenAiChatMessage) :
    Succeeds (mapOpenAiMessage m) ↔ openAiMessageKnown m := by
  cases m with
  | null => simp [mapOpenAiMessage, openAiMessageKnown, not_succeeds_error]
  | array => simp [mapOpenAiMessage, openAiMessageKnown, succeeds_ok]
  | dto d =>
    cases hrole : d.role with
    | tool =>
      cases hid : truthy d.toolCallId <;>
        simp [mapOpenAiMessage, openAiMessageKnown, hrole, hid, succeeds_ok, not_succeeds_error]
    | _ => simp [mapOpenAiMessage, openAiMessageKnown, hrole, succeeds_ok]

/-- A message that is mapped to nothing is a system message, or none at all. -/
theorem mapOpenAiMessage_ne_nil {m : Nested OpenAiChatMessage} {messages : List ChatMessage}
    (h : mapOpenAiMessage m = .ok messages) : messages ≠ [] ↔ ∃ d, m = .dto d ∧ d.role ≠ .system := by
  cases m with
  | null => cases h
  | array => cases h; simp
  | dto d =>
    simp only [Nested.dto.injEq, exists_eq_left']
    cases hrole : d.role with
    | tool =>
      simp only [mapOpenAiMessage, hrole] at h
      split at h
      · cases h
      · cases h; simp
    | _ => simp only [mapOpenAiMessage, hrole] at h; cases h; simp

theorem collected_ne_nil {messages : List (Nested OpenAiChatMessage)} {mapped : List (List ChatMessage)}
    (h : Fallible.collect mapOpenAiMessage messages = .ok mapped) :
    mapped.flatten ≠ [] ↔ ∃ d, .dto d ∈ messages ∧ d.role ≠ .system := by
  induction messages generalizing mapped with
  | nil => cases h; simp
  | cons m messages ih =>
    obtain ⟨ms, rest, hm, hrest, rfl⟩ := Fallible.collect_cons h
    have hhead := mapOpenAiMessage_ne_nil hm
    have htail := ih hrest
    rw [List.flatten_cons, ne_eq, List.append_eq_nil_iff, not_and_or, ← ne_eq, ← ne_eq, hhead, htail]
    constructor
    · intro hex
      rcases hex with ⟨d, rfl, hd⟩ | ⟨d, hmem, hd⟩
      · exact ⟨d, List.mem_cons_self, hd⟩
      · exact ⟨d, List.mem_cons_of_mem _ hmem, hd⟩
    · intro hex
      obtain ⟨d, hmem, hd⟩ := hex
      rcases List.mem_cons.mp hmem with heq | hmem
      · exact .inl ⟨d, heq.symm, hd⟩
      · exact .inr ⟨d, hmem, hd⟩

open Fallible in
theorem mapOpenAiMessagesToGateway_succeeds (messages : List (Nested OpenAiChatMessage)) :
    Succeeds (mapOpenAiMessagesToGateway messages) ↔
      (∀ m ∈ messages, openAiMessageKnown m) ∧ ∃ d, .dto d ∈ messages ∧ d.role ≠ .system := by
  have hrest : ∀ mapped, Fallible.collect mapOpenAiMessage messages = .ok mapped →
      (Succeeds (if mapped.flatten.isEmpty = true then .error (validationFailed
          "At least one user, assistant or tool message is required after filtering.")
        else .ok mapped.flatten) ↔ ∃ d, .dto d ∈ messages ∧ d.role ≠ .system) := by
    intro mapped hmapped
    rw [succeeds_ite_error, ← collected_ne_nil hmapped]
    simp [succeeds_ok]
  unfold mapOpenAiMessagesToGateway
  rw [succeeds_bind_of hrest, succeeds_collect]
  simp only [mapOpenAiMessage_succeeds]

open Fallible in
theorem openAiParams_succeeds (body : OpenAiChatBody) :
    Succeeds (openAiParams body) ↔ body.responseFormat ≠ some .null := by
  unfold openAiParams
  by_cases hparams : body.hasParams = true
  · simp only [hparams, Bool.not_true, Bool.false_eq_true, if_false]
    cases hformat : body.responseFormat with
    | none => simp [succeeds_bind, succeeds_ok]
    | some format =>
      cases format <;> simp [openAiResponseFormat, Except.map, succeeds_bind, succeeds_ok]
  · -- without parameters there is no `response_format` either
    have hnone : body.responseFormat = none := by
      simp only [OpenAiChatBody.hasParams, Bool.not_eq_true, List.any_eq_false] at hparams
      simpa using hparams body.responseFormat (by simp)
    simp [hparams, hnone, succeeds_ok]

/-- The characters of a string are no tools. -/
theorem filterMap_chars (s : String) :
    ((s.toList.map fun c => Json.Value.str (String.singleton c)).filterMap mapOpenAiTool) = [] := by
  simp [mapOpenAiTool, Json.Value.isObject]

open Fallible in
theorem mapOpenAiToolsToGateway_succeeds {v : Json.Value} (hlen : v.hasLength = true) :
    Succeeds (mapOpenAiToolsToGateway v) ↔
      ∃ items raw, v = .arr items ∧ raw ∈ items ∧ (mapOpenAiTool raw).isSome = true := by
  cases v with
  | arr items =>
    have hpos : items.length > 0 := by
      cases items with
      | nil => cases hlen
      | cons => simp
    simp only [mapOpenAiToolsToGateway, Json.iterate, succeeds_ite_error, hpos, true_and]
    constructor
    · intro h
      have hne : items.filterMap mapOpenAiTool ≠ [] := by simpa using h.1
      obtain ⟨raw, hmem, hsome⟩ := by simpa [List.filterMap_eq_nil_iff] using hne
      exact ⟨items, raw, rfl, hmem, by simpa [Option.isSome_iff_ne_none] using hsome⟩
    · intro h
      obtain ⟨items', raw, heq, hmem, hsome⟩ := h
      cases heq
      refine ⟨?_, succeeds_ok _⟩
      intro hzero
      have hnil := List.length_eq_zero_iff.mp hzero
      rw [List.filterMap_eq_nil_iff] at hnil
      rw [hnil raw hmem] at hsome
      cases hsome
  -- A text is iterated over as well, but none of its characters is a tool.
  | str s =>
    have hs : s ≠ "" := by simpa [Json.Value.hasLength] using hlen
    have hpos : (s.toList.map fun c => Json.Value.str (String.singleton c)).length > 0 := by
      rw [List.length_map, gt_iff_lt, List.length_pos_iff]
      intro hnil
      exact hs (String.toList_eq_nil_iff.mp hnil)
    simp only [mapOpenAiToolsToGateway, Json.iterate, filterMap_chars, hpos, List.length_nil, and_self, if_true]
    simp [not_succeeds_error]
  | obj members => simp [mapOpenAiToolsToGateway, Json.iterate, not_succeeds_error]
  | _ => cases hlen

open Fallible in
theorem mapOpenAiToolChoice_succeeds (toolChoice : Option Json.Value) :
    Succeeds (mapOpenAiToolChoice toolChoice) ↔ openAiToolChoiceKnown toolChoice := by
  cases toolChoice with
  | none => simp [mapOpenAiToolChoice, openAiToolChoiceKnown, succeeds_ok]
  | some choice =>
    by_cases htruthy : choice.truthy = true
    · simp only [mapOpenAiToolChoice, openAiToolChoiceKnown, Option.filter, htruthy, if_true,
        Option.some.injEq, forall_eq', true_implies]
      split
      · next h => cases h
      · next h => cases h; simp [succeeds_ok]
      · next h => cases h; simp [succeeds_ok]
      · next h => cases h; simp [succeeds_ok]
      · next hauto hnone hrequired h =>
        cases h
        rw [succeeds_namedChoice]
        constructor
        · intro h
          exact .inr (.inr (.inr h))
        · intro h
          rcases h with rfl | rfl | rfl | h
          · exact absurd rfl hauto
          · exact absurd rfl hnone
          · exact absurd rfl hrequired
          · exact h
    · simp [mapOpenAiToolChoice, openAiToolChoiceKnown, Option.filter, htruthy, succeeds_ok]

open Fallible in
theorem mapOpenAiChatRequestToGateway_succeeds (body : OpenAiChatBody) :
    Succeeds (mapOpenAiChatRequestToGateway body) ↔ body.Mappable := by
  have htools : Succeeds (mapTools mapOpenAiToolsToGateway body.tools) ↔
      ∀ v, body.tools = some v → v.hasLength = true →
        ∃ items raw, v = .arr items ∧ raw ∈ items ∧ (mapOpenAiTool raw).isSome = true := by
    rw [succeeds_mapTools]
    apply forall_congr'
    intro v
    apply imp_congr_right
    intro _
    apply imp_congr_right
    exact mapOpenAiToolsToGateway_succeeds
  -- What follows the messages does not look at them.
  have hrest : ∀ messages, mapOpenAiMessagesToGateway body.messages = .ok messages →
      (Succeeds (openAiRequestOf body messages) ↔ body.responseFormat ≠ some .null ∧
        (∀ v, body.tools = some v → v.hasLength = true →
          ∃ items raw, v = .arr items ∧ raw ∈ items ∧ (mapOpenAiTool raw).isSome = true) ∧
        openAiToolChoiceKnown body.toolChoice) := by
    intro messages _
    rw [← openAiParams_succeeds, ← htools, ← mapOpenAiToolChoice_succeeds]
    apply succeeds_bind_of
    intro params _
    apply succeeds_bind_of
    intro definitions _
    exact succeeds_bind_ok
  unfold mapOpenAiChatRequestToGateway
  rw [succeeds_bind_of hrest, mapOpenAiMessagesToGateway_succeeds]
  constructor
  · intro h
    exact ⟨h.1.1, h.1.2, h.2.1, h.2.2.1, h.2.2.2⟩
  · intro h
    exact ⟨⟨h.messages, h.notOnlySystem⟩, h.responseFormat, h.tools, h.toolChoice⟩

end AiGateway
