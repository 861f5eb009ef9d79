import AiGateway.Chat.RequestDto

/- The Anthropic facade's request: `AnthropicMessagesRequestDto` as validation leaves it, and
   `mapAnthropicRequestToGateway` with its mappers for content blocks, tools and tool choice.

   `mapAnthropicRequestToGateway_succeeds`: the bodies that the mapping does not reject. -/
namespace AiGateway

open JsString (truthy)

inductive AnthropicBlockType where
  | text | image | toolUse | toolResult
  deriving DecidableEq, Repr

/-- `AnthropicContentBlockDto`; a property sent as `null` is read like an absent one. -/
structure AnthropicContentBlock where
  type : AnthropicBlockType
  text : Option String := none
  id : Option String := none
  name : Option String := none
  input : Option Json.Value := none
  toolUseId : Option String := none
  content : Option String := none

inductive AnthropicRole where
  | user | assistant
  deriving DecidableEq, Repr

structure AnthropicMessage where
  role : AnthropicRole
  content : List (Nested AnthropicContentBlock)

/-- `AnthropicMessagesRequestDto`; for the properties kept as JSON, `some .null` is a `null`
that `@IsOptional()` lets through. -/
structure AnthropicMessagesBody where
  model : String
  messages : List (Nested AnthropicMessage)
  system : Option String := none
  stream : Option Bool := none
  maxTokens : Option Json.Value := none
  temperature : Option Json.Value := none
  tools : Option Json.Value := none
  toolChoice : Option Json.Value := none
  topP : Option Json.Value := none
  topK : Option Json.Value := none
  stopSequences : Option Json.Value := none
  outputConfig : Option Json.Value := none
  metadata : Option Json.Value := none
  thinking : Option Json.Value := none

/-! ## Content blocks -/

/-- `blocks.some((block) => block.type === 'image')`, which throws at a `null` before one. -/
def someImage : List (Nested AnthropicContentBlock) → Except ThrownError Bool
  | [] => .ok false
  | .null :: _ => .error (cannotRead "null" "type")
  | .array :: blocks => someImage blocks
  | .dto b :: blocks => if b.type = .image then .ok true else someImage blocks

/-- The three accumulators of the loop over the blocks. -/
structure BlockFold where
  textContent : String := ""
  toolCalls : List GatewayToolCall := []
  toolMessages : List ChatMessage := []

def foldBlock (acc : BlockFold) : Nested AnthropicContentBlock → BlockFold
  | .dto b =>
    match b.type, truthy b.text, truthy b.id, truthy b.name, truthy b.toolUseId with
    | .text, some text, _, _, _ => { acc with textContent := acc.textContent ++ text }
    | .toolUse, _, some id, some name, _ =>
      { acc with
        toolCalls := acc.toolCalls ++ [⟨id, name, Json.stringify (Json.orElse b.input (.obj []))⟩] }
    | .toolResult, _, _, _, some toolUseId =>
      { acc with
        toolMessages := acc.toolMessages ++ [⟨.tool, b.content.getD "", some toolUseId, none⟩] }
    | _, _, _, _, _ => acc
  | .null | .array => acc

def blockMessages (role : AnthropicRole) (acc : BlockFold) : List ChatMessage :=
  (match role with
    | .user => if acc.textContent ≠ "" then [⟨.user, acc.textContent, none, none⟩] else []
    | .assistant =>
      [⟨.assistant, acc.textContent, none, if acc.toolCalls.isEmpty then none else some acc.toolCalls⟩]) ++
    acc.toolMessages

def mapAnthropicContentBlockToGateway (role : AnthropicRole) (blocks : List (Nested AnthropicContentBlock)) :
    Except ThrownError (List ChatMessage) := do
  let image ← someImage blocks
  if image then .error (validationFailed "Image content block are not supported.")
  else
    let messages := blockMessages role (blocks.foldl foldBlock {})
    if messages.isEmpty then
      .error (validationFailed "Each message must have at least one supported content block.")
    else .ok messages

def mapAnthropicMessage : Nested AnthropicMessage → Except ThrownError (List ChatMessage)
  | .dto m => mapAnthropicContentBlockToGateway m.role m.content
  | .null => .error (cannotRead "null" "role")
  -- neither role nor content: the blocks are undefined
  | .array => .error (cannotRead "undefined" "some")

/-! ## Tools -/

def mapAnthropicTool (raw : Json.Value) : Option GatewayToolDefinition :=
  match raw.isObject, raw.get? "name" with
  | true, some name =>
    if name.truthy then
      some ⟨name, (raw.get? "description").filter Json.Value.truthy,
        Json.orElse (raw.get? "input_schema") (.obj [])⟩
    else none
  | _, _ => none

def mapAnthropicToolsToGateway (tools : Json.Value) : Except ThrownError (List GatewayToolDefinition) :=
  match Json.iterate tools with
  | some items => .ok (items.filterMap mapAnthropicTool)
  | none => .error (.other "tools is not iterable")

/-- `type == 'any'`: a one-element array is compared by its element. -/
def looselyAny : Json.Value → Bool
  | .str s => s = "any"
  | .arr [v] => looselyAny v
  | _ => false

def mapAnthropicToolChoice (toolChoice : Option Json.Value) :
    Except ThrownError (Option GatewayToolChoice) :=
  match toolChoice.filter Json.Value.truthy with
  | none => .ok none
  | some choice =>
    if Json.isText (choice.get? "type") "auto" then .ok (some .auto)
    else if (choice.get? "type").any looselyAny then .ok (some .required)
    else namedChoice (Json.isText (choice.get? "type") "tool") (choice.get? "name")

/-! ## The request -/

def anthropicResponseFormat (outputConfig : Json.Value) : Except ThrownError ResponseFormat :=
  match outputConfig with
  | .null => .error (cannotRead "null" "format")
  | config =>
    let format := config.get? "format"
    .ok ⟨some (.str (if Json.isText (Json.prop format "type") "json_schema" then "json_object" else "text")),
      Json.prop format "schema"⟩

def anthropicThinking (body : AnthropicMessagesBody) (params : ChatParams) : ChatParams :=
  let type := Json.prop body.thinking "type"
  let params :=
    if Json.truthy? body.thinking && !Json.isText type "disabled" then
      let params := { params with thinkingEnabled := some true }
      if Json.isText type "enabled" && Json.truthy? (Json.prop body.thinking "budget_tokens") then
        { params with thinkingBudget := Json.prop body.thinking "budget_tokens" }
      else params
    else params
  let effort := Json.prop body.outputConfig "effort"
  if Json.truthy? effort && !Json.truthy? body.thinking then { params with thinkingBudget := effort }
  else params

/-- Whether `dto.params` is set at all. -/
def AnthropicMessagesBody.hasParams (body : AnthropicMessagesBody) : Bool :=
  [body.temperature, body.maxTokens, body.topP, body.topK, body.stopSequences, body.outputConfig,
    body.thinking].any Option.isSome

def anthropicParams (body : AnthropicMessagesBody) : Except ThrownError (Option ChatParams) := do
  if !body.hasParams then .ok none
  else
    let responseFormat ← match body.outputConfig with
      | none => .ok none
      | some config => (anthropicResponseFormat config).map some
    .ok (some (anthropicThinking body
      { temperature := body.temperature, maxOutputTokens := body.maxTokens, topP := body.topP
        topK := body.topK, stop := body.stopSequences, responseFormat := responseFormat }))

def anthropicMetadata (metadata : Option Json.Value) : Option Json.Value :=
  ((Json.prop metadata "user_id").filter Json.Value.truthy).map fun userId => .obj [("userId", userId)]

/-- The rest of the mapping, once the messages are mapped. -/
def anthropicRequestOf (body : AnthropicMessagesBody) (messages : List ChatMessage) :
    Except ThrownError ChatRequestDto := do
  let params ← anthropicParams body
  let definitions ← mapTools mapAnthropicToolsToGateway body.tools
  let toolChoice ← mapAnthropicToolChoice body.toolChoice
  .ok { modelAlias := body.model, messages := messages, params := params, conversationId := none
        tooling := mapTooling definitions toolChoice, metadata := anthropicMetadata body.metadata }

def mapAnthropicRequestToGateway (body : AnthropicMessagesBody) : Except ThrownError ChatRequestDto := do
  let mapped ← Fallible.collect mapAnthropicMessage body.messages
  if mapped.flatten.isEmpty then .error (validationFailed "At least one message is required.")
  else anthropicRequestOf body mapped.flatten

/-! ## What is rejected -/

/-- The block gives the message something to say. -/
def AnthropicContentBlock.contributes (b : AnthropicContentBlock) : Bool :=
  match b.type with
  | .text => (truthy b.text).isSome
  | .toolResult => (truthy b.toolUseId).isSome
  | _ => false

/-- No `null` and no image among the blocks, and a user message says something. -/
structure AnthropicMessage.Mappable (m : AnthropicMessage) : Prop where
  noImage : ∀ b ∈ m.content, b = .array ∨ ∃ d, b = .dto d ∧ d.type ≠ .image
  speaks : m.role = .assistant ∨ ∃ d, .dto d ∈ m.content ∧ d.contributes = true

/-- `tool_choice` is falsy, `auto`, `any`, or a tool with a name. -/
def anthropicToolChoiceKnown (toolChoice : Option Json.Value) : Prop :=
  ∀ choice, toolChoice = some choice → choice.truthy = true →
    Json.isText (choice.get? "type") "auto" = true ∨ (choice.get? "type").any looselyAny = true ∨
      (Json.isText (choice.get? "type") "tool" = true ∧ Json.truthy? (choice.get? "name") = true)

structure AnthropicMessagesBody.Mappable (body : AnthropicMessagesBody) : Prop where
  nonempty : body.messages ≠ []
  messages : ∀ m ∈ body.messages, ∃ d, m = .dto d ∧ d.Mappable
  outputConfig : body.outputConfig ≠ some .null
  -- an object with a truthy `length` is not iterable
  tools : ∀ members, body.tools = some (.obj members) → (Json.Value.obj members).hasLength = false
  toolChoice : anthropicToolChoiceKnown body.toolChoice

theorem someImage_eq_false {blocks : List (Nested AnthropicContentBlock)} :
    someImage blocks = .ok false ↔ ∀ b ∈ blocks, b = .array ∨ ∃ d, b = .dto d ∧ d.type ≠ .image := by
  induction blocks with
  | nil => simp [someImage]
  | cons b blocks ih =>
    cases b with
    | null => simp [someImage]
    | array => simp [someImage, ih]
    | dto d =>
      by_cases hd : d.type = .image
      · simp [someImage, hd]
      · simp [someImage, hd, ih]

/-- The accumulators hold a text or a tool message. -/
def BlockFold.Speaks (acc : BlockFold) : Prop := acc.textContent ≠ "" ∨ acc.toolMessages ≠ []

theorem foldBlock_speaks (acc : BlockFold) (b : Nested AnthropicContentBlock) :
    (foldBlock acc b).Speaks ↔ acc.Speaks ∨ ∃ d, b = .dto d ∧ d.contributes = true := by
  cases b with
  | null => simp [foldBlock]
  | array => simp [foldBlock]
  | dto d =>
    simp only [Nested.dto.injEq, exists_eq_left']
    cases htype : d.type with
    | image => simp [foldBlock, htype, AnthropicContentBlock.contributes]
    | text =>
      cases htext : truthy d.text with
      | none => simp [foldBlock, htype, htext, AnthropicContentBlock.contributes]
      | some text =>
        have hne : text ≠ "" := by
          have := Option.filter_eq_some_iff.mp htext
          simpa using this.2
        simp [foldBlock, htype, htext, AnthropicContentBlock.contributes, BlockFold.Speaks, hne]
    -- A call needs an id and a name, neither of them empty.
    | toolUse =>
      cases hid : truthy d.id with
      | none => simp [foldBlock, htype, hid, AnthropicContentBlock.contributes]
      | some id =>
        cases hname : truthy d.name <;>
          simp [foldBlock, htype, hid, hname, AnthropicContentBlock.contributes, BlockFold.Speaks]
    | toolResult =>
      cases huse : truthy d.toolUseId with
      | none => simp [foldBlock, htype, huse, AnthropicContentBlock.contributes]
      | some id => simp [foldBlock, htype, huse, AnthropicContentBlock.contributes, BlockFold.Speaks]

theorem foldBlocks_speaks (acc : BlockFold) (blocks : List (Nested AnthropicContentBlock)) :
    (blocks.foldl foldBlock acc).Speaks ↔ acc.Speaks ∨ ∃ d, .dto d ∈ blocks ∧ d.contributes = true := by
  induction blocks generalizing acc with
  | nil => simp
  | cons b blocks ih =>
    rw [List.foldl_cons, ih, foldBlock_speaks]
    constructor
    · intro h
      rcases h with (h | ⟨d, rfl, hd⟩) | ⟨d, hmem, hd⟩
      · exact .inl h
      · exact .inr ⟨d, List.mem_cons_self, hd⟩
      · exact .inr ⟨d, List.mem_cons_of_mem _ hmem, hd⟩
    · intro h
      rcases h with h | ⟨d, hmem, hd⟩
      · exact .inl (.inl h)
      · rcases List.mem_cons.mp hmem with heq | hmem
        · exact .inl (.inr ⟨d, heq.symm, hd⟩)
        · exact .inr ⟨d, hmem, hd⟩

theorem blockMessages_eq_nil (role : AnthropicRole) (acc : BlockFold) :
    blockMessages role acc ≠ [] ↔ role = .assistant ∨ acc.Speaks := by
  cases role with
  | assistant => simp [blockMessages]
  | user =>
    by_cases htext : acc.textContent = ""
    · simp [blockMessages, BlockFold.Speaks, htext]
    · simp [blockMessages, BlockFold.Speaks, htext]

open Fallible in
theorem mapAnthropicContentBlockToGateway_succeeds (m : AnthropicMessage) :
    Succeeds (mapAnthropicContentBlockToGateway m.role m.content) ↔ m.Mappable := by
  have hspeaks : blockMessages m.role (m.content.foldl foldBlock {}) ≠ [] ↔
      m.role = .assistant ∨ ∃ d, .dto d ∈ m.content ∧ d.contributes = true := by
    rw [blockMessages_eq_nil, foldBlocks_speaks]
    simp [BlockFold.Speaks]
  unfold mapAnthropicContentBlockToGateway
  rw [succeeds_bind]
  constructor
  · intro h
    obtain ⟨image, himage, hrest⟩ := h
    cases image with
    | true => exact absurd hrest (not_succeeds_error _)
    | false =>
      simp only [Bool.false_eq_true, if_false, succeeds_ite_error] at hrest
      refine ⟨someImage_eq_false.mp himage, hspeaks.mp ?_⟩
      simpa using hrest.1
  · intro h
    refine ⟨false, someImage_eq_false.mpr h.noImage, ?_⟩
    simp only [Bool.false_eq_true, if_false, succeeds_ite_error]
    exact ⟨by simpa using hspeaks.mpr h.speaks, succeeds_ok _⟩

open Fallible in
theorem mapAnthropicMessage_succeeds (m : Nested AnthropicMessage) :
    Succeeds (mapAnthropicMessage m) ↔ ∃ d, m = .dto d ∧ d.Mappable := by
  cases m with
  | null => simp [mapAnthropicMessage, not_succeeds_error]
  | array => simp [mapAnthropicMessage, not_succeeds_error]
  | dto d => simp [mapAnthropicMessage, mapAnthropicContentBlockToGateway_succeeds]

theorem mapAnthropicMessage_ne_nil {m : Nested AnthropicMessage} {messages : List ChatMessage}
    (h : mapAnthropicMessage m = .ok messages) : messages ≠ [] := by
  cases m with
  | null => cases h
  | array => cases h
  | dto d =>
    simp only [mapAnthropicMessage, mapAnthropicContentBlockToGateway, bind, Except.bind] at h
    split at h
    · cases h
    · split at h
      · cases h
      · split at h
        · cases h
        · next hne =>
          cases h
          simpa using hne

/-- Every message maps to at least one, so only an empty list is left empty. -/
theorem collected_isEmpty {messages : List (Nested AnthropicMessage)} {mapped : List (List ChatMessage)}
    (h : Fallible.collect mapAnthropicMessage messages = .ok mapped) :
    mapped.flatten.isEmpty = true ↔ messages = [] := by
  cases messages with
  | nil => cases h; simp
  | cons m messages =>
    obtain ⟨ms, rest, hm, -, rfl⟩ := Fallible.collect_cons h
    simp [mapAnthropicMessage_ne_nil hm]

open Fallible in
theorem anthropicParams_succeeds (body : AnthropicMessagesBody) :
    Succeeds (anthropicParams body) ↔ body.outputConfig ≠ some .null := by
  unfold anthropicParams
  by_cases hparams : body.hasParams = true
  · simp only [hparams, Bool.not_true, Bool.false_eq_true, if_false]
    cases hconfig : body.outputConfig with
    | none => simp [succeeds_bind, succeeds_ok]
    | some config =>
      cases config <;> simp [anthropicResponseFormat, Except.map, succeeds_bind, succeeds_ok]
  · -- without parameters there is no `output_config` either
    have hnone : body.outputConfig = none := by
      simp only [AnthropicMessagesBody.hasParams, Bool.not_eq_true, List.any_eq_false] at hparams
      simpa using hparams body.outputConfig (by simp)
    simp [hparams, hnone, succeeds_ok]

open Fallible in
theorem anthropicTools_succeeds (tools : Option Json.Value) :
    Succeeds (mapTools mapAnthropicToolsToGateway tools) ↔
      ∀ members, tools = some (.obj members) → (Json.Value.obj members).hasLength = false := by
  rw [succeeds_mapTools]
  constructor
  · intro h members htools
    by_contra hlen
    exact not_succeeds_error _ (h _ htools (by simpa using hlen))
  · intro h v htools hlen
    cases v with
    | arr items => exact succeeds_ok _
    | str s => exact succeeds_ok _
    | obj members => rw [h members htools] at hlen; cases hlen
    | _ => cases hlen

open Fallible in
theorem mapAnthropicToolChoice_succeeds (toolChoice : Option Json.Value) :
    Succeeds (mapAnthropicToolChoice toolChoice) ↔ anthropicToolChoiceKnown toolChoice := by
  cases toolChoice with
  | none => simp [mapAnthropicToolChoice, anthropicToolChoiceKnown, succeeds_ok]
  | some choice =>
    by_cases htruthy : choice.truthy = true
    · simp only [mapAnthropicToolChoice, anthropicToolChoiceKnown, Option.filter, htruthy, if_true,
        Option.some.injEq, forall_eq', true_implies]
      split
      · next hauto => simp [hauto, succeeds_ok]
      · next hauto =>
        split
        · next hany => simp [hany, succeeds_ok]
        · next hany =>
          simp [hauto, hany, succeeds_namedChoice]
    · simp [mapAnthropicToolChoice, anthropicToolChoiceKnown, Option.filter, htruthy, succeeds_ok]

open Fallible in
theorem anthropicRequestOf_succeeds (body : AnthropicMessagesBody) (messages : List ChatMessage) :
    Succeeds (anthropicRequestOf body messages) ↔ body.outputConfig ≠ some .null ∧
      (∀ members, body.tools = some (.obj members) → (Json.Value.obj members).hasLength = false) ∧
      anthropicToolChoiceKnown body.toolChoice := by
  rw [← anthropicParams_succeeds, ← anthropicTools_succeeds, ← mapAnthropicToolChoice_succeeds]
  apply succeeds_bind_of
  intro params _
  apply succeeds_bind_of
  intro definitions _
  exact succeeds_bind_ok

open Fallible in
theorem mapAnthropicRequestToGateway_succeeds (body : AnthropicMessagesBody) :
    Succeeds (mapAnthropicRequestToGateway body) ↔ body.Mappable := by
  have hrest : ∀ mapped, Fallible.collect mapAnthropicMessage body.messages = .ok mapped →
      (Succeeds (if mapped.flatten.isEmpty = true
          then .error (validationFailed "At least one message is required.")
          else anthropicRequestOf body mapped.flatten) ↔
        body.messages ≠ [] ∧ body.outputConfig ≠ some .null ∧
          (∀ members, body.tools = some (.obj members) → (Json.Value.obj members).hasLength = false) ∧
          anthropicToolChoiceKnown body.toolChoice) := by
    intro mapped hmapped
    rw [succeeds_ite_error, collected_isEmpty hmapped, anthropicRequestOf_succeeds]
  unfold mapAnthropicRequestToGateway
  rw [succeeds_bind_of hrest, succeeds_collect]
  simp only [mapAnthropicMessage_succeeds]
  constructor
  · intro h
    exact ⟨h.2.1, h.1, h.2.2.1, h.2.2.2.1, h.2.2.2.2⟩
  · intro h
    exact ⟨h.messages, h.nonempty, h.outputConfig, h.tools, h.toolChoice⟩

end AiGateway
