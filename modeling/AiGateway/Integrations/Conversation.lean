import AiGateway.Integrations.OpenAiRequest
import AiGateway.Providers.GoogleTools
import AiGateway.Providers.TurnHistory

/- A conversation on its way from a client to a provider. The two facades take the messages of
   two APIs, the gateway has one list of turns, and four mappers turn that into the messages
   of four APIs. `Utterance` is what all of them can say; every message, of a client or of a
   provider, is read as a list of those.

   `conversation_kept`: whatever facade a request has come in by, each provider is told what
   the client said, message after message, but for two things. The texts of a message of the
   Anthropic facade are one text, and its calls and results go behind it (`textsFirst`), so
   such a message keeps its own order only where its blocks have that order already. And
   Gemini has the content of a result as the JSON object that it is, or `{}`. -/
namespace AiGateway

open JsString (truthy)

/-! ## What is said -/

inductive Utterance where
  | user (text : String)
  | assistant (text : String)
  | call (id name : String) (input : Json.Value)
  | result (toolCallId content : String)

/-- The text of an assistant; an empty one says nothing. -/
def spoken (text : String) : List Utterance := if text = "" then [] else [.assistant text]

def GatewayToolCall.utterance (call : GatewayToolCall) : Utterance :=
  .call call.id call.name (argumentsSaid call.arguments)

/-! ## Clients -/

/-- A function call that has an id and a name. -/
def OpenAiToolCallItem.utterance? : OpenAiToolCallItem → Option Utterance
  | .other => none
  | .call id type name arguments =>
    match truthy id, truthy name with
    | some id, some name =>
      if type = some "function" then some (.call id name (argumentsSaid (arguments.getD "{}"))) else none
    | _, _ => none

def OpenAiChatMessage.utterances (m : OpenAiChatMessage) : List Utterance :=
  match m.role with
  | .system => []
  | .user => [.user m.content]
  | .assistant => spoken m.content ++ (m.toolCalls.getD []).filterMap OpenAiToolCallItem.utterance?
  | .tool => [.result (m.toolCallId.getD "") m.content]

/-- The conversation of an OpenAI client, without the system messages. -/
def openAiConversation (messages : List (Nested OpenAiChatMessage)) : List Utterance :=
  messages.flatMap fun
    | .dto m => m.utterances
    | .null | .array => []

/-- `input` as the object that a call is made with. -/
def inputObject (input : Option Json.Value) : Json.Value := .obj ((input.map Json.asMembers).getD [])

def AnthropicRole.speak (role : AnthropicRole) (text : String) : Utterance :=
  match role with
  | .user => .user text
  | .assistant => .assistant text

def AnthropicContentBlock.call? (b : AnthropicContentBlock) : Option Utterance :=
  match b.type, truthy b.id, truthy b.name with
  | .toolUse, some id, some name => some (.call id name (inputObject b.input))
  | _, _, _ => none

def AnthropicContentBlock.result? (b : AnthropicContentBlock) : Option Utterance :=
  b.toolResult.map fun result => .result result.1 result.2

/-- What a block says. Only an assistant makes calls. -/
def AnthropicContentBlock.utterance? (role : AnthropicRole) (b : AnthropicContentBlock) : Option Utterance :=
  match b.type with
  | .text => (truthy b.text).map role.speak
  | .toolUse => if role = .assistant then b.call? else none
  | .toolResult => b.result?
  | .image => none

/-- What a message says, block by block. -/
def AnthropicMessage.said (m : AnthropicMessage) : List Utterance :=
  readBlocks (AnthropicContentBlock.utterance? m.role) m.content

/-! ## The order of a message -/

/-- Texts, then calls, then results. -/
def Utterance.rank : Utterance → ℕ
  | .user _ | .assistant _ => 0
  | .call _ _ _ => 1
  | .result _ _ => 2

/-- A text before another one of the same speaker is one text with it. -/
def Utterance.before : Utterance → List Utterance → List Utterance
  | .user text, .user next :: rest => .user (text ++ next) :: rest
  | .assistant text, .assistant next :: rest => .assistant (text ++ next) :: rest
  | u, rest => u :: rest

/-- Texts in a row, as one text. -/
def joinTexts : List Utterance → List Utterance
  | [] => []
  | u :: us => u.before (joinTexts us)

def ofRank (n : ℕ) (said : List Utterance) : List Utterance := said.filter fun u => u.rank = n

/-- A message in the order in which it is passed on. -/
def textsFirst (said : List Utterance) : List Utterance := joinTexts (ofRank 0 said) ++ (ofRank 1 said ++ ofRank 2 said)

/-- Each text, call and result of the message stands where it is passed on. -/
def InOrder (said : List Utterance) : Prop := said.Pairwise fun u v => u.rank ≤ v.rank

/-- The conversation of an Anthropic client. -/
def anthropicConversation (body : AnthropicMessagesBody) : List Utterance :=
  (clientMessages body).flatMap fun m => textsFirst m.said

theorem Utterance.before_cases (u : Utterance) (us : List Utterance) :
    u.before us = u :: us ∨ ∃ v w rest, us = v :: rest ∧ u.before us = w :: rest ∧
      u.rank = 0 ∧ v.rank = 0 ∧ w.rank = 0 := by
  unfold Utterance.before
  split
  · next text next rest => exact .inr ⟨.user next, .user (text ++ next), rest, rfl, rfl, rfl, rfl, rfl⟩
  · next text next rest => exact .inr ⟨.assistant next, .assistant (text ++ next), rest, rfl, rfl, rfl, rfl, rfl⟩
  · exact .inl rfl

/-- Joining keeps the ranks that there are. -/
theorem joinTexts_ranks (n : ℕ) (said : List Utterance) :
    (∃ u ∈ joinTexts said, u.rank = n) ↔ ∃ u ∈ said, u.rank = n := by
  induction said with
  | nil => rfl
  | cons u us ih =>
    rw [List.exists_mem_cons_iff, ← ih, joinTexts]
    obtain hkept | ⟨v, w, rest, hrest, hjoined, hu, hv, hw⟩ := u.before_cases (joinTexts us)
    · rw [hkept, List.exists_mem_cons_iff]
    · rw [hjoined, hrest, List.exists_mem_cons_iff, List.exists_mem_cons_iff, hu, hv, hw]
      tauto

theorem joinTexts_inOrder (said : List Utterance) : InOrder (joinTexts said) ↔ InOrder said := by
  induction said with
  | nil => rfl
  | cons u us ih =>
    have hle : (∀ v ∈ joinTexts us, u.rank ≤ v.rank) ↔ ∀ v ∈ us, u.rank ≤ v.rank := by
      constructor
      · intro h v hv
        obtain ⟨w, hw, hrank⟩ := (joinTexts_ranks v.rank us).mpr ⟨v, hv, rfl⟩
        exact hrank ▸ h w hw
      · intro h v hv
        obtain ⟨w, hw, hrank⟩ := (joinTexts_ranks v.rank us).mp ⟨v, hv, rfl⟩
        exact hrank ▸ h w hw
    unfold InOrder at ih ⊢
    rw [List.pairwise_cons, ← ih, ← hle, joinTexts]
    obtain hkept | ⟨v, w, rest, hrest, hjoined, hu, hv, hw⟩ := u.before_cases (joinTexts us)
    · rw [hkept, List.pairwise_cons]
    · rw [hjoined, hrest, List.pairwise_cons, List.pairwise_cons, hu, hv, hw]
      simp

theorem ofRank_inOrder (n : ℕ) (said : List Utterance) : InOrder (ofRank n said) := by
  refine List.pairwise_of_forall_mem_list fun u hu v hv => ?_
  rw [of_decide_eq_true (List.mem_filter.mp hu).2, of_decide_eq_true (List.mem_filter.mp hv).2]

theorem textsFirst_inOrder (said : List Utterance) : InOrder (textsFirst said) := by
  have hrank : ∀ {n : ℕ} {u}, u ∈ ofRank n said → u.rank = n := fun hu => of_decide_eq_true (List.mem_filter.mp hu).2
  have htexts : ∀ u ∈ joinTexts (ofRank 0 said), u.rank = 0 := by
    intro u hu
    obtain ⟨v, hv, hvrank⟩ := (joinTexts_ranks u.rank _).mp ⟨u, hu, rfl⟩
    exact hvrank.symm.trans (hrank hv)
  refine List.pairwise_append.mpr ⟨(joinTexts_inOrder _).mpr (ofRank_inOrder 0 said), ?_, ?_⟩
  · refine List.pairwise_append.mpr ⟨ofRank_inOrder 1 said, ofRank_inOrder 2 said, fun u hu v hv => ?_⟩
    rw [hrank hu, hrank hv]
    decide
  · intro u hu v _
    rw [htexts u hu]
    exact Nat.zero_le _

/-- No text is joined with what is none. -/
theorem joinTexts_append {said rest : List Utterance} (h : ∀ u ∈ rest, u.rank ≠ 0) :
    joinTexts (said ++ rest) = joinTexts said ++ rest := by
  have hrest : joinTexts rest = rest := by
    induction rest with
    | nil => rfl
    | cons u us ih =>
      rw [joinTexts, ih fun v hv => h v (List.mem_cons_of_mem u hv)]
      obtain hkept | ⟨_, _, _, -, -, hu, -, -⟩ := u.before_cases us
      · exact hkept
      · exact absurd hu (h u List.mem_cons_self)
  induction said with
  | nil => exact hrest
  | cons u us ih =>
    show u.before (joinTexts (us ++ rest)) = u.before (joinTexts us) ++ rest
    rw [ih]
    cases hus : joinTexts us with
    | cons v vs => cases u <;> cases v <;> rfl
    | nil =>
      have hnone : u.before [] = [u] := by cases u <;> rfl
      rw [hnone]
      obtain hkept | ⟨v, _, _, hv, -, -, hrank, -⟩ := u.before_cases rest
      · exact hkept
      · exact absurd hrank (h v (hv ▸ List.mem_cons_self))

/-- What is in order is its texts, then its calls, then its results. -/
theorem inOrder_eq {said : List Utterance} (h : InOrder said) :
    said = ofRank 0 said ++ (ofRank 1 said ++ ofRank 2 said) := by
  induction said with
  | nil => rfl
  | cons u us ih =>
    obtain ⟨hu, hus⟩ := List.pairwise_cons.mp h
    have hnone : ∀ n, n < u.rank → ofRank n us = [] := by
      intro n hn
      refine List.filter_eq_nil_iff.mpr fun v hv hrank => ?_
      have := hu v hv
      rw [of_decide_eq_true hrank] at this
      omega
    have htail := ih hus
    cases u with
    | user text => exact congrArg (Utterance.user text :: ·) htail
    | assistant text => exact congrArg (Utterance.assistant text :: ·) htail
    | call id name input =>
      rw [hnone 0 Nat.zero_lt_one] at htail
      show _ = ofRank 0 us ++ _
      rw [hnone 0 Nat.zero_lt_one]
      exact congrArg (Utterance.call id name input :: ·) htail
    | result toolCallId content =>
      rw [hnone 0 Nat.zero_lt_two, hnone 1 Nat.one_lt_two] at htail
      show _ = ofRank 0 us ++ (ofRank 1 us ++ _)
      rw [hnone 0 Nat.zero_lt_two, hnone 1 Nat.one_lt_two]
      exact congrArg (Utterance.result toolCallId content :: ·) htail

/-- A message keeps its order just where it has that of `textsFirst`. -/
theorem textsFirst_eq_iff (said : List Utterance) : textsFirst said = joinTexts said ↔ InOrder said := by
  constructor
  · intro h
    exact (joinTexts_inOrder said).mp (h ▸ textsFirst_inOrder said)
  · intro h
    have hbehind : ∀ u ∈ ofRank 1 said ++ ofRank 2 said, u.rank ≠ 0 := by
      intro u hu hzero
      obtain hu | hu := List.mem_append.mp hu
      · exact absurd (hzero.symm.trans (of_decide_eq_true (List.mem_filter.mp hu).2)) (by decide)
      · exact absurd (hzero.symm.trans (of_decide_eq_true (List.mem_filter.mp hu).2)) (by decide)
    calc textsFirst said
        = joinTexts (ofRank 0 said ++ (ofRank 1 said ++ ofRank 2 said)) := (joinTexts_append hbehind).symm
      _ = joinTexts said := by rw [← inOrder_eq h]

/-! ## The gateway -/

def ProviderChatTurn.utterances : ProviderChatTurn → List Utterance
  | .user content => [.user content]
  | .assistant content toolCalls => spoken content ++ (toolCalls.getD []).map GatewayToolCall.utterance
  | .tool toolCallId content => [.result toolCallId content]

/-! ## Providers -/

def AnthropicRole.text (role : AnthropicRole) (text : String) : List Utterance :=
  match role with
  | .user => [.user text]
  | .assistant => spoken text

def ContentBlockParam.utterances (role : AnthropicRole) : ContentBlockParam → List Utterance
  | .text said => role.text said
  | .toolUse id name input => [.call id name input]
  | .toolResult toolUseId content => [.result toolUseId content]

def MessageParam.utterances (m : MessageParam) : List Utterance :=
  match m.content with
  | .text said => m.role.text said
  | .blocks items => items.flatMap (ContentBlockParam.utterances m.role)

def ChatCompletionMessageParam.utterances : ChatCompletionMessageParam → List Utterance
  | .system _ => []
  | .user content => [.user content]
  | .assistant content toolCalls => spoken (content.getD "") ++ toolCalls.map GatewayToolCall.utterance
  | .tool toolCallId content => [.result toolCallId content]

def ResponseInputItem.utterances : ResponseInputItem → List Utterance
  | .user content => [.user content]
  | .assistant content => spoken content
  | .functionCall callId name arguments => [.call callId name (argumentsSaid arguments)]
  | .functionCallOutput callId output => [.result callId output]

namespace Google

def ContentRole.text (role : ContentRole) (text : String) : List Utterance :=
  match role with
  | .user => [.user text]
  | .model => spoken text

def HistoryPart.utterances (role : ContentRole) : HistoryPart → List Utterance
  | .text said => role.text said
  | .functionCall id name args => [.call id name args]
  | .functionResponse data => [.result data.id (Json.stringify data.response)]

def Content.utterances (c : Content) : List Utterance := c.parts.flatMap (HistoryPart.utterances c.role)

/-- What Gemini is told: the content of a result is a JSON object. -/
def utteranceSent : Utterance → Utterance
  | .result toolCallId content => .result toolCallId (Json.stringify (argumentsSaid content))
  | said => said

end Google

/-! ## From the turns to the providers -/

theorem argumentsSaid_orEmptyObject (arguments : String) : argumentsSaid (orEmptyObject arguments) = argumentsSaid arguments := by
  by_cases hempty : arguments = ""
  · subst hempty
    rfl
  · rw [orEmptyObject, if_neg hempty]

/-- A call that is sent with `{}` for empty arguments. -/
theorem utterance_argumentsText (call : GatewayToolCall) :
    GatewayToolCall.utterance ⟨call.id, call.name, argumentsText call.arguments⟩ = call.utterance := by
  show Utterance.call call.id call.name (argumentsSaid (orEmptyObject call.arguments)) = _
  rw [argumentsSaid_orEmptyObject]
  rfl

theorem flatMap_spoken (text : String) :
    (if text = "" then [] else [ContentBlockParam.text text]).flatMap (ContentBlockParam.utterances .assistant) =
      spoken text := by
  by_cases htext : text = ""
  · simp [spoken, htext]
  · simp [spoken, htext, ContentBlockParam.utterances, AnthropicRole.text]

namespace AnthropicMessages

theorem utterances_assistant (content : String) (toolCalls : Option (List GatewayToolCall)) :
    (mapAssistantTurn content toolCalls).utterances = (ProviderChatTurn.assistant content toolCalls).utterances := by
  have hcalls : ∀ calls : List GatewayToolCall,
      (calls.map fun c => ContentBlockParam.toolUse c.id c.name (parseToolCallArguments c.arguments)).flatMap
        (ContentBlockParam.utterances .assistant) = calls.map GatewayToolCall.utterance := by
    intro calls
    rw [List.flatMap_map, List.map_eq_flatMap]
    apply List.flatMap_congr
    intro call _
    show [Utterance.call call.id call.name (parseJsonObject call.arguments (.obj []))] = [call.utterance]
    rw [parseJsonObject_eq]
    rfl
  unfold mapAssistantTurn ProviderChatTurn.utterances
  by_cases hnone : (toolCalls.getD []).isEmpty = true
  · simp [MessageParam.utterances, AnthropicRole.text, List.isEmpty_iff.mp hnone]
  · dsimp only
    rw [if_neg hnone]
    show List.flatMap _ (_ ++ _) = _
    rw [List.flatMap_append, flatMap_spoken, hcalls]

theorem utterances_single {turn : ProviderChatTurn} (h : turn.toolResult? = none) :
    (single turn).flatMap MessageParam.utterances = turn.utterances := by
  cases turn with
  | user content => rfl
  | assistant content toolCalls =>
    show _ ++ [] = _
    rw [List.append_nil]
    exact utterances_assistant content toolCalls
  | tool toolCallId content => cases h

/-- The one message of a run of tool turns has the result of each. -/
theorem utterances_run (turns : List ProviderChatTurn) (h : ∀ turn ∈ turns, turn.toolResult?.isSome = true) :
    (run (turns.filterMap ProviderChatTurn.toolResult?)).flatMap MessageParam.utterances =
      turns.flatMap ProviderChatTurn.utterances := by
  have hrun : ∀ results, (run results).flatMap MessageParam.utterances =
      results.map fun result => Utterance.result result.1 result.2 := by
    intro results
    show (results.map resultBlock).flatMap _ ++ [] = _
    rw [List.append_nil, List.flatMap_map]
    exact List.map_eq_flatMap.symm
  rw [hrun]
  induction turns with
  | nil => rfl
  | cons turn turns ih =>
    have ih := ih fun t ht => h t (List.mem_cons_of_mem _ ht)
    cases turn with
    | user content => cases h _ List.mem_cons_self
    | assistant content toolCalls => cases h _ List.mem_cons_self
    | tool toolCallId content => exact congrArg (Utterance.result toolCallId content :: ·) ih

/-- Anthropic: the turns of a group are told by its message. -/
theorem utterances_eq (turns : List ProviderChatTurn) :
    (mapTurnsToAnthropicMessages turns).flatMap MessageParam.utterances = turns.flatMap ProviderChatTurn.utterances := by
  -- Results in a row share one user message; any other turn is a message by itself.
  have hgroup : ∀ group ∈ toolRuns turns,
      (RunLoop.pushGroup ProviderChatTurn.toolResult? single run group).flatMap MessageParam.utterances =
        group.flatMap ProviderChatTurn.utterances := by
    intro group hgroup
    obtain ⟨turn, rfl, hturn⟩ | ⟨hne, hall⟩ := RunLoop.group_cases hgroup
    · rw [RunLoop.pushGroup_single hturn, List.flatMap_singleton]
      exact utterances_single hturn
    · rw [RunLoop.pushGroup_run hne hall]
      exact utterances_run group hall
  calc (mapTurnsToAnthropicMessages turns).flatMap MessageParam.utterances
      = (toolRuns turns).flatMap fun group =>
          (RunLoop.pushGroup ProviderChatTurn.toolResult? single run group).flatMap MessageParam.utterances := by
        rw [mapTurns_eq, RunLoop.mapRuns_eq, List.flatMap_assoc]
        rfl
    _ = (toolRuns turns).flatMap fun group => group.flatMap ProviderChatTurn.utterances := List.flatMap_congr hgroup
    _ = ((toolRuns turns).flatMap id).flatMap ProviderChatTurn.utterances := List.flatMap_assoc.symm
    _ = turns.flatMap ProviderChatTurn.utterances := by rw [List.flatMap_id, toolRuns, RunLoop.flatten_runs]

end AnthropicMessages

theorem chatCompletions_utterances (turns : List ProviderChatTurn) (system : Option String) :
    (mapTurnsToOpenAiMessages turns system).flatMap ChatCompletionMessageParam.utterances =
      turns.flatMap ProviderChatTurn.utterances := by
  have hsystem : (OpenAiMessages.systemOf system).flatMap ChatCompletionMessageParam.utterances = [] := by
    unfold OpenAiMessages.systemOf
    rw [List.flatMap_map]
    exact List.flatMap_eq_nil_iff.mpr fun _ _ => rfl
  have hturn : ∀ turn, (OpenAiMessages.messageOf turn).utterances = turn.utterances := by
    intro turn
    cases turn with
    | user content => rfl
    | tool toolCallId content => rfl
    | assistant content toolCalls =>
      cases toolCalls with
      | none => rfl
      | some calls =>
        cases calls with
        | nil => rfl
        | cons call calls =>
          have htext : (if content = "" then none else some content).getD "" = content := by
            by_cases hcontent : content = "" <;> simp [hcontent]
          show spoken ((if content = "" then none else some content).getD "") ++ List.map _ (List.map _ _) = _
          rw [htext, List.map_map]
          exact congrArg (spoken content ++ ·) (List.map_congr_left fun call _ => utterance_argumentsText call)
  rw [openAi_each, List.flatMap_append, hsystem, List.nil_append, List.flatMap_map]
  exact List.flatMap_congr fun turn _ => hturn turn

theorem responses_utterances (turns : List ProviderChatTurn) :
    (mapTurnsToResponsesInput turns).flatMap ResponseInputItem.utterances = turns.flatMap ProviderChatTurn.utterances := by
  have hturn : ∀ turn, (ResponsesInput.itemsOf turn).flatMap ResponseInputItem.utterances = turn.utterances := by
    intro turn
    cases turn with
    | user content => rfl
    | tool toolCallId content => rfl
    | assistant content toolCalls =>
      have htext : (if content = "" then [] else [ResponseInputItem.assistant content]).flatMap
          ResponseInputItem.utterances = spoken content := by
        by_cases hcontent : content = "" <;> simp [spoken, hcontent, ResponseInputItem.utterances]
      show List.flatMap _ (_ ++ _) = spoken content ++ _
      rw [List.flatMap_append, htext, List.flatMap_map, List.map_eq_flatMap]
      apply congrArg (spoken content ++ ·)
      exact List.flatMap_congr fun call _ => congrArg (fun said => [said]) (utterance_argumentsText call)
  rw [responses_each, List.flatMap_assoc]
  exact List.flatMap_congr fun turn _ => hturn turn

namespace Google

theorem utteranceSent_spoken (text : String) : (spoken text).map utteranceSent = spoken text := by
  by_cases htext : text = "" <;> simp [spoken, htext, utteranceSent]

theorem utterances_eq {createPart : String → String → Json.Value → HistoryPart}
    (hpart : ∀ id name response, createPart id name response = .functionResponse ⟨id, name, response⟩)
    (turns : List ProviderChatTurn) :
    (mapTurnsToGeminiContents createPart turns).flatMap Content.utterances =
      (turns.flatMap ProviderChatTurn.utterances).map utteranceSent := by
  have hturn : ∀ turn, (contentOfTurn createPart turn).utterances = turn.utterances.map utteranceSent := by
    intro turn
    cases turn with
    | user content => rfl
    | tool toolCallId content =>
      rw [contentOfTurn_tool hpart, parseJsonObject_eq, argumentsSaid_orEmptyObject]
      rfl
    | assistant content toolCalls =>
      have htext : (if content = "" then [] else [HistoryPart.text content]).flatMap (HistoryPart.utterances .model) =
          spoken content := by
        by_cases hcontent : content = "" <;> simp [spoken, hcontent, HistoryPart.utterances, ContentRole.text]
      show (mapAssistantTurnToGeminiContent content toolCalls).parts.flatMap (HistoryPart.utterances .model) =
        (spoken content ++ _).map utteranceSent
      unfold mapAssistantTurnToGeminiContent
      rw [List.flatMap_append, htext, List.map_append, utteranceSent_spoken, List.map_map, List.flatMap_map,
        List.map_eq_flatMap]
      apply congrArg (spoken content ++ ·)
      apply List.flatMap_congr
      intro call _
      show [Utterance.call call.id call.name (parseJsonObject (orEmptyObject call.arguments) (.obj []))] = _
      rw [parseJsonObject_eq, argumentsSaid_orEmptyObject]
      rfl
  unfold mapTurnsToGeminiContents
  rw [List.flatMap_map, List.map_flatMap]
  exact List.flatMap_congr fun turn _ => hturn turn

end Google

/-! ## From the clients to the turns -/

theorem utterance?_eq (item : OpenAiToolCallItem) :
    item.utterance? = (mapOpenAiToolCall item).map GatewayToolCall.utterance := by
  cases item with
  | other => rfl
  | call id type name arguments =>
    unfold OpenAiToolCallItem.utterance? mapOpenAiToolCall
    by_cases htype : type = some "function"
    · cases hid : truthy id <;> cases hname : truthy name <;> simp [htype, hid, hname, GatewayToolCall.utterance]
    · cases hid : truthy id <;> cases hname : truthy name <;> simp [htype, hid, hname]

theorem filterMap_utterance? (items : List OpenAiToolCallItem) :
    items.filterMap OpenAiToolCallItem.utterance? = (mapOpenAiToolCalls items).map GatewayToolCall.utterance := by
  unfold mapOpenAiToolCalls
  rw [List.map_filterMap]
  exact List.filterMap_congr fun item _ => utterance?_eq item

/-- A message that is mapped has the turn that says the same. -/
theorem openAi_message_turns {m : OpenAiChatMessage} {messages : List ChatMessage}
    (h : mapOpenAiMessage (.dto m) = .ok messages) :
    ∃ turns, toProviderTurns messages = .ok turns ∧ turns.flatMap ProviderChatTurn.utterances = m.utterances := by
  unfold OpenAiChatMessage.utterances
  cases hrole : m.role with
  | system =>
    simp only [mapOpenAiMessage, hrole] at h
    cases h
    exact ⟨[], rfl, rfl⟩
  | user =>
    simp only [mapOpenAiMessage, hrole] at h
    cases h
    exact ⟨[.user m.content], rfl, rfl⟩
  | assistant =>
    simp only [mapOpenAiMessage, hrole] at h
    cases h
    -- An assistant without calls that can be mapped has no `toolCalls` at all.
    by_cases hnone : mapOpenAiToolCalls (m.toolCalls.getD []) = []
    · refine ⟨[.assistant m.content none], by simp [toProviderTurns, toProviderTurn, hnone], ?_⟩
      simp [ProviderChatTurn.utterances, filterMap_utterance?, hnone]
    · refine ⟨[.assistant m.content (some (mapOpenAiToolCalls (m.toolCalls.getD [])))],
        by simp [toProviderTurns, toProviderTurn, hnone], ?_⟩
      simp [ProviderChatTurn.utterances, filterMap_utterance?]
  | tool =>
    simp only [mapOpenAiMessage, hrole] at h
    split at h
    · cases h
    · next id hid =>
      cases h
      obtain ⟨hid, hne⟩ := JsString.truthy_eq_some hid
      have htruthy : truthy (some id) = some id := by rw [JsString.truthy_some, if_neg hne]
      refine ⟨[.tool id m.content], by simp [toProviderTurns, toProviderTurn, htruthy], ?_⟩
      simp [ProviderChatTurn.utterances, hid]

theorem openAi_turns {messages : List (Nested OpenAiChatMessage)} {mapped : List (List ChatMessage)}
    (h : Fallible.collect mapOpenAiMessage messages = .ok mapped) :
    ∃ turns, toProviderTurns mapped.flatten = .ok turns ∧
      turns.flatMap ProviderChatTurn.utterances = openAiConversation messages := by
  induction messages generalizing mapped with
  | nil =>
    cases h
    exact ⟨[], rfl, rfl⟩
  | cons m messages ih =>
    obtain ⟨ms, rest, hm, hrest, rfl⟩ := Fallible.collect_cons h
    obtain ⟨turns, hturns, hsaid⟩ := ih hrest
    cases m with
    | null => cases hm
    | array =>
      cases hm
      exact ⟨turns, hturns, hsaid⟩
    | dto m =>
      obtain ⟨first, hfirst, hfirstSaid⟩ := openAi_message_turns hm
      refine ⟨first ++ turns, toProviderTurns_append hfirst hturns, ?_⟩
      rw [List.flatMap_append, hfirstSaid, hsaid]
      rfl

theorem call?_eq (b : AnthropicContentBlock) : b.call? = b.toolUse.map GatewayToolCall.utterance := by
  have hinput : argumentsSaid (Json.stringify (Json.orElse b.input (.obj []))) = inputObject b.input := by
    unfold argumentsSaid inputObject
    rw [Json.parse_stringify]
    cases b.input with
    | none => rfl
    | some v => cases v <;> rfl
  unfold AnthropicContentBlock.call? AnthropicContentBlock.toolUse
  cases b.type with
  | toolUse =>
    cases truthy b.id with
    | none => rfl
    | some id =>
      cases truthy b.name with
      | none => rfl
      | some name =>
        show _ = some (Utterance.call id name _)
        rw [hinput]
  | _ => rfl

section Blocks
variable (role : AnthropicRole) (blocks : List (Nested AnthropicContentBlock))

theorem readBlocks_map {β γ : Type} (read : AnthropicContentBlock → Option β) (f : β → γ) :
    readBlocks (fun b => (read b).map f) blocks = (readBlocks read blocks).map f := by
  unfold readBlocks
  rw [List.map_filterMap]
  apply List.filterMap_congr
  intro b _
  cases b <;> rfl

/-- The blocks that speak with one rank are those that `read` reads. -/
theorem ofRank_readBlocks {n : ℕ} {read : AnthropicContentBlock → Option Utterance}
    (h : ∀ b, (b.utterance? role).filter (fun u => u.rank = n) = read b) :
    ofRank n (readBlocks (AnthropicContentBlock.utterance? role) blocks) = readBlocks read blocks := by
  unfold ofRank readBlocks
  rw [List.filter_filterMap]
  apply List.filterMap_congr
  intro b _
  cases b with
  | dto b => exact h b
  | null => rfl
  | array => rfl

theorem speak_rank (text : String) : (role.speak text).rank = 0 := by cases role <;> rfl

theorem call?_rank {b : AnthropicContentBlock} {u : Utterance} (h : b.call? = some u) :
    b.type = .toolUse ∧ u.rank = 1 := by
  unfold AnthropicContentBlock.call? at h
  split at h
  · next htype _ _ =>
    cases h
    exact ⟨htype, rfl⟩
  · cases h

theorem result?_rank {b : AnthropicContentBlock} {u : Utterance} (h : b.result? = some u) :
    b.type = .toolResult ∧ u.rank = 2 := by
  unfold AnthropicContentBlock.result? AnthropicContentBlock.toolResult at h
  split at h
  · next htype _ =>
    cases h
    exact ⟨htype, rfl⟩
  · cases h

theorem texts_said : ofRank 0 (readBlocks (AnthropicContentBlock.utterance? role) blocks) =
    (readBlocks AnthropicContentBlock.textOf blocks).map role.speak := by
  rw [← readBlocks_map]
  apply ofRank_readBlocks
  intro b
  unfold AnthropicContentBlock.utterance? AnthropicContentBlock.textOf
  cases htype : b.type with
  | text => cases truthy b.text <;> simp [speak_rank]
  | image => rfl
  | toolUse =>
    by_cases hrole : role = .assistant
    · cases hcall : b.call? with
      | none => simp [hrole]
      | some u => simp [hrole, (call?_rank hcall).2]
    · simp [hrole]
  | toolResult =>
    cases hresult : b.result? with
    | none => rfl
    | some u => simp [(result?_rank hresult).2]

theorem calls_said : ofRank 1 (readBlocks (AnthropicContentBlock.utterance? role) blocks) =
    if role = .assistant then readBlocks AnthropicContentBlock.call? blocks else [] := by
  have hread : readBlocks (fun b => if role = .assistant then b.call? else none) blocks =
      if role = .assistant then readBlocks AnthropicContentBlock.call? blocks else [] := by
    by_cases hrole : role = .assistant
    · simp [hrole]
    · simp only [if_neg hrole]
      exact List.filterMap_eq_nil_iff.mpr fun b _ => by cases b <;> rfl
  rw [← hread]
  apply ofRank_readBlocks
  intro b
  -- Only a tool_use block is a call.
  have hcall : b.type ≠ .toolUse → b.call? = none := by
    intro htype
    cases hcall : b.call? with
    | none => rfl
    | some u => exact absurd (call?_rank hcall).1 htype
  unfold AnthropicContentBlock.utterance?
  cases htype : b.type with
  | text =>
    rw [hcall (by simp [htype])]
    cases truthy b.text <;> simp [speak_rank]
  | image =>
    rw [hcall (by simp [htype])]
    simp
  | toolUse =>
    by_cases hrole : role = .assistant
    · cases hcall : b.call? with
      | none => simp [hrole]
      | some u => simp [hrole, (call?_rank hcall).2]
    · simp [hrole]
  | toolResult =>
    rw [hcall (by simp [htype])]
    cases hresult : b.result? with
    | none => simp
    | some u => simp [(result?_rank hresult).2]

theorem results_said : ofRank 2 (readBlocks (AnthropicContentBlock.utterance? role) blocks) =
    readBlocks AnthropicContentBlock.result? blocks := by
  apply ofRank_readBlocks
  intro b
  have hresult : b.type ≠ .toolResult → b.result? = none := by
    intro htype
    cases hresult : b.result? with
    | none => rfl
    | some u => exact absurd (result?_rank hresult).1 htype
  unfold AnthropicContentBlock.utterance?
  cases htype : b.type with
  | text =>
    rw [hresult (by simp [htype])]
    cases truthy b.text <;> simp [speak_rank]
  | image => exact (hresult (by simp [htype])).symm
  | toolUse =>
    rw [hresult (by simp [htype])]
    cases hcall : b.call? with
    | none => simp
    | some u => by_cases hrole : role = .assistant <;> simp [hrole, (call?_rank hcall).2]
  | toolResult =>
    cases hresult : b.result? with
    | none => rfl
    | some u => simp [(result?_rank hresult).2]

/-- The texts of one speaker are one text, if they say anything. -/
theorem joinTexts_speak {texts : List String} (h : ∀ text ∈ texts, text ≠ "") :
    joinTexts (texts.map role.speak) = if joinText texts = "" then [] else [role.speak (joinText texts)] := by
  induction texts with
  | nil => rfl
  | cons text texts ih =>
    have hrest := fun t ht => h t (List.mem_cons_of_mem text ht)
    have hne : joinText (text :: texts) ≠ "" := fun hnil => nomatch (joinText_eq_empty_iff_nil h).mp hnil
    rw [if_neg hne, List.map_cons, joinTexts, ih hrest, joinText]
    by_cases hempty : joinText texts = ""
    · rw [if_pos hempty, hempty, String.append_empty]
      cases role <;> rfl
    · rw [if_neg hempty]
      cases role <;> rfl

end Blocks

/-- The turns of a message say what it says, its texts first. -/
theorem anthropic_message_turns (m : AnthropicMessage) :
    m.turns.flatMap ProviderChatTurn.utterances = textsFirst m.said := by
  have hcalls : readBlocks AnthropicContentBlock.call? m.content = m.toolUses.map GatewayToolCall.utterance := by
    rw [funext call?_eq]
    exact readBlocks_map _ _ _
  have hresults : readBlocks AnthropicContentBlock.result? m.content =
      (m.toolResults.map toolTurn).flatMap ProviderChatTurn.utterances := by
    rw [List.flatMap_map, AnthropicMessage.toolResults]
    exact (readBlocks_map _ AnthropicContentBlock.toolResult _).trans List.map_eq_flatMap
  have htexts : joinTexts ((readBlocks AnthropicContentBlock.textOf m.content).map m.role.speak) =
      if m.text = "" then [] else [m.role.speak m.text] := by
    apply joinTexts_speak
    intro text htext
    obtain ⟨b, -, hb⟩ := List.mem_filterMap.mp htext
    cases b with
    | dto b =>
      simp only [AnthropicContentBlock.textOf] at hb
      split_ifs at hb
      exact (JsString.truthy_eq_some hb).2
    | null => cases hb
    | array => cases hb
  unfold AnthropicMessage.turns textsFirst AnthropicMessage.said
  rw [texts_said, calls_said, results_said, List.flatMap_append, htexts, ← hresults, ← List.append_assoc, hcalls]
  congr 1
  cases m.role with
  | user => by_cases htext : m.text = "" <;> simp [htext, ProviderChatTurn.utterances, AnthropicRole.speak]
  | assistant =>
    by_cases htext : m.text = "" <;> by_cases hnone : m.toolUses = [] <;>
      simp [htext, hnone, ProviderChatTurn.utterances, spoken, AnthropicRole.speak]

/-! ## The whole way -/

/-- Every provider, asked with this input, is told just this. -/
structure ProviderChatInput.Tells (createPart : String → String → Json.Value → Google.HistoryPart)
    (input : ProviderChatInput) (said : List Utterance) : Prop where
  anthropic : (mapTurnsToAnthropicMessages input.messages).flatMap MessageParam.utterances = said
  chatCompletions : (mapTurnsToOpenAiMessages input.messages (some input.system)).flatMap
    ChatCompletionMessageParam.utterances = said
  responses : (mapTurnsToResponsesInput input.messages).flatMap ResponseInputItem.utterances = said
  gemini : (Google.mapTurnsToGeminiContents createPart input.messages).flatMap Google.Content.utterances =
    said.map Google.utteranceSent

section Whole
variable {createPart : String → String → Json.Value → Google.HistoryPart}
variable (hpart : ∀ id name response, createPart id name response = .functionResponse ⟨id, name, response⟩)
include hpart

theorem tells_turns (input : ProviderChatInput) :
    input.Tells createPart (input.messages.flatMap ProviderChatTurn.utterances) where
  anthropic := AnthropicMessages.utterances_eq input.messages
  chatCompletions := chatCompletions_utterances input.messages (some input.system)
  responses := responses_utterances input.messages
  gemini := Google.utterances_eq hpart input.messages

/-- The input for an alias, from messages whose turns are known. -/
theorem input_tells {request : ChatRequestBody} {turns : List ProviderChatTurn} {said : List Utterance}
    (hturns : toProviderTurns request.request.messages = .ok turns)
    (hsaid : turns.flatMap ProviderChatTurn.utterances = said) (modelAlias : String) (prompts : SystemPrompts)
    (hreads : prompts.reads modelAlias = true) :
    ∃ input, buildProviderInputForAlias request modelAlias prompts = .ok input ∧ input.Tells createPart said := by
  unfold buildProviderInputForAlias
  rw [composeSystemPrompt_eq, if_pos hreads, hturns]
  refine ⟨_, rfl, ?_⟩
  rw [← hsaid]
  exact tells_turns hpart _

/-- **A conversation is kept**, from either facade to every provider: a body that is mapped has an
input for each alias whose prompt is read, and that input says what the client said, no more and no
less. A message of an Anthropic client is told with its texts first, which is its own order if and
only if it has its texts before its calls and these before its results. -/
theorem conversation_kept :
    (∀ (body : OpenAiChatBody) (dto : ChatRequestDto) (request : ChatRequestBody),
      mapOpenAiChatRequestToGateway body = .ok dto → request.request = dto.toChatRequest →
      ∀ modelAlias prompts, prompts.reads modelAlias = true →
        ∃ input, buildProviderInputForAlias request modelAlias prompts = .ok input ∧
          input.Tells createPart (openAiConversation body.messages)) ∧
    (∀ (body : AnthropicMessagesBody) (dto : ChatRequestDto) (request : ChatRequestBody),
      mapAnthropicRequestToGateway body = .ok dto → request.request = dto.toChatRequest →
      ∀ modelAlias prompts, prompts.reads modelAlias = true →
        ∃ input, buildProviderInputForAlias request modelAlias prompts = .ok input ∧
          input.Tells createPart (anthropicConversation body)) ∧
    (∀ m : AnthropicMessage, textsFirst m.said = joinTexts m.said ↔ InOrder m.said) := by
  refine ⟨?_, ?_, fun m => textsFirst_eq_iff m.said⟩
  · intro body dto request hdto hrequest modelAlias prompts hreads
    obtain ⟨messages, hmessages, hdto⟩ := Fallible.bind_eq_ok.mp hdto
    obtain ⟨mapped, hmapped, hmessages⟩ := Fallible.bind_eq_ok.mp hmessages
    obtain ⟨turns, hturns, hsaid⟩ := openAi_turns hmapped
    -- Nothing that is mapped after the messages changes them.
    have hsame : request.request.messages = mapped.flatten := by
      obtain ⟨params, -, hdto⟩ := Fallible.bind_eq_ok.mp hdto
      obtain ⟨definitions, -, hdto⟩ := Fallible.bind_eq_ok.mp hdto
      obtain ⟨toolChoice, -, hdto⟩ := Fallible.bind_eq_ok.mp hdto
      split at hmessages
      · cases hmessages
      · cases hmessages
        cases hdto
        rw [hrequest]
        rfl
    exact input_tells hpart (hsame ▸ hturns) hsaid modelAlias prompts hreads
  · intro body dto request hdto hrequest modelAlias prompts hreads
    obtain ⟨mapped, hmapped, hdto⟩ := Fallible.bind_eq_ok.mp hdto
    obtain ⟨hturns, -⟩ := toProviderTurns_of_collected hmapped
    have hsaid : ((clientMessages body).flatMap AnthropicMessage.turns).flatMap ProviderChatTurn.utterances =
        anthropicConversation body := by
      rw [List.flatMap_assoc]
      exact List.flatMap_congr fun m _ => anthropic_message_turns m
    have hsame : request.request.messages = mapped.flatten := by
      split at hdto
      · cases hdto
      · obtain ⟨params, -, hdto⟩ := Fallible.bind_eq_ok.mp hdto
        obtain ⟨definitions, -, hdto⟩ := Fallible.bind_eq_ok.mp hdto
        obtain ⟨toolChoice, -, hdto⟩ := Fallible.bind_eq_ok.mp hdto
        cases hdto
        rw [hrequest]
        rfl
    exact input_tells hpart (hsame ▸ hturns) hsaid modelAlias prompts hreads

end Whole

/-- A call, its answer, and a text behind the answer, which is told before it. -/
def besideBody : AnthropicMessagesBody where
  model := "chat-default"
  messages :=
    [.dto ⟨.assistant, [.dto { type := .toolUse, id := some "call_1", name := some "weather" }]⟩,
      .dto ⟨.user, [.dto { type := .toolResult, toolUseId := some "call_1", content := some "warm" },
        .dto { type := .text, text := some "And tomorrow?" }]⟩]

def besideDto : ChatRequestDto where
  modelAlias := "chat-default"
  messages := [⟨.assistant, "", none, some [⟨"call_1", "weather", "\x7b\x7d"⟩]⟩, ⟨.user, "And tomorrow?", none, none⟩,
    ⟨.tool, "warm", some "call_1", none⟩]
  params := none
  conversationId := none
  tooling := none
  metadata := none

theorem besideDto_definitions : ([] : List Json.Value).length = besideDto.toChatRequest.toolDefinitions := rfl

def besideRequest : ChatRequestBody := ⟨besideDto.toChatRequest, [], none, none, besideDto_definitions⟩

theorem conversation_kept_beside : ∃ input,
    buildProviderInputForAlias besideRequest "chat-default" ⟨"Be brief.", none, .empty⟩ = .ok input ∧
      input.Tells Google.functionResponsePart
        [.call "call_1" "weather" (.obj []), .user "And tomorrow?", .result "call_1" "warm"] :=
  (conversation_kept fun _ _ _ => rfl).2.1 besideBody besideDto besideRequest rfl rfl "chat-default" _ rfl

end AiGateway
