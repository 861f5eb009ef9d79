import AiGateway.Chat.ProviderInput
import AiGateway.Chat.Response
import AiGateway.Integrations.AnthropicRequest

/- The way of an Anthropic conversation through the gateway and back:
   `mapAnthropicRequestToGateway` splits a message into its text and its tool results,
   `toProviderTurns` hands them on, and `mapTurnsToAnthropicMessages` groups consecutive tool
   results into one user message. The text of a user message goes before its results, so it
   comes between the calls and their answers.

   `tool_answers_adjacent_iff`: of a conversation in which every call is answered by the next
   message, the provider gets one with that property if and only if no answer has a text beside
   its results or runs into results of another message (`AnswersKept`).
   `text_separates_answers` is a conversation that it is lost for. -/
namespace AiGateway

open JsString (truthy)

/-! ## Calls and answers -/

section Answered
variable {α : Type} (calls : α → List String) (answers : α → Option (List String))

/-- After every message with calls there stands, at once, one that answers just those. -/
def CallsAnswered : List α → Prop
  | [] => True
  | m :: rest =>
    (calls m ≠ [] → ∃ next ids, rest.head? = some next ∧ answers next = some ids ∧ (calls m).Perm ids) ∧
      CallsAnswered rest

end Answered

/-! ## The messages of the client -/

def AnthropicContentBlock.textOf (b : AnthropicContentBlock) : Option String :=
  if b.type = .text then truthy b.text else none

/-- A `tool_use` block, which has an id and a name. -/
def AnthropicContentBlock.toolUse (b : AnthropicContentBlock) : Option GatewayToolCall :=
  match b.type, truthy b.id, truthy b.name with
  | .toolUse, some id, some name => some ⟨id, name, Json.stringify (Json.orElse b.input (.obj []))⟩
  | _, _, _ => none

/-- A `tool_result` block, which has the id that it answers, with its content. -/
def AnthropicContentBlock.toolResult (b : AnthropicContentBlock) : Option (String × String) :=
  match b.type, truthy b.toolUseId with
  | .toolResult, some toolUseId => some (toolUseId, b.content.getD "")
  | _, _ => none

/-- What the blocks of one kind say, in order. -/
def readBlocks {β : Type} (read : AnthropicContentBlock → Option β) (blocks : List (Nested AnthropicContentBlock)) :
    List β :=
  blocks.filterMap fun
    | .dto b => read b
    | .null | .array => none

namespace AnthropicMessage

variable (m : AnthropicMessage)

def text : String := joinText (readBlocks AnthropicContentBlock.textOf m.content)

def toolUses : List GatewayToolCall := readBlocks AnthropicContentBlock.toolUse m.content

def toolResults : List (String × String) := readBlocks AnthropicContentBlock.toolResult m.content

def resultIds : List String := m.toolResults.map Prod.fst

/-- The ids of an assistant message's `tool_use` blocks. -/
def calls : List String := if m.role = .assistant then m.toolUses.map GatewayToolCall.id else []

/-- The ids that a user message answers. -/
def answers : Option (List String) := if m.role = .user then some m.resultIds else none

end AnthropicMessage

/-- Every message of the client is one, or the mapping throws. -/
def clientMessages (body : AnthropicMessagesBody) : List AnthropicMessage :=
  body.messages.filterMap fun
    | .dto m => some m
    | .null | .array => none

/-- The assistant's calls are answered by the message after it. -/
def AnthropicMessagesBody.CallsAnswered (body : AnthropicMessagesBody) : Prop :=
  AiGateway.CallsAnswered AnthropicMessage.calls AnthropicMessage.answers (clientMessages body)

/-! ## `mapTurnsToAnthropicMessages` -/

inductive ContentBlockParam where
  | text (text : String)
  | toolUse (id name : String) (input : Json.Value)
  | toolResult (toolUseId content : String)

inductive MessageContent where
  | text (text : String)
  | blocks (items : List ContentBlockParam)

structure MessageParam where
  role : AnthropicRole
  content : MessageContent

def parseJsonObject (raw : String) (fallback : Json.Value) : Json.Value :=
  match Json.parse raw with
  | some (.obj members) => .obj members
  | _ => fallback

def parseToolCallArguments (argumentsJson : String) : Json.Value := parseJsonObject argumentsJson (.obj [])

def mapAssistantTurn (content : String) (toolCalls : Option (List GatewayToolCall)) : MessageParam :=
  let calls := toolCalls.getD []
  if calls.isEmpty then ⟨.assistant, .text content⟩
  else
    ⟨.assistant, .blocks ((if content = "" then [] else [.text content]) ++
      calls.map fun c => .toolUse c.id c.name (parseToolCallArguments c.arguments))⟩

/-- The loop that takes the tool turns from here on, and the turns after them. -/
def takeToolResults : List ProviderChatTurn → List ContentBlockParam × List ProviderChatTurn
  | .tool toolCallId content :: turns =>
    (.toolResult toolCallId content :: (takeToolResults turns).1, (takeToolResults turns).2)
  | turns => ([], turns)

theorem takeToolResults_length (turns : List ProviderChatTurn) :
    (takeToolResults turns).2.length ≤ turns.length := by
  induction turns with
  | nil => simp [takeToolResults]
  | cons turn turns ih =>
    cases turn with
    | user content => simp [takeToolResults]
    | assistant content toolCalls => simp [takeToolResults]
    | tool toolCallId content =>
      simp only [takeToolResults, List.length_cons]
      omega

def mapTurnsToAnthropicMessages : List ProviderChatTurn → List MessageParam
  | [] => []
  | .user content :: turns => ⟨.user, .text content⟩ :: mapTurnsToAnthropicMessages turns
  | .assistant content toolCalls :: turns => mapAssistantTurn content toolCalls :: mapTurnsToAnthropicMessages turns
  | .tool toolCallId content :: turns =>
    ⟨.user, .blocks (.toolResult toolCallId content :: (takeToolResults turns).1)⟩ ::
      mapTurnsToAnthropicMessages (takeToolResults turns).2
termination_by turns => turns.length
decreasing_by
  · simp
  · simp
  · have := takeToolResults_length turns
    simp only [List.length_cons]
    omega

def ContentBlockParam.toolUseId? : ContentBlockParam → Option String
  | .toolUse id _ _ => some id
  | _ => none

def ContentBlockParam.resultId? : ContentBlockParam → Option String
  | .toolResult id _ => some id
  | _ => none

def MessageContent.ids (read : ContentBlockParam → Option String) : MessageContent → List String
  | .text _ => []
  | .blocks items => items.filterMap read

namespace MessageParam

variable (m : MessageParam)

def calls : List String := if m.role = .assistant then m.content.ids ContentBlockParam.toolUseId? else []

def answers : Option (List String) :=
  if m.role = .user then some (m.content.ids ContentBlockParam.resultId?) else none

end MessageParam

/-- The three mappings one after the other. -/
def throughGateway (body : AnthropicMessagesBody) : Except ThrownError (List MessageParam) := do
  let request ← mapAnthropicRequestToGateway body
  let turns ← toProviderTurns request.messages
  return mapTurnsToAnthropicMessages turns

/-! ## When the answers stay in place -/

/-- A user message without text: its results come first, and join those before them. -/
def AnthropicMessage.textless (m : AnthropicMessage) : Bool := m.role = .user && m.text = ""

/-- For a message with calls, the one that answers it and those after: the answer has no text
and the results next to it are its own; or the results stand in the calling message. -/
def AnswerKept (m next : AnthropicMessage) (rest : List AnthropicMessage) : Prop :=
  (next.text = "" ∧ m.resultIds = [] ∧ ∀ after, rest.head? = some after → after.textless = false) ∨
    (next.text ≠ "" ∧ m.calls.Perm m.resultIds)

def AnswersKept : List AnthropicMessage → Prop
  | m :: next :: rest => (m.calls ≠ [] → AnswerKept m next rest) ∧ AnswersKept (next :: rest)
  | _ => True

/-! ## From the messages to the turns -/

def toolTurn (result : String × String) : ProviderChatTurn := .tool result.1 result.2

def AnthropicMessage.turns (m : AnthropicMessage) : List ProviderChatTurn :=
  (match m.role with
    | .user => if m.text ≠ "" then [.user m.text] else []
    | .assistant => [.assistant m.text (if m.toolUses.isEmpty then none else some m.toolUses)]) ++
    m.toolResults.map toolTurn

def toolMessage (result : String × String) : ChatMessage := ⟨.tool, result.2, some result.1, none⟩

/-- What one block adds to the accumulators. -/
theorem foldBlock_dto (acc : BlockFold) (b : AnthropicContentBlock) :
    foldBlock acc (.dto b) =
      { textContent := acc.textContent ++ joinText b.textOf.toList
        toolCalls := acc.toolCalls ++ b.toolUse.toList
        toolMessages := acc.toolMessages ++ b.toolResult.toList.map toolMessage } := by
  unfold AnthropicContentBlock.textOf AnthropicContentBlock.toolUse AnthropicContentBlock.toolResult
  cases htype : b.type with
  | image => simp [foldBlock, htype, joinText]
  | text => cases htext : truthy b.text <;> simp [foldBlock, htype, htext, joinText]
  | toolUse =>
    cases hid : truthy b.id with
    | none => simp [foldBlock, htype, hid, joinText]
    | some id => cases hname : truthy b.name <;> simp [foldBlock, htype, hid, hname, joinText]
  | toolResult => cases huse : truthy b.toolUseId <;> simp [foldBlock, htype, huse, joinText, toolMessage]

theorem readBlocks_cons {β : Type} (read : AnthropicContentBlock → Option β) (b : Nested AnthropicContentBlock)
    (blocks : List (Nested AnthropicContentBlock)) :
    readBlocks read (b :: blocks) = readBlocks read [b] ++ readBlocks read blocks := by
  rw [readBlocks, readBlocks, readBlocks, ← List.filterMap_append]
  rfl

theorem foldBlock_eq (acc : BlockFold) (b : Nested AnthropicContentBlock) :
    foldBlock acc b =
      { textContent := acc.textContent ++ joinText (readBlocks AnthropicContentBlock.textOf [b])
        toolCalls := acc.toolCalls ++ readBlocks AnthropicContentBlock.toolUse [b]
        toolMessages := acc.toolMessages ++ (readBlocks AnthropicContentBlock.toolResult [b]).map toolMessage } := by
  cases b with
  | null => simp [foldBlock, readBlocks, joinText]
  | array => simp [foldBlock, readBlocks, joinText]
  | dto b =>
    have hread : ∀ {β : Type} (read : AnthropicContentBlock → Option β), readBlocks read [.dto b] = (read b).toList := by
      intro β read
      cases h : read b <;> simp [readBlocks, h]
    rw [foldBlock_dto, hread, hread, hread]

theorem foldBlocks_eq (acc : BlockFold) (blocks : List (Nested AnthropicContentBlock)) :
    blocks.foldl foldBlock acc =
      { textContent := acc.textContent ++ joinText (readBlocks AnthropicContentBlock.textOf blocks)
        toolCalls := acc.toolCalls ++ readBlocks AnthropicContentBlock.toolUse blocks
        toolMessages := acc.toolMessages ++ (readBlocks AnthropicContentBlock.toolResult blocks).map toolMessage } := by
  induction blocks generalizing acc with
  | nil => simp [readBlocks, joinText]
  | cons b blocks ih =>
    rw [List.foldl_cons, ih, foldBlock_eq acc b]
    simp only [readBlocks_cons _ b blocks, joinText_append, List.map_append, List.append_assoc, String.append_assoc]

theorem toolResult_id_ne {m : AnthropicMessage} {result : String × String} (h : result ∈ m.toolResults) :
    result.1 ≠ "" := by
  obtain ⟨b, -, hb⟩ := List.mem_filterMap.mp h
  cases b with
  | null => cases hb
  | array => cases hb
  | dto b =>
    simp only [AnthropicContentBlock.toolResult] at hb
    split at hb
    · next toolUseId _ huse =>
      cases hb
      exact (JsString.truthy_eq_some huse).2
    · cases hb

theorem toProviderTurns_append {first second : List ChatMessage} {turns rest : List ProviderChatTurn}
    (hfirst : toProviderTurns first = .ok turns) (hsecond : toProviderTurns second = .ok rest) :
    toProviderTurns (first ++ second) = .ok (turns ++ rest) := by
  unfold toProviderTurns at *
  rw [List.mapM_append, hfirst, hsecond]
  rfl

theorem toProviderTurns_toolMessages {results : List (String × String)} (h : ∀ r ∈ results, r.1 ≠ "") :
    toProviderTurns (results.map toolMessage) = .ok (results.map toolTurn) := by
  induction results with
  | nil => rfl
  | cons result results ih =>
    have hid : truthy (some result.1) = some result.1 := by
      rw [JsString.truthy_some, if_neg (h result List.mem_cons_self)]
    have hturn : toProviderTurns [toolMessage result] = .ok [.tool result.1 result.2] := by
      simp only [toProviderTurns, toProviderTurn, toolMessage, List.mapM_cons, List.mapM_nil, hid]
      rfl
    exact toProviderTurns_append hturn (ih fun r hr => h r (List.mem_cons_of_mem _ hr))

/-- A mapped message becomes its turns, and none is refused. -/
theorem toProviderTurns_of_mapped {m : AnthropicMessage} {messages : List ChatMessage}
    (h : mapAnthropicContentBlockToGateway m.role m.content = .ok messages) :
    toProviderTurns messages = .ok m.turns ∧ m.turns ≠ [] := by
  unfold mapAnthropicContentBlockToGateway at h
  obtain ⟨image, -, h⟩ := Fallible.bind_eq_ok.mp h
  cases image with
  | true => cases h
  | false =>
    simp only [Bool.false_eq_true, if_false, foldBlocks_eq] at h
    split at h
    · cases h
    · next hne =>
      cases h
      have hresults := toProviderTurns_toolMessages fun r hr => toolResult_id_ne (m := m) hr
      have hturns : toProviderTurns (blockMessages m.role
          ⟨m.text, m.toolUses, m.toolResults.map toolMessage⟩) = .ok m.turns := by
        unfold blockMessages AnthropicMessage.turns
        refine toProviderTurns_append ?_ hresults
        cases m.role with
        | user =>
          by_cases htext : m.text = ""
          · simp [toProviderTurns, htext]
            rfl
          · simp [toProviderTurns, toProviderTurn, htext]
        | assistant =>
          by_cases hcalls : m.toolUses = []
          · simp [toProviderTurns, toProviderTurn, hcalls]
          · simp [toProviderTurns, toProviderTurn, hcalls]
      refine ⟨?_, ?_⟩
      · simpa [AnthropicMessage.text, AnthropicMessage.toolUses, AnthropicMessage.toolResults] using hturns
      -- What is mapped says something: calls of an assistant, a text or a result.
      · have hspeaks := (blockMessages_eq_nil _ _).mp (fun hnil => hne (List.isEmpty_iff.mpr hnil))
        obtain hrole | htext | hresult := hspeaks
        · simp [AnthropicMessage.turns, hrole]
        · have htext : m.text ≠ "" := by simpa [AnthropicMessage.text] using htext
          cases hrole : m.role <;> simp [AnthropicMessage.turns, hrole, htext]
        · have hresult : m.toolResults ≠ [] := by simpa [AnthropicMessage.toolResults] using hresult
          simp [AnthropicMessage.turns, hresult]

theorem toProviderTurns_of_collected {messages : List (Nested AnthropicMessage)} {mapped : List (List ChatMessage)}
    (h : Fallible.collect mapAnthropicMessage messages = .ok mapped) :
    let clients := messages.filterMap fun
      | .dto m => some m
      | .null | .array => none
    toProviderTurns mapped.flatten = .ok (clients.flatMap AnthropicMessage.turns) ∧ ∀ m ∈ clients, m.turns ≠ [] := by
  induction messages generalizing mapped with
  | nil =>
    cases h
    exact ⟨rfl, by simp⟩
  | cons m messages ih =>
    obtain ⟨ms, rest, hm, hrest, rfl⟩ := Fallible.collect_cons h
    obtain ⟨hturns, hne⟩ := ih hrest
    cases m with
    | null => cases hm
    | array => cases hm
    | dto m =>
      obtain ⟨hfirst, hfirstne⟩ := toProviderTurns_of_mapped hm
      refine ⟨toProviderTurns_append hfirst hturns, ?_⟩
      intro m' hm'
      obtain rfl | hm' := List.mem_cons.mp hm'
      · exact hfirstne
      · exact hne m' hm'

/-- The turns of a request are those of its messages. -/
theorem throughGateway_ok {body : AnthropicMessagesBody} {out : List MessageParam} (h : throughGateway body = .ok out) :
    out = mapTurnsToAnthropicMessages ((clientMessages body).flatMap AnthropicMessage.turns) ∧
      ∀ m ∈ clientMessages body, m.turns ≠ [] := by
  obtain ⟨request, hrequest, h⟩ := Fallible.bind_eq_ok.mp h
  obtain ⟨turns, hturns, h⟩ := Fallible.bind_eq_ok.mp h
  cases h
  obtain ⟨mapped, hmapped, hrequest⟩ := Fallible.bind_eq_ok.mp hrequest
  obtain ⟨hall, hne⟩ := toProviderTurns_of_collected hmapped
  split at hrequest
  · cases hrequest
  · obtain ⟨params, -, hrequest⟩ := Fallible.bind_eq_ok.mp hrequest
    obtain ⟨definitions, -, hrequest⟩ := Fallible.bind_eq_ok.mp hrequest
    obtain ⟨toolChoice, -, hrequest⟩ := Fallible.bind_eq_ok.mp hrequest
    cases hrequest
    rw [hall] at hturns
    cases hturns
    exact ⟨rfl, hne⟩

/-! ## From the turns to the provider's messages -/

def callIds (toolCalls : Option (List GatewayToolCall)) : List String := (toolCalls.getD []).map GatewayToolCall.id

/-- The ids of the tool turns up to the next turn of another kind. -/
def toolRun : List ProviderChatTurn → List String
  | .tool toolCallId _ :: turns => toolCallId :: toolRun turns
  | _ => []

/-- The calls of every assistant turn are those of the tool turns right after it. -/
def TurnsAnswered : List ProviderChatTurn → Prop
  | [] => True
  | .assistant _ toolCalls :: turns =>
    (callIds toolCalls ≠ [] → (callIds toolCalls).Perm (toolRun turns)) ∧ TurnsAnswered turns
  | _ :: turns => TurnsAnswered turns

theorem takeToolResults_ids (turns : List ProviderChatTurn) :
    (takeToolResults turns).1.filterMap ContentBlockParam.resultId? = toolRun turns := by
  induction turns with
  | nil => rfl
  | cons turn turns ih =>
    cases turn with
    | user content => rfl
    | assistant content toolCalls => rfl
    | tool toolCallId content =>
      show toolCallId :: (takeToolResults turns).1.filterMap ContentBlockParam.resultId? = toolCallId :: toolRun turns
      rw [ih]

theorem turnsAnswered_takeToolResults (turns : List ProviderChatTurn) :
    TurnsAnswered (takeToolResults turns).2 ↔ TurnsAnswered turns := by
  induction turns with
  | nil => rfl
  | cons turn turns ih =>
    cases turn with
    | user content => rfl
    | assistant content toolCalls => rfl
    | tool toolCallId content => exact ih

theorem mapAssistantTurn_calls (content : String) (toolCalls : Option (List GatewayToolCall)) :
    (mapAssistantTurn content toolCalls).calls = callIds toolCalls := by
  have hids : ∀ calls : List GatewayToolCall,
      (calls.map fun c => ContentBlockParam.toolUse c.id c.name (parseToolCallArguments c.arguments)).filterMap
        ContentBlockParam.toolUseId? = calls.map GatewayToolCall.id := by
    intro calls
    rw [List.filterMap_map]
    exact List.filterMap_eq_map_iff_forall_eq_some.mpr fun _ _ => rfl
  unfold mapAssistantTurn callIds
  by_cases hcalls : (toolCalls.getD []).isEmpty = true
  · simp [MessageParam.calls, MessageContent.ids, List.isEmpty_iff.mp hcalls]
  · have htext : (if content = "" then [] else [ContentBlockParam.text content]).filterMap
        ContentBlockParam.toolUseId? = [] := by
      by_cases hcontent : content = ""
      · rw [if_pos hcontent, List.filterMap_nil]
      · rw [if_neg hcontent]
        rfl
    rw [if_neg hcalls]
    show List.filterMap ContentBlockParam.toolUseId? (_ ++ _) = _
    rw [List.filterMap_append, htext, hids, List.nil_append]

/-- The message after an assistant turn is the run of tool turns that follows it, if any. -/
theorem answered_next {calls : List String} (hcalls : calls ≠ []) (turns : List ProviderChatTurn) :
    (∃ next ids, (mapTurnsToAnthropicMessages turns).head? = some next ∧ next.answers = some ids ∧ calls.Perm ids) ↔
      calls.Perm (toolRun turns) := by
  have hnil : ¬ calls.Perm [] := fun h => hcalls h.eq_nil
  cases turns with
  | nil => simp [mapTurnsToAnthropicMessages, toolRun, hnil]
  | cons turn turns =>
    cases turn with
    | user content =>
      simp [mapTurnsToAnthropicMessages, toolRun, hnil, MessageParam.answers, MessageContent.ids]
    | assistant content toolCalls =>
      have hrole : (mapAssistantTurn content toolCalls).answers = none := by
        unfold mapAssistantTurn
        by_cases h : (toolCalls.getD []).isEmpty = true <;> simp [h, MessageParam.answers]
      simp [mapTurnsToAnthropicMessages, toolRun, hnil, hrole]
    | tool toolCallId content =>
      simp [mapTurnsToAnthropicMessages, toolRun, MessageParam.answers, MessageContent.ids, takeToolResults_ids,
        ContentBlockParam.resultId?]

theorem mapTurns_answered (turns : List ProviderChatTurn) :
    CallsAnswered MessageParam.calls MessageParam.answers (mapTurnsToAnthropicMessages turns) ↔ TurnsAnswered turns := by
  fun_induction mapTurnsToAnthropicMessages turns with
  | case1 => rfl
  | case2 content turns ih => simpa [CallsAnswered, TurnsAnswered, MessageParam.calls] using ih
  | case3 content toolCalls turns ih =>
    show (_ → _) ∧ _ ↔ (_ → _) ∧ _
    rw [ih, mapAssistantTurn_calls]
    apply and_congr_left'
    apply forall_congr'
    intro hcalls
    exact answered_next hcalls turns
  | case4 toolCallId content turns ih =>
    have ih := ih.trans (turnsAnswered_takeToolResults turns)
    simpa [CallsAnswered, TurnsAnswered, MessageParam.calls] using ih

/-! ## From the messages to the calls and answers -/

/-- The results that follow at once: those of the messages up to the next that starts with a
turn of its own. -/
def resultRun : List AnthropicMessage → List String
  | [] => []
  | m :: rest => if m.textless then m.resultIds ++ resultRun rest else []

theorem toolRun_results (results : List (String × String)) (turns : List ProviderChatTurn) :
    toolRun (results.map toolTurn ++ turns) =
      results.map Prod.fst ++ toolRun turns := by
  induction results with
  | nil => rfl
  | cons result results ih =>
    show result.1 :: toolRun (results.map toolTurn ++ turns) = result.1 :: (results.map Prod.fst ++ toolRun turns)
    rw [ih]

theorem turnsAnswered_results (results : List (String × String)) (turns : List ProviderChatTurn) :
    TurnsAnswered (results.map toolTurn ++ turns) ↔ TurnsAnswered turns := by
  induction results with
  | nil => rfl
  | cons result results ih => exact ih

theorem turns_of_textless {m : AnthropicMessage} (h : m.textless = true) : m.turns = m.toolResults.map toolTurn := by
  simp only [AnthropicMessage.textless, Bool.and_eq_true, decide_eq_true_eq] at h
  simp [AnthropicMessage.turns, h.1, h.2]

/-- Any other message starts with a turn that is no tool turn. -/
theorem turns_of_not_textless {m : AnthropicMessage} (h : m.textless = false) :
    (m.calls = [] ∧ m.turns = .user m.text :: m.toolResults.map toolTurn) ∨
      ∃ toolCalls, callIds toolCalls = m.calls ∧ m.turns = .assistant m.text toolCalls :: m.toolResults.map toolTurn := by
  simp only [AnthropicMessage.textless, Bool.and_eq_false_iff, decide_eq_false_iff_not] at h
  cases hrole : m.role with
  | user =>
    have htext : m.text ≠ "" := h.resolve_left (fun hne => hne hrole)
    exact .inl (by simp [AnthropicMessage.turns, AnthropicMessage.calls, hrole, htext])
  | assistant =>
    refine .inr ⟨if m.toolUses.isEmpty then none else some m.toolUses, ?_, ?_⟩
    · by_cases hnone : m.toolUses = []
      · simp [hnone, callIds, AnthropicMessage.calls]
      · simp [hnone, callIds, AnthropicMessage.calls, hrole]
    · simp [AnthropicMessage.turns, hrole]

theorem toolRun_turns (messages : List AnthropicMessage) :
    toolRun (messages.flatMap AnthropicMessage.turns) = resultRun messages := by
  induction messages with
  | nil => rfl
  | cons m rest ih =>
    rw [List.flatMap_cons]
    unfold resultRun
    by_cases htextless : m.textless = true
    · rw [turns_of_textless htextless, toolRun_results, ih, if_pos htextless]
      rfl
    · rw [if_neg htextless]
      obtain ⟨-, hturns⟩ | ⟨toolCalls, -, hturns⟩ := turns_of_not_textless (eq_false_of_ne_true htextless)
      · rw [hturns]
        rfl
      · rw [hturns]
        rfl

/-- What the provider gets, read off the client's messages: the results after the calls are
those of the calling message itself, then those of the messages right after it. -/
def MessagesAnswered : List AnthropicMessage → Prop
  | [] => True
  | m :: rest => (m.calls ≠ [] → m.calls.Perm (m.resultIds ++ resultRun rest)) ∧ MessagesAnswered rest

theorem turnsAnswered_turns (messages : List AnthropicMessage) :
    TurnsAnswered (messages.flatMap AnthropicMessage.turns) ↔ MessagesAnswered messages := by
  induction messages with
  | nil => rfl
  | cons m rest ih =>
    rw [List.flatMap_cons]
    unfold MessagesAnswered
    rw [← ih]
    by_cases htextless : m.textless = true
    · have hcalls : m.calls = [] := by
        simp only [AnthropicMessage.textless, Bool.and_eq_true, decide_eq_true_eq] at htextless
        simp [AnthropicMessage.calls, htextless.1]
      rw [turns_of_textless htextless, turnsAnswered_results]
      simp [hcalls]
    · obtain ⟨hcalls, hturns⟩ | ⟨toolCalls, hcalls, hturns⟩ :=
        turns_of_not_textless (eq_false_of_ne_true htextless)
      · rw [hturns, List.cons_append]
        show TurnsAnswered (_ ++ _) ↔ _
        rw [turnsAnswered_results]
        simp [hcalls]
      · rw [hturns, List.cons_append, ← hcalls]
        show (_ → List.Perm _ (toolRun (_ ++ _))) ∧ TurnsAnswered (_ ++ _) ↔ _
        rw [turnsAnswered_results, toolRun_results, toolRun_turns]
        rfl

/-- A textless message of an accepted request has results. -/
theorem resultIds_ne_nil {m : AnthropicMessage} (htextless : m.textless = true) (hturns : m.turns ≠ []) :
    m.resultIds ≠ [] := by
  simp only [AnthropicMessage.textless, Bool.and_eq_true, decide_eq_true_eq] at htextless
  intro hnone
  have hresults : m.toolResults = [] := List.map_eq_nil_iff.mp hnone
  apply hturns
  simp [AnthropicMessage.turns, htextless.1, htextless.2, hresults]

theorem resultRun_eq_nil {rest : List AnthropicMessage} (hturns : ∀ m ∈ rest, m.turns ≠ []) :
    resultRun rest = [] ↔ ∀ after, rest.head? = some after → after.textless = false := by
  cases rest with
  | nil => simp [resultRun]
  | cons after rest =>
    simp only [resultRun, List.head?_cons, Option.some.injEq, forall_eq']
    by_cases htextless : after.textless = true
    · have hne := resultIds_ne_nil htextless (hturns after List.mem_cons_self)
      simp [htextless, hne]
    · simp [htextless]

/-- Adding lists to a permutation of `calls` keeps it one only when they are empty. -/
theorem perm_between {calls before answers after : List String} (h : calls.Perm answers) :
    calls.Perm (before ++ (answers ++ after)) ↔ before = [] ∧ after = [] := by
  constructor
  · intro hall
    have hlength := hall.length_eq
    rw [List.length_append, List.length_append, h.length_eq] at hlength
    exact ⟨List.length_eq_zero_iff.mp (by omega), List.length_eq_zero_iff.mp (by omega)⟩
  · rintro ⟨rfl, rfl⟩
    simpa using h

/-- One call that the next message answers. -/
theorem answerKept_iff {m next : AnthropicMessage} {rest : List AnthropicMessage} {ids : List String}
    (hanswers : next.answers = some ids) (hperm : m.calls.Perm ids) (hturns : ∀ m ∈ rest, m.turns ≠ []) :
    m.calls.Perm (m.resultIds ++ resultRun (next :: rest)) ↔ AnswerKept m next rest := by
  unfold AnthropicMessage.answers at hanswers
  split at hanswers
  · next huser =>
    cases hanswers
    unfold AnswerKept resultRun AnthropicMessage.textless
    by_cases htext : next.text = ""
    · simp only [huser, htext, decide_true, Bool.and_self, if_true, ne_eq, not_true_eq_false, false_and, or_false,
        true_and]
      rw [perm_between hperm, resultRun_eq_nil hturns]
      rfl
    · simp [htext]
  · cases hanswers

theorem messagesAnswered_iff {messages : List AnthropicMessage}
    (hanswered : CallsAnswered AnthropicMessage.calls AnthropicMessage.answers messages)
    (hturns : ∀ m ∈ messages, m.turns ≠ []) : MessagesAnswered messages ↔ AnswersKept messages := by
  induction messages with
  | nil => exact Iff.rfl
  | cons m rest ih =>
    have ih := ih hanswered.2 fun m' hm' => hturns m' (List.mem_cons_of_mem _ hm')
    cases rest with
    | nil =>
      -- nothing follows, so there are no calls
      have hcalls : m.calls = [] := by
        by_contra hcalls
        obtain ⟨next, ids, hnext, -⟩ := hanswered.1 hcalls
        cases hnext
      simp [MessagesAnswered, AnswersKept, hcalls]
    | cons next rest =>
      show (_ → _) ∧ _ ↔ (_ → _) ∧ _
      rw [ih]
      apply and_congr_left'
      apply forall_congr'
      intro hcalls
      obtain ⟨next', ids, hnext, hanswers, hperm⟩ := hanswered.1 hcalls
      cases hnext
      exact answerKept_iff hanswers hperm fun m' hm' => hturns m' (by simp [hm'])

theorem tool_answers_adjacent_iff (body : AnthropicMessagesBody) (out : List MessageParam)
    (hanswered : body.CallsAnswered) (hout : throughGateway body = .ok out) :
    CallsAnswered MessageParam.calls MessageParam.answers out ↔ AnswersKept (clientMessages body) := by
  obtain ⟨rfl, hturns⟩ := throughGateway_ok hout
  rw [mapTurns_answered, turnsAnswered_turns, messagesAnswered_iff hanswered hturns]

/-! ## A text beside the results -/

def weatherCall : AnthropicMessage :=
  ⟨.assistant, [.dto { type := .toolUse, id := some "toolu_1", name := some "weather" }]⟩

def weatherResult : Nested AnthropicContentBlock :=
  .dto { type := .toolResult, toolUseId := some "toolu_1", content := some "72" }

/-- A question, a call, and its answer with `blocks` after the result. -/
def weatherBody (blocks : List (Nested AnthropicContentBlock)) : AnthropicMessagesBody where
  model := "chat-tools"
  messages := [.dto ⟨.user, [.dto { type := .text, text := some "How warm?" }]⟩, .dto weatherCall,
    .dto ⟨.user, weatherResult :: blocks⟩]

def andInCelsius : Nested AnthropicContentBlock := .dto { type := .text, text := some "And in Celsius?" }

theorem weatherBody_answered (blocks : List (Nested AnthropicContentBlock))
    (h : readBlocks AnthropicContentBlock.toolResult blocks = []) : (weatherBody blocks).CallsAnswered := by
  have hids : (AnthropicMessage.mk .user (weatherResult :: blocks)).resultIds = ["toolu_1"] := by
    unfold AnthropicMessage.resultIds AnthropicMessage.toolResults
    rw [readBlocks_cons, h]
    rfl
  refine ⟨fun hcalls => absurd rfl hcalls, ?_, fun hcalls => absurd rfl hcalls, trivial⟩
  intro _
  refine ⟨_, ["toolu_1"], rfl, ?_, List.Perm.refl _⟩
  simp [AnthropicMessage.answers, hids]

theorem weather_answer_adjacent_iff :
    ∃ out, throughGateway (weatherBody []) = .ok out ∧
      (CallsAnswered MessageParam.calls MessageParam.answers out ↔ AnswersKept (clientMessages (weatherBody []))) :=
  ⟨_, rfl, tool_answers_adjacent_iff (weatherBody []) _ (weatherBody_answered [] rfl) rfl⟩

/-- "72", and a question beside it: the question comes first. -/
theorem text_separates_answers :
    ¬ ∀ (body : AnthropicMessagesBody) (out : List MessageParam), body.CallsAnswered → throughGateway body = .ok out →
      CallsAnswered MessageParam.calls MessageParam.answers out := by
  intro hclaim
  have hturns := hclaim (weatherBody [andInCelsius]) _ (weatherBody_answered [andInCelsius] rfl) rfl
  rw [mapTurns_answered] at hturns
  have hperm := hturns.1 (by decide)
  exact absurd hperm.length_eq (by decide)

end AiGateway
