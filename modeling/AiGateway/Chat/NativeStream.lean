import AiGateway.Chat.CachedAnswer
import AiGateway.Lib.EventStream
import AiGateway.Lib.JsonRecord
import AiGateway.Lib.JsValue

/- `POST /api/v1/chat/stream` beside `POST /api/v1/chat`: `SseSerializer` over the events of
   `executeStreamMiss`, and a client that puts the members of `meta` and `done` and the texts
   between them together to one object.

   `native_stream_agrees`: the object is the JSON answer, member by member, with two
   exceptions. The usage of a stream has a `totalTokens` besides, the sum of the two counts. And
   `meta` is sent when the first stream is opened, so that after a fallback the provider may be
   that of the alias that failed. -/
namespace AiGateway.NativeStream

open EventStream (Message)
open Json (Value readText prop)
open JsString (truthy)
open JsonChat (ChatResponseDto)

/-! ## What is written -/

def toolCallJson (call : GatewayToolCall) : Value :=
  .obj [("id", .str call.id), ("name", .str call.name), ("arguments", .str call.arguments)]

/-- `toolCalls?.length && { toolCalls }`. -/
def toolCallsJson (toolCalls : List GatewayToolCall) : Option Value :=
  if toolCalls.isEmpty then none else some (.arr (toolCalls.map toolCallJson))

/-- `warnings.length > 0 && { warnings }`. -/
def warningsJson (warnings : List CachedChatWarning) : Option Value :=
  if warnings.isEmpty then none else some (.arr (warnings.map CachedChatWarning.toJson))

def metaFields (data : SseMeta) : List (String × Option Value) :=
  [("id", some (.str data.id)), ("provider", some (.str data.provider)), ("model", some (.str data.model)),
    ("effectiveModelAlias", data.effectiveModelAlias.map .str), ("requestId", some (.str data.requestId)),
    ("conversationId", some (.str data.conversationId))]

section Numbers
variable (numberOf : ℚ → Json.Number)   -- writes a number that the code computes

def usageFields (inputTokens outputTokens : Option Json.Number) (totalTokens : Option ℚ) :
    List (String × Option Value) :=
  [("inputTokens", inputTokens.map .num), ("outputTokens", outputTokens.map .num),
    ("totalTokens", totalTokens.map fun n => .num (numberOf n))]

theorem usageFields_distinct (inputTokens outputTokens : Option Json.Number) (totalTokens : Option ℚ) :
    ((usageFields numberOf inputTokens outputTokens totalTokens).map Prod.fst).Nodup := by
  simp [usageFields]

def usageJson (inputTokens outputTokens : Option Json.Number) (totalTokens : Option ℚ) : Value :=
  Json.Record.toValue ⟨_, usageFields_distinct numberOf inputTokens outputTokens totalTokens⟩

def doneFields (data : SseDone) : List (String × Option Value) :=
  [("usage", data.usage.map fun u =>
      usageJson numberOf (some u.inputTokens) (some u.outputTokens) data.totalTokens),
    ("toolCalls", toolCallsJson data.toolCalls), ("finishReason", some (.str data.finishReason.text)),
    ("systemFingerprint", data.systemFingerprint.map .str), ("thinkingContent", data.thinkingContent.map .str),
    ("usageDetails", data.usageDetails.map ProviderUsageDetails.toJson),
    ("effectiveModelAlias", data.effectiveModelAlias.map .str), ("warnings", warningsJson data.warnings)]

theorem metaFields_distinct (data : SseMeta) : ((metaFields data).map Prod.fst).Nodup := by
  simp [metaFields]

theorem doneFields_distinct (data : SseDone) : ((doneFields numberOf data).map Prod.fst).Nodup := by
  simp [doneFields]

def eventName : SseEvent → String
  | .metaEvent _ => "meta"
  | .delta _ => "delta"
  | .done _ => "done"

def eventData : SseEvent → Value
  | .metaEvent data => Json.Record.toValue ⟨_, metaFields_distinct data⟩
  | .delta text => .obj [("text", .str text)]
  | .done data => Json.Record.toValue ⟨_, doneFields_distinct numberOf data⟩

/-- `SseSerializer.serialize`. -/
def serialize (event : SseEvent) : String :=
  "event: " ++ eventName event ++ "\n" ++ "data: " ++ Json.stringify (eventData numberOf event) ++ "\n\n"

/-- The JSON answer, in the order of `toChatResponseDto`. -/
def answerFields (dto : ChatResponseDto) : List (String × Option Value) :=
  [("id", some (.str dto.id)), ("provider", some (.str dto.provider)), ("model", some (.str dto.model)),
    ("effectiveModelAlias", dto.effectiveModelAlias.map .str), ("toolCalls", toolCallsJson dto.toolCalls),
    ("finishReason", dto.finishReason.map fun r => .str r.text), ("output", some (outputToJson dto.text)),
    ("usage", dto.usage.map fun u => usageJson numberOf u.inputTokens u.outputTokens u.totalTokens),
    ("requestId", some (.str dto.requestId)), ("conversationId", some (.str dto.conversationId)),
    ("usageDetails", dto.usageDetails.map ProviderUsageDetails.toJson),
    ("systemFingerprint", dto.systemFingerprint.map .str), ("thinkingContent", dto.thinkingContent.map .str),
    ("warnings", warningsJson dto.warnings)]

theorem answerFields_distinct (dto : ChatResponseDto) : ((answerFields numberOf dto).map Prod.fst).Nodup := by
  simp [answerFields]

/-- Of a live answer; a hit has three members more. -/
def answerJson (dto : ChatResponseDto) : Value := Json.Record.toValue ⟨_, answerFields_distinct numberOf dto⟩

end Numbers

/-! ## A client of the stream -/

structure Client where
  opened : Option Value := none
  text : String := ""
  closed : Option Value := none

def Client.read (client : Client) (m : Message) : Option Client :=
  (Json.parse m.data).map fun data =>
    if m.event = some "meta" then { client with opened := some data }
    else if m.event = some "delta" then { client with text := client.text ++ (readText (data.get? "text")).getD "" }
    else if m.event = some "done" then { client with closed := some data }
    else client

def readNativeStream (text : String) : Option Client := (EventStream.read text).foldlM Client.read {}

/-- A member of the object that the client has put together: `done` has the last word. -/
def Client.get? (client : Client) (key : String) : Option Value :=
  if key = "output" then some (outputToJson client.text) else (prop client.closed key).or (prop client.opened key)

/-! ## What is written is read -/

section Reading
variable (numberOf : ℚ → Json.Number)

def message (event : SseEvent) : Message := ⟨some (eventName event), Json.stringify (eventData numberOf event)⟩

theorem serialize_eq (event : SseEvent) : serialize numberOf event = (message numberOf event).render := by
  simp [serialize, message, Message.render]

theorem message_oneLine (event : SseEvent) : (message numberOf event).OneLine := by
  refine ⟨?_, Json.stringify_not_lineBreak _⟩
  intro name hname
  obtain rfl := Option.some.inj hname
  cases event with
  | metaEvent data => exact Json.not_lineBreak_of_all (l := "meta".toList) rfl
  | delta text => exact Json.not_lineBreak_of_all (l := "delta".toList) rfl
  | done data => exact Json.not_lineBreak_of_all (l := "done".toList) rfl

/-- What an event adds to the object. -/
def Client.take (client : Client) : SseEvent → Client
  | .metaEvent data => { client with opened := some (eventData numberOf (.metaEvent data)) }
  | .delta text => { client with text := client.text ++ text }
  | .done data => { client with closed := some (eventData numberOf (.done data)) }

theorem read_message (client : Client) (event : SseEvent) :
    client.read (message numberOf event) = some (client.take numberOf event) := by
  unfold Client.read message
  rw [Json.parse_stringify]
  cases event <;> simp [eventName, Client.take, eventData, Value.get?, readText, Json.asText]

theorem foldlM_messages (events : List SseEvent) (client : Client) :
    (events.map (message numberOf)).foldlM Client.read client = some (events.foldl (Client.take numberOf) client) := by
  induction events generalizing client with
  | nil => rfl
  | cons event events ih =>
    rw [List.map_cons, List.foldlM_cons, read_message]
    exact ih (client.take numberOf event)

theorem readNativeStream_serialize (events : List SseEvent) :
    readNativeStream (String.join (events.map (serialize numberOf))) =
      some (events.foldl (Client.take numberOf) {}) := by
  unfold readNativeStream
  rw [EventStream.read_map (serialize_eq numberOf) (message_oneLine numberOf), foldlM_messages]

theorem foldl_deltas (deltas : List String) (client : Client) :
    (deltas.map SseEvent.delta).foldl (Client.take numberOf) client =
      { client with text := client.text ++ joinText deltas } := by
  induction deltas generalizing client with
  | nil => simp [joinText]
  | cons text deltas ih =>
    rw [List.map_cons, List.foldl_cons, ih]
    simp [Client.take, joinText, String.append_assoc]

/-- The client at the end of a stream. -/
theorem read_stream (opening : SseMeta) (deltas : List String) (closing : SseDone) :
    readNativeStream (String.join (([SseEvent.metaEvent opening] ++ deltas.map SseEvent.delta ++
        [SseEvent.done closing]).map (serialize numberOf))) =
      some ⟨some (eventData numberOf (.metaEvent opening)), joinText deltas,
        some (eventData numberOf (.done closing))⟩ := by
  rw [readNativeStream_serialize, List.foldl_append, List.foldl_append, foldl_deltas]
  simp [Client.take]

theorem get?_closed (client : Client) (data : SseDone) (hclosed : client.closed = some (eventData numberOf (.done data)))
    (key : String) : prop client.closed key = ((doneFields numberOf data).lookup key).join := by
  rw [hclosed]
  exact Json.Record.get?_toValue ⟨_, doneFields_distinct numberOf data⟩ key

theorem get?_opened (client : Client) (data : SseMeta)
    (hopened : client.opened = some (eventData numberOf (.metaEvent data))) (key : String) :
    prop client.opened key = ((metaFields data).lookup key).join := by
  rw [hopened]
  exact Json.Record.get?_toValue ⟨_, metaFields_distinct data⟩ key

theorem get?_answer (dto : ChatResponseDto) (key : String) :
    (answerJson numberOf dto).get? key = ((answerFields numberOf dto).lookup key).join :=
  Json.Record.get?_toValue ⟨_, answerFields_distinct numberOf dto⟩ key

end Reading

/-! ## Stream and JSON -/

/-- The members of the JSON answer, but for `provider` and `usage`. -/
def plainMembers : List String :=
  ["id", "model", "effectiveModelAlias", "toolCalls", "finishReason", "output", "requestId", "conversationId",
    "usageDetails", "systemFingerprint", "thinkingContent", "warnings"]

/-- The object of a stream that was opened for one leg and served by another, beside the answer
that the same outcome gives in JSON; `usage` is that of the outcome. -/
structure SameAnswer (numberOf : ℚ → Json.Number) (usage : Option CachedUsage) (client : Client) (answer : Value) :
    Prop where
  members : ∀ key, key ≠ "provider" → key ≠ "usage" → client.get? key = answer.get? key
  used : (client.get? "usage").isSome = (answer.get? "usage").isSome
  counts : ∀ count, count ≠ "totalTokens" → prop (client.get? "usage") count = prop (answer.get? "usage") count
  streamTotal : prop (client.get? "usage") "totalTokens" =
    usage.map fun u => .num (numberOf (u.inputTokens.value + u.outputTokens.value))
  answerTotal : prop (answer.get? "usage") "totalTokens" = none

/-- The alias that serves the request is the fallback only where there is one, and the first
stream that was opened is of the same alias or of the primary. -/
structure Legs (i : StreamInput) (opened served : Leg) : Prop where
  fallback : served = .fallback → ∃ fallbackAlias, i.options.fallbackAlias = some fallbackAlias ∧ fallbackAlias ≠ ""
  order : opened = served ∨ opened = .primary

/-- The events of a stream that `opened` began and `served` ended. -/
def streamEvents (i : StreamInput) (opened served : Leg) (deltas : List String) (f : StreamFinal) : List SseEvent :=
  [.metaEvent (i.metaData opened)] ++ deltas.map .delta ++
    [.done (buildStreamDoneEvent f (i.warnings served) (i.effectiveAlias served))]

/-- The answer of `POST /api/v1/chat` to the same outcome; an adapter gives no `totalTokens`. -/
def jsonAnswer (i : StreamInput) (served : Leg) (deltas : List String) (f : StreamFinal) : ChatResponseDto :=
  JsonChat.toChatResponseDto ⟨storedResponse i served (joinText deltas) f, none⟩

section Agreement
variable (numberOf : ℚ → Json.Number) {i : StreamInput} {opened served : Leg} {deltas : List String} {f : StreamFinal}

/-- The alias that served is in `done` when it is the fallback, and `meta` does not contradict. -/
theorem effectiveAlias_agrees (hlegs : Legs i opened served) :
    (truthy (i.effectiveAlias served)).or (i.metaData opened).effectiveModelAlias =
      truthy (truthy (i.effectiveAlias served)) := by
  rw [JsString.truthy_truthy]
  cases served with
  | primary =>
    have hopened : opened = .primary := hlegs.order.elim id id
    rw [hopened]
    simp [StreamInput.effectiveAlias, StreamInput.metaData, ExecutionOptions.legAlias]
  | fallback =>
    obtain ⟨fallbackAlias, halias, hne⟩ := hlegs.fallback rfl
    simp [StreamInput.effectiveAlias, halias, JsString.truthy_some, hne]

/-- The answer with each field as the run has it. -/
theorem jsonAnswer_eq : jsonAnswer i served deltas f =
    { id := i.responseId
      provider := i.providerName served
      model := i.options.primaryAlias
      effectiveModelAlias := truthy (i.effectiveAlias served)
      toolCalls := f.toolCalls
      finishReason := some (mapStopReasonToFinishReason f.stopReason f.toolCalls)
      text := joinText deltas
      usage := f.usage.map fun u => ⟨some u.inputTokens, some u.outputTokens, none⟩
      requestId := i.requestId
      conversationId := i.conversationId
      usageDetails := f.usageDetails
      systemFingerprint := truthy f.systemFingerprint
      thinkingContent := truthy f.thinkingContent
      warnings := i.warnings served
      hit := none } := by
  have hcalls : f.toolCalls.map JsonChat.toGatewayToolCallDto = f.toolCalls := List.map_id _
  have husage : (f.usage.map fun u => (⟨some u.inputTokens, some u.outputTokens⟩ : ChatUsage)).map
      (fun u => (⟨u.inputTokens, u.outputTokens, none⟩ : JsonChat.ChatUsageDto)) =
        f.usage.map fun u => ⟨some u.inputTokens, some u.outputTokens, none⟩ := by
    rw [Option.map_map]
    rfl
  simp only [jsonAnswer, JsonChat.toChatResponseDto, storedResponse, buildChatResponse,
    StreamFinal.toProviderResponse, JsString.truthy_truthy, hcalls, husage]

/-- What the client has at the end of the stream. -/
def finalClient (numberOf : ℚ → Json.Number) (i : StreamInput) (opened served : Leg) (deltas : List String)
    (f : StreamFinal) : Client where
  opened := some (eventData numberOf (.metaEvent (i.metaData opened)))
  text := joinText deltas
  closed := some (eventData numberOf
    (.done (buildStreamDoneEvent f (i.warnings served) (i.effectiveAlias served))))

/-- A member is looked up in the two literals of the stream. -/
theorem get?_finalClient {key : String} (hkey : key ≠ "output") :
    (finalClient numberOf i opened served deltas f).get? key =
      ((doneFields numberOf (buildStreamDoneEvent f (i.warnings served) (i.effectiveAlias served))).lookup key).join.or
        ((metaFields (i.metaData opened)).lookup key).join := by
  rw [Client.get?, if_neg hkey, get?_closed numberOf _ _ rfl, get?_opened numberOf _ _ rfl]

theorem plain_agrees (hlegs : Legs i opened served) : ∀ key ∈ plainMembers,
    (finalClient numberOf i opened served deltas f).get? key =
      (answerJson numberOf (jsonAnswer i served deltas f)).get? key := by
  have hor : ∀ o : Option Value, o.or none = o := fun o => Option.or_none
  have halias : ((truthy (i.effectiveAlias served)).map Value.str).or
      ((i.metaData opened).effectiveModelAlias.map .str) = (truthy (i.effectiveAlias served)).map .str := by
    rw [← Option.map_or, effectiveAlias_agrees hlegs, JsString.truthy_truthy]
  simp only [plainMembers, List.forall_mem_cons]
  refine ⟨?_, ?_, ?_, ?_, ?_, ?_, ?_, ?_, ?_, ?_, ?_, ?_, by simp⟩
  case refine_6 =>
    rw [get?_answer]
    rfl
  all_goals
    rw [get?_finalClient numberOf (by decide), get?_answer, jsonAnswer_eq]
  · rfl
  · rfl
  · exact halias
  · exact hor _
  · rfl
  · rfl
  · rfl
  · exact hor _
  · exact hor _
  · exact hor _
  · exact hor _

/-- The two usages, where there is one. -/
theorem usage_finalClient : (finalClient numberOf i opened served deltas f).get? "usage" =
    f.usage.map fun u => usageJson numberOf (some u.inputTokens) (some u.outputTokens)
      (f.usage.map fun u => u.inputTokens.value + u.outputTokens.value) := by
  rw [get?_finalClient numberOf (by decide)]
  exact Option.or_none

theorem usage_answer : (answerJson numberOf (jsonAnswer i served deltas f)).get? "usage" =
    f.usage.map fun u => usageJson numberOf (some u.inputTokens) (some u.outputTokens) none := by
  rw [get?_answer, jsonAnswer_eq]
  show (f.usage.map _).map _ = _
  rw [Option.map_map]
  rfl

theorem get?_usage (inputTokens outputTokens : Option Json.Number) (totalTokens : Option ℚ) (key : String) :
    (usageJson numberOf inputTokens outputTokens totalTokens).get? key =
      ((usageFields numberOf inputTokens outputTokens totalTokens).lookup key).join :=
  Json.Record.get?_toValue ⟨_, usageFields_distinct numberOf inputTokens outputTokens totalTokens⟩ key

/-- Neither literal has any other member. -/
theorem members_agree (hlegs : Legs i opened served) {key : String} (hprovider : key ≠ "provider") (husage : key ≠ "usage") :
    (finalClient numberOf i opened served deltas f).get? key =
      (answerJson numberOf (jsonAnswer i served deltas f)).get? key := by
  by_cases hplain : key ∈ plainMembers
  · exact plain_agrees numberOf hlegs key hplain
  · simp only [plainMembers, List.mem_cons, List.not_mem_nil, or_false, not_or] at hplain
    obtain ⟨hid, hmodel, halias, hcalls, hfinish, houtput, hrequest, hconversation, hdetails, hfingerprint, hthinking,
      hwarnings⟩ := hplain
    have hanswer : (answerJson numberOf (jsonAnswer i served deltas f)).get? key = none := by
      rw [get?_answer, List.lookup_eq_none_iff.mpr]
      · rfl
      · simp [answerFields, hid, hprovider, hmodel, halias, hcalls, hfinish, houtput, husage, hrequest, hconversation,
          hdetails, hfingerprint, hthinking, hwarnings]
    have hdone : (doneFields numberOf (buildStreamDoneEvent f (i.warnings served) (i.effectiveAlias served))).lookup key =
        none := List.lookup_eq_none_iff.mpr (by
      simp [doneFields, husage, hcalls, hfinish, hfingerprint, hthinking, hdetails, halias, hwarnings])
    have hmeta : (metaFields (i.metaData opened)).lookup key = none := List.lookup_eq_none_iff.mpr (by
      simp [metaFields, hid, hprovider, hmodel, halias, hrequest, hconversation])
    rw [hanswer, get?_finalClient numberOf houtput, hdone, hmeta]
    rfl

theorem counts_agree {count : String} (hcount : count ≠ "totalTokens") :
    prop ((finalClient numberOf i opened served deltas f).get? "usage") count =
      prop ((answerJson numberOf (jsonAnswer i served deltas f)).get? "usage") count := by
  rw [usage_finalClient, usage_answer]
  cases f.usage with
  | none => rfl
  | some u =>
    have htotal : (count == "totalTokens") = false := beq_eq_false_iff_ne.mpr hcount
    simp only [Option.map_some, prop, Option.bind_some, get?_usage, usageFields, List.lookup_cons, htotal]

theorem streamTotal_eq : prop ((finalClient numberOf i opened served deltas f).get? "usage") "totalTokens" =
    f.usage.map fun u => .num (numberOf (u.inputTokens.value + u.outputTokens.value)) := by
  rw [usage_finalClient]
  cases f.usage with
  | none => rfl
  | some u =>
    simp only [Option.map_some, prop, Option.bind_some, get?_usage]
    rfl

theorem answerTotal_eq :
    prop ((answerJson numberOf (jsonAnswer i served deltas f)).get? "usage") "totalTokens" = none := by
  rw [usage_answer]
  cases f.usage with
  | none => rfl
  | some u =>
    simp only [Option.map_some, prop, Option.bind_some, get?_usage]
    rfl

end Agreement

/-- For every outcome, wherever its text was cut: the client of the stream has the JSON answer, with
the sum of the counts in its usage, and names the provider of the answer just when that is the
provider of the stream opened first. -/
theorem native_stream_agrees (numberOf : ℚ → Json.Number) (i : StreamInput) (opened served : Leg)
    (hlegs : Legs i opened served) (deltas : List String) (f : StreamFinal) :
    ∃ client,
      readNativeStream (String.join ((streamEvents i opened served deltas f).map (serialize numberOf))) = some client ∧
      SameAnswer numberOf f.usage client (answerJson numberOf (jsonAnswer i served deltas f)) ∧
      (client.get? "provider" = (answerJson numberOf (jsonAnswer i served deltas f)).get? "provider" ↔
        i.providerName opened = i.providerName served) := by
  refine ⟨finalClient numberOf i opened served deltas f, read_stream numberOf _ deltas _,
    ⟨fun _ => members_agree numberOf hlegs, ?_, fun _ => counts_agree numberOf, streamTotal_eq numberOf,
      answerTotal_eq numberOf⟩, ?_⟩
  · rw [usage_finalClient, usage_answer]
    cases f.usage <;> rfl
  · rw [get?_finalClient numberOf (by decide), get?_answer, jsonAnswer_eq]
    show some (Value.str (i.providerName opened)) = some (.str (i.providerName served)) ↔ _
    simp

/-- The first alias fails after its stream was opened, and the fallback answers. -/
def fallenBack : StreamInput where
  options := ⟨"chat-default", some "chat-backup", defaultRetryPolicy⟩
  requestId := "req_1"
  conversationId := "conv_1"
  responseId := "gw_1"
  providerName := fun leg => if leg = .primary then "openai-main" else "anthropic-main"
  warnings := fun _ => []

/-- Its client is told the provider that failed. -/
theorem fallback_names_failed_provider :
    ∃ client, readNativeStream (String.join ((streamEvents fallenBack .primary .fallback ["Hi"] emptyFinal).map
        (serialize fun _ => zeroTokens))) = some client ∧
      client.get? "provider" ≠
        (answerJson (fun _ => zeroTokens) (jsonAnswer fallenBack .fallback ["Hi"] emptyFinal)).get? "provider" := by
  obtain ⟨client, hread, -, hprovider⟩ := native_stream_agrees (fun _ => zeroTokens) fallenBack .primary .fallback
    ⟨fun _ => ⟨"chat-backup", rfl, by decide⟩, .inr rfl⟩ ["Hi"] emptyFinal
  exact ⟨client, hread, fun heq => absurd (hprovider.mp heq) (by decide)⟩

end AiGateway.NativeStream
