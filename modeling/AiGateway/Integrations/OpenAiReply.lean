import AiGateway.Integrations.GatewayReply
import AiGateway.Lib.EventStream
import AiGateway.Lib.JsValue
import Mathlib.Logic.Function.Basic

/- The OpenAI facade's answers: `mapChatResponseToOpenAi` for JSON, `mapSseEventToOpenAi` for a
   stream, and a client that puts the chunks of a stream together.

   `openai_stream_agrees`: the client gets the content, the tool calls and the fingerprint of
   the JSON answer. The two mappers settle the finish reason each in its own way: with tool
   calls a stream always says `tool_calls`, while JSON has what the gateway says. -/
namespace AiGateway.Facade

open EventStream (Message)
open Json (Value asText readText asItems asNat natNumber)

inductive OpenAiFinishReason where
  | stop | length | toolCalls | contentFilter
  deriving DecidableEq, Repr

def OpenAiFinishReason.text : OpenAiFinishReason → String
  | .stop => "stop"
  | .length => "length"
  | .toolCalls => "tool_calls"
  | .contentFilter => "content_filter"

structure OpenAiToolCall where
  id : String
  type : String
  name : String
  arguments : String
  deriving DecidableEq, Repr

/-! ## JSON -/

def mapGatewayToolCallsToOpenAi (toolCalls : List GatewayToolCall) : List OpenAiToolCall :=
  toolCalls.map fun toolCall => ⟨toolCall.id, "function", toolCall.name, toolCall.arguments⟩

def mapSystemFingerprintToOpenAi (systemFingerprint : Option String) : Option String :=
  JsString.truthy systemFingerprint

def mapFinishReasontoOpenAI : Option SseFinishReason → OpenAiFinishReason
  | some .toolCalls => .toolCalls
  | some .length => .length
  | some .contentFilter => .contentFilter
  | _ => .stop

/-- `gatewayId` without `gw_`. -/
def toOpenAiCompletionId (gatewayId : String) : String :=
  if JsString.startsWith gatewayId "gw_" then "chatcmpl_" ++ String.ofList (gatewayId.toList.drop 3)
  else "chatcmpl_" ++ gatewayId

/-- `message` of a choice; the role is `assistant`. -/
structure OpenAiMessage where
  content : Option String
  toolCalls : List OpenAiToolCall
  deriving DecidableEq

structure OpenAiUsage where
  promptTokens : ℚ
  completionTokens : ℚ
  totalTokens : ℚ
  deriving DecidableEq

/-- `OpenAiChatCompletionResponseDto`, with its only choice. -/
structure OpenAiCompletion where
  id : String
  created : Json.Number
  model : String
  message : OpenAiMessage
  finishReason : OpenAiFinishReason
  usage : OpenAiUsage
  systemFingerprint : Option String
  deriving DecidableEq

def tokensOrZero (tokens : Option Json.Number) : ℚ := (tokens.map Json.Number.value).getD 0

def mapChatResponseToOpenAi (result : ChatResponseDto) (requestedModel : String) (created : Json.Number) :
    OpenAiCompletion :=
  let input := tokensOrZero (result.usage.bind ChatUsage.inputTokens)
  let output := tokensOrZero (result.usage.bind ChatUsage.outputTokens)
  let hasToolCalls := !result.toolCalls.isEmpty
  { id := toOpenAiCompletionId result.id
    created := created
    model := requestedModel
    message :=
      { content := if hasToolCalls && result.text = "" then none else some result.text
        toolCalls := mapGatewayToolCallsToOpenAi result.toolCalls }
    finishReason := mapFinishReasontoOpenAI result.finishReason
    usage := ⟨input, output, input + output⟩
    systemFingerprint := mapSystemFingerprintToOpenAi result.systemFingerprint }

/-! ## Stream -/

structure OpenAiStreamState where
  completionId : String
  model : String
  roleSent : Bool
  includeUsage : Bool
  created : Json.Number

def createOpenAiStreamState (requestedModel : String) (includeUsage : Bool) (created : Json.Number) :
    OpenAiStreamState :=
  ⟨"", requestedModel, false, includeUsage, created⟩

/-- A line of the stream: a chunk with the members of its object, or `[DONE]`. -/
inductive OpenAiLine where
  | chunk (payload : List (String × Value))
  | done

/-- `chunkLine`. -/
def OpenAiLine.render : OpenAiLine → String
  | .chunk payload => "data: " ++ Json.stringify (.obj payload) ++ "\n\n"
  | .done => "data: [DONE]\n\n"

def toolCallDelta (index : ℕ) (toolCall : GatewayToolCall) : Value :=
  .obj [("index", .num (natNumber index)), ("id", .str toolCall.id), ("type", .str "function"),
    ("function", .obj [("name", .str toolCall.name), ("arguments", .str toolCall.arguments)])]

/-- `toolCalls.map((toolCall, index) => ...)`, from index `first` on. -/
def buildToolCallsDelta (first : ℕ) : List GatewayToolCall → List Value
  | [] => []
  | toolCall :: toolCalls => toolCallDelta first toolCall :: buildToolCallsDelta (first + 1) toolCalls

def baseChunkFields (state : OpenAiStreamState) : List (String × Value) :=
  [("id", .str state.completionId), ("object", .str "chat.completion.chunk"), ("created", .num state.created),
    ("model", .str state.model)]

/-- `choices`, with its only choice. -/
def choices (delta : List (String × Value)) (finishReason : Value) : String × Value :=
  ("choices", .arr [.obj [("index", .num (natNumber 0)), ("delta", .obj delta), ("finish_reason", finishReason)]])

def resolveOpenAiFinishReason (done : SseDoneEvent) : OpenAiFinishReason :=
  if !done.toolCalls.isEmpty then .toolCalls
  else if done.finishReason.isSome then mapFinishReasontoOpenAI done.finishReason
  else .stop

/-- `totalTokens ?? input + output`; `JSON.stringify` writes a sum with an absent count as `null`,
and leaves an absent count out. -/
def openAiStreamUsage (numberOf : ℚ → Json.Number) (usage : ChatUsage) (totalTokens : Option ℚ) : Value :=
  let total := match totalTokens, usage.inputTokens, usage.outputTokens with
    | some total, _, _ => .num (numberOf total)
    | none, some input, some output => .num (numberOf (input.value + output.value))
    | none, _, _ => .null
  .obj ((usage.inputTokens.map fun n => ("prompt_tokens", Value.num n)).toList ++
    (usage.outputTokens.map fun n => ("completion_tokens", Value.num n)).toList ++ [("total_tokens", total)])

/-- The chunk of a delta. -/
def deltaChunk (state : OpenAiStreamState) (text : String) : List (String × Value) :=
  baseChunkFields state ++ [choices [("content", .str text)] .null]

/-- The chunk of the tool calls, where there are any. -/
def toolChunks (state : OpenAiStreamState) (toolCalls : List GatewayToolCall) : List (List (String × Value)) :=
  if toolCalls.isEmpty then []
  else [baseChunkFields state ++ [choices [("tool_calls", .arr (buildToolCallsDelta 0 toolCalls))] .null]]

/-- `numberOf` writes a number that the code computes. -/
def finalChunk (numberOf : ℚ → Json.Number) (state : OpenAiStreamState) (done : SseDoneEvent) :
    List (String × Value) :=
  let usage :=
    if state.includeUsage then done.usage.map fun u => openAiStreamUsage numberOf u done.totalTokens else none
  baseChunkFields state ++ [choices [] (.str (resolveOpenAiFinishReason done).text)] ++
    (usage.map fun u => ("usage", u)).toList ++
    ((mapSystemFingerprintToOpenAi done.systemFingerprint).map fun s => ("system_fingerprint", Value.str s)).toList

def mapSseEventToOpenAi (numberOf : ℚ → Json.Number) (event : SseEvent) (state : OpenAiStreamState) :
    OpenAiStreamState × List OpenAiLine :=
  match event with
  | .metaEvent id =>
    let state := { state with completionId := toOpenAiCompletionId id }
    if state.roleSent then (state, [])
    else
      ({ state with roleSent := true },
        [.chunk (baseChunkFields state ++ [choices [("role", .str "assistant"), ("content", .str "")] .null])])
  | .delta text => (state, [.chunk (deltaChunk state text)])
  | .done data =>
    (state, (toolChunks state data.toolCalls).map .chunk ++ [.chunk (finalChunk numberOf state data), .done])

/-! ## A client of the stream -/

/-- What a client has put together; the tool calls by their index. -/
structure OpenAiClient where
  content : String := ""
  toolCalls : ℕ → Option OpenAiToolCall := fun _ => none
  finishReason : Option String := none
  systemFingerprint : Option String := none

def readToolCall (item : Value) : OpenAiToolCall where
  id := (readText (item.get? "id")).getD ""
  type := (readText (item.get? "type")).getD ""
  name := (readText (Json.prop (item.get? "function") "name")).getD ""
  arguments := (readText (Json.prop (item.get? "function") "arguments")).getD ""

/-- The first part of a call names it; the arguments of later parts are appended. -/
def addToolCall (calls : ℕ → Option OpenAiToolCall) (item : Value) : ℕ → Option OpenAiToolCall :=
  match (item.get? "index").bind asNat with
  | none => calls
  | some index =>
    let part := readToolCall item
    Function.update calls index
      (some ((calls index).elim part fun call => { call with arguments := call.arguments ++ part.arguments }))

def OpenAiClient.read (client : OpenAiClient) (chunk : Value) : OpenAiClient :=
  let choice := (chunk.get? "choices").bind fun v => (asItems v).head?
  let delta := Json.prop choice "delta"
  { content := client.content ++ (readText (Json.prop delta "content")).getD ""
    toolCalls := (((Json.prop delta "tool_calls").map asItems).getD []).foldl addToolCall client.toolCalls
    finishReason := (readText (Json.prop choice "finish_reason")).or client.finishReason
    systemFingerprint := (readText (chunk.get? "system_fingerprint")).or client.systemFingerprint }

def OpenAiClient.readAll (client : OpenAiClient) (payloads : List (List (String × Value))) : OpenAiClient :=
  payloads.foldl (fun c payload => c.read (.obj payload)) client

/-- Chunk by chunk until `[DONE]`; a stream that ends before it has failed. -/
def readChunks (client : OpenAiClient) : List Message → Option OpenAiClient
  | [] => none
  | m :: ms =>
    if m.data = "[DONE]" then some client
    else (Json.parse m.data).bind fun chunk => readChunks (client.read chunk) ms

def readOpenAiStream (text : String) : Option OpenAiClient := readChunks {} (EventStream.read text)

/-! ## Lines and messages -/

def OpenAiLine.message : OpenAiLine → Message
  | .chunk payload => ⟨none, Json.stringify (.obj payload)⟩
  | .done => ⟨none, "[DONE]"⟩

theorem OpenAiLine.render_eq (line : OpenAiLine) : line.render = line.message.render := by
  cases line with
  | chunk payload => simp [OpenAiLine.render, OpenAiLine.message, Message.render]
  | done => rfl

theorem OpenAiLine.oneLine (line : OpenAiLine) : line.message.OneLine := by
  cases line with
  | chunk payload =>
    refine ⟨?_, Json.stringify_not_lineBreak _⟩
    intro name hname
    cases hname
  | done =>
    refine ⟨?_, Json.not_lineBreak_of_all rfl⟩
    intro name hname
    cases hname

theorem read_lines (lines : List OpenAiLine) :
    EventStream.read (String.join (lines.map OpenAiLine.render)) = lines.map OpenAiLine.message :=
  EventStream.read_map OpenAiLine.render_eq OpenAiLine.oneLine lines

/-- No chunk is taken for the end: `[DONE]` is not JSON. -/
theorem chunk_ne_done (payload : List (String × Value)) : Json.stringify (.obj payload) ≠ "[DONE]" := by
  intro heq
  have hparse := Json.parse_stringify (.obj payload)
  rw [heq] at hparse
  have hnone : Json.parse "[DONE]" = none := by decide
  rw [hnone] at hparse
  cases hparse

theorem readChunks_run (payloads : List (List (String × Value))) (client : OpenAiClient) :
    readChunks client ((payloads.map OpenAiLine.chunk ++ [OpenAiLine.done]).map OpenAiLine.message) =
      some (client.readAll payloads) := by
  induction payloads generalizing client with
  | nil => rfl
  | cons payload payloads ih =>
    simp only [List.map_cons, List.cons_append, readChunks, OpenAiLine.message, if_neg (chunk_ne_done payload),
      Json.parse_stringify, Option.bind_some]
    exact ih (client.read (.obj payload))

/-- A chunk as the client sees it: the choice, and the members after it. -/
theorem read_chunk (client : OpenAiClient) (state : OpenAiStreamState) (delta : List (String × Value))
    (finishReason : Value) (usage : Option Value) (fingerprint : Option String) :
    client.read (.obj (baseChunkFields state ++ [choices delta finishReason] ++
        (usage.map fun u => ("usage", u)).toList ++
        (fingerprint.map fun s => ("system_fingerprint", Value.str s)).toList)) =
      { content := client.content ++ (readText ((Value.obj delta).get? "content")).getD ""
        toolCalls := ((((Value.obj delta).get? "tool_calls").map asItems).getD []).foldl addToolCall client.toolCalls
        finishReason := (asText finishReason).or client.finishReason
        systemFingerprint := fingerprint.or client.systemFingerprint } := by
  unfold OpenAiClient.read
  cases usage <;> cases fingerprint <;> rfl

/-! ## The stream of a result -/

/-- The state once `meta` has been mapped; no later event changes it. -/
def OpenAiStreamState.opened (state : OpenAiStreamState) (id : String) : OpenAiStreamState :=
  { state with completionId := toOpenAiCompletionId id, roleSent := true }

theorem emit_deltas (numberOf : ℚ → Json.Number) (state : OpenAiStreamState) (deltas : List String) :
    emitAll (mapSseEventToOpenAi numberOf) state (deltas.map .delta) =
        (deltas.map (deltaChunk state)).map OpenAiLine.chunk ∧
      stateAfter (mapSseEventToOpenAi numberOf) state (deltas.map .delta) = state := by
  have hstep : ∀ text, mapSseEventToOpenAi numberOf (.delta text) state =
      (state, [OpenAiLine.chunk (deltaChunk state text)]) := by
    intro text
    rfl
  obtain ⟨hemit, hstate⟩ := emitAll_steady hstep deltas
  refine ⟨?_, hstate⟩
  rw [hemit, List.map_map]
  rfl

/-- The chunks of a whole stream. -/
def streamChunks (numberOf : ℚ → Json.Number) (state : OpenAiStreamState) (result : ChatResponseDto)
    (deltas : List String) : List (List (String × Value)) :=
  (baseChunkFields { state with completionId := toOpenAiCompletionId result.id } ++
      [choices [("role", .str "assistant"), ("content", .str "")] .null]) ::
    (deltas.map (deltaChunk (state.opened result.id)) ++
      (toolChunks (state.opened result.id) result.toolCalls ++
        [finalChunk numberOf (state.opened result.id) result.doneEvent]))

theorem emit_events (numberOf : ℚ → Json.Number) (state : OpenAiStreamState) (hfresh : state.roleSent = false)
    (result : ChatResponseDto) (deltas : List String) :
    emitAll (mapSseEventToOpenAi numberOf) state (result.events deltas) =
      (streamChunks numberOf state result deltas).map OpenAiLine.chunk ++ [OpenAiLine.done] := by
  have hmeta : mapSseEventToOpenAi numberOf (.metaEvent result.id) state = (state.opened result.id,
      [OpenAiLine.chunk (baseChunkFields { state with completionId := toOpenAiCompletionId result.id } ++
        [choices [("role", .str "assistant"), ("content", .str "")] .null])]) := by
    simp [mapSseEventToOpenAi, hfresh, OpenAiStreamState.opened]
  obtain ⟨hdeltas, hstate⟩ := emit_deltas numberOf (state.opened result.id) deltas
  unfold ChatResponseDto.events
  rw [emitAll, hmeta, emitAll_append, hdeltas, hstate]
  simp only [emitAll, mapSseEventToOpenAi, streamChunks, ChatResponseDto.doneEvent, List.map_cons, List.map_append,
    List.map_nil, List.append_assoc, List.cons_append, List.nil_append, List.append_nil]

/-! ## What the client makes of it -/

theorem addToolCall_free {calls : ℕ → Option OpenAiToolCall} {index : ℕ} (hfree : calls index = none)
    (toolCall : GatewayToolCall) :
    addToolCall calls (toolCallDelta index toolCall) =
      Function.update calls index (some ⟨toolCall.id, "function", toolCall.name, toolCall.arguments⟩) := by
  have hindex : ((toolCallDelta index toolCall).get? "index").bind asNat = some index := Json.asNat_natNumber index
  simp only [addToolCall, hindex, hfree, Option.elim_none]
  rfl

/-- Into slots that are free from `first` on, the calls go one after the other. -/
theorem addToolCalls (toolCalls : List GatewayToolCall) (first : ℕ) (calls : ℕ → Option OpenAiToolCall)
    (hfree : ∀ i, first ≤ i → calls i = none) (i : ℕ) :
    ((buildToolCallsDelta first toolCalls).foldl addToolCall calls) i =
      if first ≤ i then (mapGatewayToolCallsToOpenAi toolCalls)[i - first]? else calls i := by
  induction toolCalls generalizing first calls with
  | nil =>
    show calls i = _
    split_ifs with hi
    · rw [hfree i hi]
      rfl
    · rfl
  | cons toolCall toolCalls ih =>
    have hnext : ∀ j, first + 1 ≤ j → Function.update calls first
        (some ⟨toolCall.id, "function", toolCall.name, toolCall.arguments⟩) j = none := by
      intro j hj
      rw [Function.update_of_ne (by omega)]
      exact hfree j (by omega)
    rw [buildToolCallsDelta, List.foldl_cons, addToolCall_free (hfree first le_rfl), ih (first + 1) _ hnext]
    obtain hlt | rfl | hgt := lt_trichotomy i first
    · rw [if_neg (by omega), if_neg (by omega), Function.update_of_ne (by omega)]
    · rw [if_neg (by omega), if_pos le_rfl, Function.update_self, Nat.sub_self]
      rfl
    · obtain ⟨k, rfl⟩ := Nat.exists_eq_add_of_lt hgt
      rw [if_pos (by omega), if_pos (by omega), show first + k + 1 - (first + 1) = k by omega,
        show first + k + 1 - first = k + 1 by omega]
      rfl

theorem read_deltas (client : OpenAiClient) (state : OpenAiStreamState) (deltas : List String) :
    client.readAll (deltas.map (deltaChunk state)) =
      { client with content := client.content ++ joinText deltas } := by
  induction deltas generalizing client with
  | nil => simp [joinText, OpenAiClient.readAll]
  | cons text deltas ih =>
    have hread : client.read (.obj (deltaChunk state text)) = { client with content := client.content ++ text } :=
      read_chunk client state [("content", .str text)] .null none none
    calc client.readAll ((text :: deltas).map (deltaChunk state))
        = (client.read (.obj (deltaChunk state text))).readAll (deltas.map (deltaChunk state)) := rfl
      _ = { client with content := client.content ++ joinText (text :: deltas) } := by
          rw [hread, ih]
          simp only [joinText, String.append_assoc]

theorem read_toolChunks (client : OpenAiClient) (state : OpenAiStreamState) (toolCalls : List GatewayToolCall)
    (hfree : client.toolCalls = fun _ => none) :
    client.readAll (toolChunks state toolCalls) =
      { client with toolCalls := fun i => (mapGatewayToolCallsToOpenAi toolCalls)[i]? } := by
  cases toolCalls with
  | nil =>
    have hnil : (fun i : ℕ => (mapGatewayToolCallsToOpenAi [])[i]?) = fun _ => none := by
      funext i
      rfl
    rw [hnil, ← hfree]
    rfl
  | cons toolCall toolCalls =>
    have hcalls : (buildToolCallsDelta 0 (toolCall :: toolCalls)).foldl addToolCall client.toolCalls =
        fun i => (mapGatewayToolCallsToOpenAi (toolCall :: toolCalls))[i]? := by
      funext i
      rw [addToolCalls _ 0 _ (by intro j _; rw [hfree]), if_pos (Nat.zero_le i), Nat.sub_zero]
    calc client.readAll (toolChunks state (toolCall :: toolCalls))
        = client.read (.obj (baseChunkFields state ++
            [choices [("tool_calls", .arr (buildToolCallsDelta 0 (toolCall :: toolCalls)))] .null])) := rfl
      _ = { client with
            content := client.content ++ ""
            toolCalls := (buildToolCallsDelta 0 (toolCall :: toolCalls)).foldl addToolCall client.toolCalls } :=
          read_chunk client state [("tool_calls", .arr (buildToolCallsDelta 0 (toolCall :: toolCalls)))] .null none none
      _ = { client with toolCalls := fun i => (mapGatewayToolCallsToOpenAi (toolCall :: toolCalls))[i]? } := by
          rw [hcalls, String.append_empty]

/-- The answer that a client puts together. -/
theorem read_streamChunks (numberOf : ℚ → Json.Number) (state : OpenAiStreamState) (result : ChatResponseDto)
    (deltas : List String) :
    ({} : OpenAiClient).readAll (streamChunks numberOf state result deltas) =
      { content := joinText deltas
        toolCalls := fun i => (mapGatewayToolCallsToOpenAi result.toolCalls)[i]?
        finishReason := some (resolveOpenAiFinishReason result.doneEvent).text
        systemFingerprint := mapSystemFingerprintToOpenAi result.systemFingerprint } := by
  have hmeta : ∀ s : OpenAiStreamState, ({} : OpenAiClient).read (.obj (baseChunkFields s ++
      [choices [("role", .str "assistant"), ("content", .str "")] .null])) = {} := by
    intro s
    exact read_chunk {} s [("role", .str "assistant"), ("content", .str "")] .null none none
  have happend : ∀ (client : OpenAiClient) (xs ys : List (List (String × Value))),
      client.readAll (xs ++ ys) = (client.readAll xs).readAll ys := by
    intro client xs ys
    exact List.foldl_append
  have hfinal : ∀ client : OpenAiClient,
      client.readAll [finalChunk numberOf (state.opened result.id) result.doneEvent] =
        client.read (.obj (finalChunk numberOf (state.opened result.id) result.doneEvent)) := by
    intro client
    rfl
  calc ({} : OpenAiClient).readAll (streamChunks numberOf state result deltas)
      = (({} : OpenAiClient).read (.obj (baseChunkFields { state with completionId := toOpenAiCompletionId result.id } ++
          [choices [("role", .str "assistant"), ("content", .str "")] .null]))).readAll
          (deltas.map (deltaChunk (state.opened result.id)) ++
            (toolChunks (state.opened result.id) result.toolCalls ++
              [finalChunk numberOf (state.opened result.id) result.doneEvent])) := rfl
    _ = _ := by
      rw [hmeta, happend, read_deltas, happend, read_toolChunks _ _ _ rfl, hfinal, finalChunk, read_chunk]
      simp [Value.get?, readText, asText, ChatResponseDto.doneEvent]

/-! ## Stream and JSON -/

/-- What a stream writes, line by line, from a fresh state. -/
def openAiStreamLines (numberOf : ℚ → Json.Number) (requestedModel : String) (includeUsage : Bool)
    (created : Json.Number) (events : List SseEvent) : List String :=
  (emitAll (mapSseEventToOpenAi numberOf) (createOpenAiStreamState requestedModel includeUsage created) events).map
    OpenAiLine.render

section Stream
variable (numberOf : ℚ → Json.Number) (result : ChatResponseDto) (deltas : List String) (requestedModel : String)
  (includeUsage : Bool) (created : Json.Number)

theorem readOpenAiStream_events :
    readOpenAiStream (String.join (openAiStreamLines numberOf requestedModel includeUsage created
        (result.events deltas))) =
      some { content := joinText deltas
             toolCalls := fun i => (mapGatewayToolCallsToOpenAi result.toolCalls)[i]?
             finishReason := some (resolveOpenAiFinishReason result.doneEvent).text
             systemFingerprint := mapSystemFingerprintToOpenAi result.systemFingerprint } := by
  unfold readOpenAiStream openAiStreamLines
  rw [read_lines, emit_events numberOf _ rfl, readChunks_run, read_streamChunks]

theorem lastLine_events :
    (openAiStreamLines numberOf requestedModel includeUsage created (result.events deltas)).getLast? =
      some "data: [DONE]\n\n" := by
  unfold openAiStreamLines
  rw [emit_events numberOf _ rfl, List.map_append]
  exact List.getLast?_concat

/-- `null` is read as the empty text. -/
theorem content_getD :
    (mapChatResponseToOpenAi result requestedModel created).message.content.getD "" = result.text := by
  unfold mapChatResponseToOpenAi
  simp only
  split_ifs with h
  · simp only [Bool.and_eq_true, decide_eq_true_eq] at h
    rw [h.2]
    rfl
  · rfl

theorem resolveFinishReason_eq (h : result.toolCalls = [] ∨ result.finishReason = some .toolCalls) :
    resolveOpenAiFinishReason result.doneEvent = mapFinishReasontoOpenAI result.finishReason := by
  unfold resolveOpenAiFinishReason ChatResponseDto.doneEvent
  obtain h | h := h
  · simp only [h, List.isEmpty_nil, Bool.not_true, Bool.false_eq_true, if_false]
    cases result.finishReason <;> rfl
  · simp [h, mapFinishReasontoOpenAI]

theorem resolveFinishReason_calls (h : result.toolCalls ≠ []) :
    resolveOpenAiFinishReason result.doneEvent = .toolCalls := by
  unfold resolveOpenAiFinishReason ChatResponseDto.doneEvent
  simp [h]

end Stream

/-- For every result and every cut of its text: a stream ends with `[DONE]`, and its client gets
what JSON says. The finish reason is the same without tool calls, and where the gateway itself
says `tool_calls`; where it says nothing special of an answer with tool calls, the stream does. -/
theorem openai_stream_agrees (numberOf : ℚ → Json.Number) (result : ChatResponseDto) (deltas : List String)
    (requestedModel : String) (includeUsage : Bool) (created created' : Json.Number)
    (hsplit : joinText deltas = result.text) :
    let lines := openAiStreamLines numberOf requestedModel includeUsage created (result.events deltas)
    let reply := mapChatResponseToOpenAi result requestedModel created'
    lines.getLast? = some "data: [DONE]\n\n" ∧
      ∃ client, readOpenAiStream (String.join lines) = some client ∧
        client.content = reply.message.content.getD "" ∧
        (client.toolCalls = fun i => reply.message.toolCalls[i]?) ∧
        client.systemFingerprint = reply.systemFingerprint ∧
        (result.toolCalls = [] ∨ result.finishReason = some .toolCalls →
          client.finishReason = some reply.finishReason.text) ∧
        (result.toolCalls ≠ [] → reply.finishReason = .stop → client.finishReason = some "tool_calls") := by
  intro lines reply
  refine ⟨lastLine_events numberOf result deltas requestedModel includeUsage created, _,
    readOpenAiStream_events numberOf result deltas requestedModel includeUsage created, ?_, rfl, rfl, ?_, ?_⟩
  · rw [content_getD]
    exact hsplit
  · intro h
    rw [resolveFinishReason_eq result h]
    rfl
  · intro h _
    rw [resolveFinishReason_calls result h]
    rfl

/-! ## Two answers with a tool call -/

def cityCall : GatewayToolCall := ⟨"call_1", "get_weather", "\x7b\"city\":\"NYC\"\x7d"⟩

def callResult (finishReason : SseFinishReason) : ChatResponseDto where
  id := "gw_1"
  text := "Let me look."
  usage := none
  totalTokens := none
  toolCalls := [cityCall]
  finishReason := some finishReason
  usageDetails := none
  systemFingerprint := some "fp_1"
  thinkingContent := none

/-- What the client of a stream has for the finish reason of `callResult`. -/
def streamedFinish (finishReason : SseFinishReason) : Option String :=
  (readOpenAiStream (String.join (openAiStreamLines (fun _ => zeroTokens) "chat-default" false zeroTokens
    ((callResult finishReason).events ["Let me ", "look."])))).bind OpenAiClient.finishReason

theorem streamedFinish_eq (finishReason : SseFinishReason) : streamedFinish finishReason = some "tool_calls" := by
  unfold streamedFinish
  rw [readOpenAiStream_events]
  rfl

/-- An answer that was cut off at its token limit, and one that the gateway calls finished: JSON
says so, the stream says `tool_calls`. -/
theorem streamed_calls_finish :
    streamedFinish .length = some "tool_calls" ∧
    (mapChatResponseToOpenAi (callResult .length) "chat-default" zeroTokens).finishReason = .length ∧
    streamedFinish .stop = some "tool_calls" ∧
    (mapChatResponseToOpenAi (callResult .stop) "chat-default" zeroTokens).finishReason = .stop :=
  ⟨streamedFinish_eq .length, rfl, streamedFinish_eq .stop, rfl⟩

/-- The same answer as the gateway reports it, in two deltas. -/
theorem openai_stream_agrees_call :
    ∃ client, readOpenAiStream (String.join (openAiStreamLines (fun _ => zeroTokens) "chat-default" false zeroTokens
        ((callResult .toolCalls).events ["Let me ", "look."]))) = some client ∧
      client.content = "Let me look." ∧ client.finishReason = some "tool_calls" := by
  obtain ⟨-, client, hclient, hcontent, -, -, hfinish, -⟩ := openai_stream_agrees (fun _ => zeroTokens)
    (callResult .toolCalls) ["Let me ", "look."] "chat-default" false zeroTokens zeroTokens (by decide)
  refine ⟨client, hclient, ?_, hfinish (.inr rfl)⟩
  rw [hcontent]
  decide

end AiGateway.Facade
