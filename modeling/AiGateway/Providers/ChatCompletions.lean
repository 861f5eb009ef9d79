import AiGateway.Lib.JsMap
import AiGateway.Providers.Interface

/- `createChatCompletionsAdapter`, for the OpenAI-compatible providers: how a chat completion,
   or the chunks of a streamed one, become the gateway's answer. The tool calls of a stream
   come in fragments, which `accumulateOpenAiStreamToolCallDeltas` puts together by index.

   `stream_finish`: a stream counts as finished unless a tool call is complete or its last
   chunk has one of three finish reasons. -/
namespace AiGateway.ChatCompletions

/-- `finish_reason` of a choice. -/
inductive ChoiceFinishReason where
  | stop | length | toolCalls | contentFilter
  | other (word : String)
  deriving DecidableEq, Repr

/-- A `tool_calls` item of a message; only functions are called. -/
inductive MessageToolCall where
  | function (id name : String) (arguments : Option String)
  | custom

/-- `refusal` is not read by the adapter, here and in a chunk. -/
structure Message where
  content : Option String
  refusal : Option String
  reasoningContent : Option Json.Value
  toolCalls : Option (List MessageToolCall)

structure Choice where
  message : Option Message
  finishReason : Option ChoiceFinishReason

structure Usage where
  promptTokens : Option Json.Number
  completionTokens : Option Json.Number

structure ChatCompletion where
  choices : List Choice
  model : String
  usage : Option Usage
  systemFingerprint : Option String

def Usage.providerUsage (u : Usage) : CachedUsage := ⟨tokensOr0 u.promptTokens, tokensOr0 u.completionTokens⟩

def mapOpenAiFinishReason : Option ChoiceFinishReason → StopReason
  | some .stop => .stop
  | some .length => .length
  | some .toolCalls => .toolCalls
  | some .contentFilter => .contentFilter
  | _ => .stop

def readOpenAiReasoningContent (message : Option Message) : Option String :=
  match message.bind Message.reasoningContent with
  | some (.str reasoning) => if JsString.trim reasoning = "" then none else some reasoning
  | _ => none

def MessageToolCall.toolCall? : MessageToolCall → Option GatewayToolCall
  | .function id name arguments => some ⟨id, name, arguments.getD "{}"⟩
  | .custom => none

def mapOpenAiToolCalls (raw : List MessageToolCall) : List GatewayToolCall :=
  raw.filterMap MessageToolCall.toolCall?

def ChatCompletion.message (r : ChatCompletion) : Option Message := r.choices.head?.bind Choice.message

def ChatCompletion.finishReason (r : ChatCompletion) : Option ChoiceFinishReason :=
  r.choices.head?.bind Choice.finishReason

def ChatCompletion.toolCalls (r : ChatCompletion) : List GatewayToolCall :=
  mapOpenAiToolCalls ((r.message.bind Message.toolCalls).getD [])

def parseOpenAiCompletionWithTools (r : ChatCompletion) : ProviderChatResponse where
  text := (r.message.bind Message.content).getD ""
  toolCalls := r.toolCalls
  stopReason := some (mapOpenAiFinishReason r.finishReason)
  model := r.model
  usage := r.usage.map Usage.providerUsage
  usageDetails := none
  systemFingerprint := JsString.truthy r.systemFingerprint
  thinkingContent := readOpenAiReasoningContent r.message

/-- `complete`, with or without tools. -/
def complete (r : ChatCompletion) : ProviderChatResponse := parseOpenAiCompletionWithTools r

/-! ## Streams -/

/-- `name` and `arguments` are those of `function`, absent with it. -/
structure ToolCallDelta where
  index : ℕ
  id : Option String
  name : Option String
  arguments : Option String

structure ChunkChoice where
  content : Option String
  refusal : Option String
  toolCalls : Option (List ToolCallDelta)
  finishReason : Option ChoiceFinishReason

structure Chunk where
  choices : List ChunkChoice
  usage : Option Usage
  model : Option String
  systemFingerprint : Option String

structure AccumulatedCall where
  id : Option String
  name : String
  arguments : String
  deriving DecidableEq

abbrev ToolCallAccumulator := JsMap ℕ AccumulatedCall

def extractOpenAiStreamDeltaText (chunk : Chunk) : String :=
  (chunk.choices.head?.bind ChunkChoice.content).getD ""

def Chunk.deltas (chunk : Chunk) : List ToolCallDelta :=
  (chunk.choices.head?.bind ChunkChoice.toolCalls).getD []

/-- The entry of a delta's index once the delta is added to what is there. -/
def ToolCallDelta.extend (delta : ToolCallDelta) (existing : AccumulatedCall) : AccumulatedCall where
  id := delta.id.or existing.id
  name := delta.name.getD existing.name
  arguments := existing.arguments ++ delta.arguments.getD ""

def accumulateDelta (accumulator : ToolCallAccumulator) (delta : ToolCallDelta) : ToolCallAccumulator :=
  accumulator.set delta.index (delta.extend ((accumulator.get? delta.index).getD ⟨none, "", ""⟩))

def accumulateOpenAiStreamToolCallDeltas (accumulator : ToolCallAccumulator) (chunk : Chunk) :
    ToolCallAccumulator :=
  chunk.deltas.foldl accumulateDelta accumulator

def AccumulatedCall.toolCall? (call : AccumulatedCall) : Option GatewayToolCall :=
  match JsString.truthy call.id with
  | some id => if call.name = "" then none else some ⟨id, call.name, orEmptyObject call.arguments⟩
  | none => none

def finalizeOpenAiStreamToolCalls (accumulator : ToolCallAccumulator) : List GatewayToolCall :=
  accumulator.values.filterMap AccumulatedCall.toolCall?

/-- The chunks of a stream, and whether it throws after them. -/
structure CompletionStream where
  chunks : List Chunk
  throws : Bool

def CompletionStream.toolCalls (s : CompletionStream) : List GatewayToolCall :=
  finalizeOpenAiStreamToolCalls (s.chunks.foldl accumulateOpenAiStreamToolCallDeltas .empty)

/-- `finalChunk?.choices[0]?.finish_reason`. -/
def CompletionStream.lastFinishReason (s : CompletionStream) : Option ChoiceFinishReason :=
  s.chunks.getLast?.bind fun chunk => chunk.choices.head?.bind ChunkChoice.finishReason

def CompletionStream.getStopReason (s : CompletionStream) : StopReason :=
  match s.lastFinishReason with
  | some .toolCalls => .toolCalls
  | some .length => .length
  | some .contentFilter => .contentFilter
  | _ => .stop

/-- `finalChunk` is asked for the usage, the finish reason and the fingerprint. -/
def stream (s : CompletionStream) : StreamResult where
  textStream := s.chunks.filterMap fun chunk => JsString.truthy (some (extractOpenAiStreamDeltaText chunk))
  final :=
    if s.throws then none
    else
      some (streamFinal ((s.chunks.getLast?.bind Chunk.usage).map Usage.providerUsage) (some s.toolCalls)
        (some s.getStopReason) (s.chunks.getLast?.bind Chunk.systemFingerprint) none none)

/-! ## The accumulator -/

/-- What the deltas of one index add up to. -/
def entryOf (index : ℕ) (deltas : List ToolCallDelta) (start : Option AccumulatedCall) : Option AccumulatedCall :=
  deltas.foldl (fun entry delta =>
    if delta.index = index then some (delta.extend (entry.getD ⟨none, "", ""⟩)) else entry) start

theorem get?_foldl_accumulateDelta (index : ℕ) (deltas : List ToolCallDelta) (accumulator : ToolCallAccumulator) :
    (deltas.foldl accumulateDelta accumulator).get? index = entryOf index deltas (accumulator.get? index) := by
  induction deltas generalizing accumulator with
  | nil => rfl
  | cons delta deltas ih =>
    rw [List.foldl_cons, ih]
    by_cases hindex : delta.index = index
    · subst hindex
      simp [accumulateDelta, entryOf]
    · rw [accumulateDelta, JsMap.get?_set_ne _ _ (Ne.symm hindex)]
      simp [entryOf, hindex]

theorem foldl_chunks (chunks : List Chunk) (accumulator : ToolCallAccumulator) :
    chunks.foldl accumulateOpenAiStreamToolCallDeltas accumulator =
      (chunks.flatMap Chunk.deltas).foldl accumulateDelta accumulator := by
  induction chunks generalizing accumulator with
  | nil => rfl
  | cons chunk chunks ih =>
    rw [List.foldl_cons, ih, List.flatMap_cons, List.foldl_append]
    rfl

/-- The last id or name that the deltas of an index have given. -/
def lastGiven {α : Type} (field : ToolCallDelta → Option α) (index : ℕ) (deltas : List ToolCallDelta) : Option α :=
  deltas.reverse.findSome? fun delta => if delta.index = index then field delta else none

/-- Some index has got a nonempty id and a nonempty name. -/
def CompletionStream.HasToolCall (s : CompletionStream) : Prop :=
  ∃ index id name, lastGiven ToolCallDelta.id index (s.chunks.flatMap Chunk.deltas) = some id ∧ id ≠ "" ∧
    lastGiven ToolCallDelta.name index (s.chunks.flatMap Chunk.deltas) = some name ∧ name ≠ ""

theorem lastGiven_cons {α : Type} (field : ToolCallDelta → Option α) (index : ℕ) (delta : ToolCallDelta)
    (deltas : List ToolCallDelta) :
    lastGiven field index (delta :: deltas) =
      (lastGiven field index deltas).or (if delta.index = index then field delta else none) := by
  rw [lastGiven, List.reverse_cons, List.findSome?_append]
  simp [lastGiven]

theorem entryOf_id (index : ℕ) (deltas : List ToolCallDelta) (start : Option AccumulatedCall) :
    (entryOf index deltas start).bind AccumulatedCall.id =
      (lastGiven ToolCallDelta.id index deltas).or (start.bind AccumulatedCall.id) := by
  induction deltas generalizing start with
  | nil => rfl
  | cons delta deltas ih =>
    rw [entryOf, List.foldl_cons, ← entryOf, ih, lastGiven_cons, Option.or_assoc]
    by_cases hindex : delta.index = index
    · cases start <;> simp [hindex, ToolCallDelta.extend]
    · simp [hindex]

theorem entryOf_name (index : ℕ) (deltas : List ToolCallDelta) (start : Option AccumulatedCall) :
    ((entryOf index deltas start).map AccumulatedCall.name).getD "" =
      (lastGiven ToolCallDelta.name index deltas).getD ((start.map AccumulatedCall.name).getD "") := by
  induction deltas generalizing start with
  | nil => rfl
  | cons delta deltas ih =>
    rw [entryOf, List.foldl_cons, ← entryOf, ih, lastGiven_cons]
    by_cases hindex : delta.index = index
    · cases start <;> cases lastGiven ToolCallDelta.name index deltas <;>
        cases hname : delta.name <;> simp [hindex, ToolCallDelta.extend, hname]
    · simp [hindex]

/-- A call is handed on once it has an id and a name. -/
theorem toolCall?_isSome {entry : Option AccumulatedCall} :
    (∃ call, entry.bind AccumulatedCall.toolCall? = some call) ↔
      (∃ id, entry.bind AccumulatedCall.id = some id ∧ id ≠ "") ∧
        (entry.map AccumulatedCall.name).getD "" ≠ "" := by
  cases entry with
  | none => simp
  | some e =>
    cases hid : e.id with
    | none => simp [AccumulatedCall.toolCall?, JsString.truthy, hid]
    | some id =>
      by_cases hempty : id = "" <;> by_cases hname : e.name = "" <;>
        simp [AccumulatedCall.toolCall?, JsString.truthy_some, hid, hempty, hname]

theorem CompletionStream.toolCalls_eq_nil (s : CompletionStream) : s.toolCalls = [] ↔ ¬ s.HasToolCall := by
  have hentry : ∀ index, (s.chunks.foldl accumulateOpenAiStreamToolCallDeltas .empty).get? index =
      entryOf index (s.chunks.flatMap Chunk.deltas) none := by
    intro index
    rw [foldl_chunks, get?_foldl_accumulateDelta, JsMap.get?_empty]
  have hcall : ∀ index, (∃ call, (entryOf index (s.chunks.flatMap Chunk.deltas) none).bind
      AccumulatedCall.toolCall? = some call) ↔ ∃ id name,
        lastGiven ToolCallDelta.id index (s.chunks.flatMap Chunk.deltas) = some id ∧ id ≠ "" ∧
        lastGiven ToolCallDelta.name index (s.chunks.flatMap Chunk.deltas) = some name ∧ name ≠ "" := by
    intro index
    rw [toolCall?_isSome, entryOf_id, entryOf_name]
    cases lastGiven ToolCallDelta.id index (s.chunks.flatMap Chunk.deltas) <;>
      cases lastGiven ToolCallDelta.name index (s.chunks.flatMap Chunk.deltas) <;> simp
  unfold CompletionStream.HasToolCall
  rw [← not_iff_not, not_not]
  constructor
  · intro hne
    obtain ⟨call, hmem⟩ := List.exists_mem_of_ne_nil _ hne
    obtain ⟨v, hv, hv'⟩ := List.mem_filterMap.mp hmem
    obtain ⟨⟨index, v⟩, hentries, rfl⟩ := List.mem_map.mp hv
    refine ⟨index, (hcall index).mp ⟨call, ?_⟩⟩
    rw [← hentry, JsMap.mem_entries.mp hentries]
    exact hv'
  · intro hcomplete
    obtain ⟨index, hindex⟩ := hcomplete
    obtain ⟨call, hbind⟩ := (hcall index).mpr hindex
    rw [← hentry] at hbind
    obtain ⟨v, hget, hv⟩ := Option.bind_eq_some_iff.mp hbind
    apply List.ne_nil_of_mem (a := call)
    exact List.mem_filterMap.mpr ⟨v, List.mem_map.mpr ⟨_, JsMap.mem_entries.mpr hget, rfl⟩, hv⟩

/-! ## The ends that are reported -/

theorem complete_finish {r : ChatCompletion} :
    mapStopReasonToFinishReason (complete r).stopReason (complete r).toolCalls = .stop ↔
      r.toolCalls = [] ∧ r.finishReason ≠ some .length ∧ r.finishReason ≠ some .toolCalls ∧
        r.finishReason ≠ some .contentFilter := by
  rw [mapStopReason_eq_stop]
  apply and_congr_right
  intro _
  show (∀ reason, some (mapOpenAiFinishReason r.finishReason) = some reason → _) ↔ _
  cases r.finishReason with
  | none => simp [mapOpenAiFinishReason]
  | some reason => cases reason <;> simp [mapOpenAiFinishReason]

theorem stream_finish {s : CompletionStream} {f : StreamFinal} (h : (stream s).final = some f) :
    mapStopReasonToFinishReason f.stopReason f.toolCalls = .stop ↔
      ¬ s.HasToolCall ∧ s.lastFinishReason ≠ some .length ∧ s.lastFinishReason ≠ some .toolCalls ∧
        s.lastFinishReason ≠ some .contentFilter := by
  unfold stream at h
  split at h
  · cases h
  · obtain rfl := Option.some.inj h
    rw [mapStopReason_eq_stop, ← CompletionStream.toolCalls_eq_nil]
    apply and_congr_right
    intro _
    show (∀ reason, some s.getStopReason = some reason → _) ↔ _
    unfold CompletionStream.getStopReason
    cases s.lastFinishReason with
    | none => simp
    | some reason => cases reason <;> simp

end AiGateway.ChatCompletions
