import AiGateway.Lib.JsMap
import AiGateway.Providers.Interface

/- `createResponsesAdapter`, for the OpenAI Responses API: how a `Response`, or the events that
   stream it, become the gateway's answer. A stream ends with one of `response.completed`,
   `response.incomplete` and `response.failed`, of which the adapter reads the first; its tool
   calls are put together from the events of the output items.

   `stream_finish`: a stream counts as finished unless a function call was closed in it or its
   last `response.completed` says otherwise. -/
namespace AiGateway.Responses

inductive Status where
  | completed | failed | inProgress | cancelled | queued | incomplete
  deriving DecidableEq, Repr

/-- `incomplete_details.reason`. -/
inductive IncompleteReason where
  | maxOutputTokens | contentFilter
  | other (word : String)
  deriving DecidableEq, Repr

/-- A part of a reasoning item's `summary`. -/
inductive SummaryPart where
  | summaryText (text : String)
  | other

/-- A part of a message's `content`. -/
inductive MessagePart where
  | outputText (text : String)
  | refusal (refusal : String)

inductive OutputItem where
  | functionCall (id : Option String) (callId name arguments : String)
  | reasoning (summary : Option (List SummaryPart))
  | message (content : List MessagePart)
  | other

structure Usage where
  inputTokens : Option Json.Number
  outputTokens : Option Json.Number

/-- `outputText` is a field that the SDK adds. -/
structure Response where
  outputText : Option String
  output : Option (List OutputItem)
  status : Option Status
  incompleteReason : Option IncompleteReason
  model : Option String
  usage : Option Usage

def Usage.providerUsage (u : Usage) : CachedUsage := ⟨tokensOr0 u.inputTokens, tokensOr0 u.outputTokens⟩

def OutputItem.isFunctionCall : OutputItem → Bool
  | .functionCall .. => true
  | _ => false

/-- `extractResponsesOutputItemToolCall`. -/
def OutputItem.toolCall? : OutputItem → Option GatewayToolCall
  | .functionCall _ callId name arguments => some ⟨callId, name, orEmptyObject arguments⟩
  | _ => none

def extractResponsesToolCalls (output : Option (List OutputItem)) : List GatewayToolCall :=
  (output.getD []).filterMap OutputItem.toolCall?

def Response.hasToolCalls (r : Response) : Bool := (r.output.getD []).any OutputItem.isFunctionCall

def mapResponsesStopReason (r : Response) : StopReason :=
  if r.hasToolCalls then .toolCalls
  else match r.status, r.incompleteReason with
    | some .incomplete, some .maxOutputTokens => .length
    | some .incomplete, some .contentFilter => .contentFilter
    | _, _ => .stop

/-- The texts of an item's summary that are not empty. -/
def OutputItem.summaryTexts : OutputItem → List String
  | .reasoning summary => (summary.getD []).filterMap fun
    | .summaryText text => JsString.truthy (some text)
    | .other => none
  | _ => []

def extractResponsesReasoningSummaryText (output : Option (List OutputItem)) : Option String :=
  JsString.truthy (some (joinText ((output.getD []).flatMap OutputItem.summaryTexts)))

def parseOpenAiResponse (r : Response) (modelId : String) : ProviderChatResponse where
  text := r.outputText.getD ""
  toolCalls := extractResponsesToolCalls r.output
  stopReason := some (mapResponsesStopReason r)
  model := r.model.getD modelId
  usage := r.usage.map Usage.providerUsage
  usageDetails := none
  systemFingerprint := none
  thinkingContent := none

def complete (modelId : String) (r : Response) : ProviderChatResponse :=
  { parseOpenAiResponse r modelId with thinkingContent := extractResponsesReasoningSummaryText r.output }

/-! ## Streams -/

inductive StreamEvent where
  | completed (response : Response)
  | incomplete (response : Response)
  | failed (response : Response)
  | outputItemAdded (item : OutputItem)
  | outputItemDone (item : OutputItem)
  | functionCallArgumentsDone (itemId name arguments : String)
  | outputTextDelta (delta : String)
  | refusalDone (refusal : String)
  | reasoningSummaryTextDelta (delta : String)
  | reasoningSummaryTextDone (text : String)
  | other

/-- The variables of `stream`. -/
structure StreamState where
  finalResponse : Option Response
  reasoningBuffer : String
  itemIdToCallId : JsMap String String
  accumulatedToolCalls : JsMap String (String × String)

def StreamState.initial : StreamState := ⟨none, "", .empty, .empty⟩

def registerResponsesFunctionCallItemId (item : OutputItem) (registry : JsMap String String) : JsMap String String :=
  match item with
  | .functionCall (some id) callId _ _ => if id = "" ∨ callId = "" then registry else registry.set id callId
  | _ => registry

def extractResponsesStreamToolCallDone (itemId name arguments : String) (callByItemId : JsMap String String) :
    GatewayToolCall :=
  ⟨(callByItemId.get? itemId).getD itemId, name, orEmptyObject arguments⟩

def StreamState.setCall (s : StreamState) (call : GatewayToolCall) : StreamState :=
  { s with accumulatedToolCalls := s.accumulatedToolCalls.set call.id (call.name, call.arguments) }

def accumulateResponsesReasoningDelta (event : StreamEvent) (buffer : String) : String :=
  match event with
  | .reasoningSummaryTextDelta delta => buffer ++ delta
  | .reasoningSummaryTextDone text => text
  | _ => buffer

/-- The body of the loop over the events, less what it yields. -/
def readEvent (s : StreamState) (event : StreamEvent) : StreamState :=
  let s := { s with reasoningBuffer := accumulateResponsesReasoningDelta event s.reasoningBuffer }
  match event with
  | .completed response => { s with finalResponse := some response }
  | .outputItemAdded item =>
    { s with itemIdToCallId := registerResponsesFunctionCallItemId item s.itemIdToCallId }
  | .functionCallArgumentsDone itemId name arguments =>
    s.setCall (extractResponsesStreamToolCallDone itemId name arguments s.itemIdToCallId)
  | .outputItemDone item =>
    let s := { s with itemIdToCallId := registerResponsesFunctionCallItemId item s.itemIdToCallId }
    match item.toolCall? with
    | some call => s.setCall call
    | none => s
  | _ => s

def StreamEvent.text? : StreamEvent → Option String
  | .outputTextDelta delta => some delta
  | _ => none

/-- The events of a stream, and whether it throws after them. -/
structure ResponseStream where
  events : List StreamEvent
  throws : Bool

def ResponseStream.read (s : ResponseStream) : StreamState := s.events.foldl readEvent .initial

namespace StreamState

def getFinalToolCalls (s : StreamState) : List GatewayToolCall :=
  s.accumulatedToolCalls.entries.map fun (id, name, args) => ⟨id, name, orEmptyObject args⟩

def getStopReason (s : StreamState) : StopReason :=
  if !s.accumulatedToolCalls.entries.isEmpty then .toolCalls
  else match s.finalResponse with
    | none => .stop
    | some response => mapResponsesStopReason response

def getUsageMetadata (s : StreamState) : Option CachedUsage :=
  (s.finalResponse.bind Response.usage).map Usage.providerUsage

def getThinkingContent (s : StreamState) : Option String :=
  (extractResponsesReasoningSummaryText (s.finalResponse.bind Response.output)).or
    (JsString.truthy (some s.reasoningBuffer))

end StreamState

def stream (s : ResponseStream) : StreamResult where
  textStream := s.events.filterMap StreamEvent.text?
  final :=
    if s.throws then none
    else some (streamFinal s.read.getUsageMetadata (some s.read.getFinalToolCalls) (some s.read.getStopReason)
      none s.read.getThinkingContent none)

/-! ## What the loop has read -/

/-- An event that closes a function call. -/
def StreamEvent.closesCall : StreamEvent → Bool
  | .functionCallArgumentsDone .. => true
  | .outputItemDone item => item.isFunctionCall
  | _ => false

def StreamEvent.completed? : StreamEvent → Option Response
  | .completed response => some response
  | _ => none

/-- The response of the last `response.completed`. -/
def ResponseStream.completed (s : ResponseStream) : Option Response :=
  s.events.reverse.findSome? StreamEvent.completed?

theorem isFunctionCall_iff {item : OutputItem} : item.isFunctionCall = true ↔ ∃ call, item.toolCall? = some call := by
  cases item <;> simp [OutputItem.isFunctionCall, OutputItem.toolCall?]

theorem setCall_entries_ne (s : StreamState) (call : GatewayToolCall) :
    (s.setCall call).accumulatedToolCalls.entries ≠ [] := by
  intro hnil
  have hmem := JsMap.mem_entries.mpr (JsMap.get?_set_self s.accumulatedToolCalls call.id (call.name, call.arguments))
  have hentries : (s.accumulatedToolCalls.set call.id (call.name, call.arguments)).entries = [] := hnil
  rw [hentries] at hmem
  cases hmem

theorem readEvent_finalResponse (s : StreamState) (event : StreamEvent) :
    (readEvent s event).finalResponse = event.completed?.or s.finalResponse := by
  cases event with
  | outputItemDone item => cases item <;> rfl
  | _ => rfl

theorem readEvent_calls (s : StreamState) (event : StreamEvent) :
    (readEvent s event).accumulatedToolCalls.entries = [] ↔
      event.closesCall = false ∧ s.accumulatedToolCalls.entries = [] := by
  cases event with
  | functionCallArgumentsDone itemId name arguments =>
    simp only [readEvent, StreamEvent.closesCall]
    simp [setCall_entries_ne]
  | outputItemDone item =>
    cases hcall : item.toolCall? with
    | none =>
      have hno : item.isFunctionCall = false := by
        rw [← Bool.not_eq_true, isFunctionCall_iff, hcall]
        simp
      simp [readEvent, hcall, StreamEvent.closesCall, hno]
    | some call =>
      have hyes : item.isFunctionCall = true := isFunctionCall_iff.mpr ⟨call, hcall⟩
      simp only [readEvent, hcall, StreamEvent.closesCall, hyes]
      simp [setCall_entries_ne]
  | _ => simp [readEvent, StreamEvent.closesCall]

theorem foldl_readEvent (events : List StreamEvent) (s : StreamState) :
    (events.foldl readEvent s).finalResponse =
        (events.reverse.findSome? StreamEvent.completed?).or s.finalResponse ∧
      ((events.foldl readEvent s).accumulatedToolCalls.entries = [] ↔
        (∀ e ∈ events, e.closesCall = false) ∧ s.accumulatedToolCalls.entries = []) := by
  induction events generalizing s with
  | nil => simp
  | cons event events ih =>
    obtain ⟨hfinal, hcalls⟩ := ih (readEvent s event)
    refine ⟨?_, ?_⟩
    · rw [List.foldl_cons, hfinal, readEvent_finalResponse, List.reverse_cons, List.findSome?_append,
        Option.or_assoc]
      simp
    · rw [List.foldl_cons, hcalls, readEvent_calls]
      simp only [List.mem_cons, forall_eq_or_imp]
      tauto

/-! ## The ends that are reported -/

/-- A response counts as finished unless it calls a function or is incomplete for one of the
two reasons that are known. -/
def Response.CountsAsFinished (r : Response) : Prop :=
  r.hasToolCalls = false ∧
    ¬ (r.status = some .incomplete ∧
      (r.incompleteReason = some .maxOutputTokens ∨ r.incompleteReason = some .contentFilter))

theorem mapResponsesStopReason_eq_stop {r : Response} : mapResponsesStopReason r = .stop ↔ r.CountsAsFinished := by
  unfold mapResponsesStopReason Response.CountsAsFinished
  cases r.hasToolCalls with
  | true => simp
  | false =>
    cases r.status with
    | none => simp
    | some status =>
      cases r.incompleteReason with
      | none => cases status <;> simp
      | some reason => cases status <;> cases reason <;> simp

theorem mapResponsesStopReason_finish (r : Response) (toolCalls : List GatewayToolCall) :
    mapStopReasonToFinishReason (some (mapResponsesStopReason r)) toolCalls = .stop ↔
      toolCalls = [] ∧ r.CountsAsFinished := by
  rw [← mapResponsesStopReason_eq_stop, mapStopReason_eq_stop]
  apply and_congr_right
  intro _
  unfold mapResponsesStopReason
  split
  · simp
  · split <;> simp

theorem extractResponsesToolCalls_eq_nil {r : Response} (h : r.hasToolCalls = false) :
    extractResponsesToolCalls r.output = [] := by
  apply List.filterMap_eq_nil_iff.mpr
  intro item hitem
  have hno := List.any_eq_false.mp h item hitem
  cases hcall : item.toolCall? with
  | none => rfl
  | some call => exact absurd (isFunctionCall_iff.mpr ⟨call, hcall⟩) hno

theorem complete_finish (modelId : String) (r : Response) :
    mapStopReasonToFinishReason (complete modelId r).stopReason (complete modelId r).toolCalls = .stop ↔
      r.CountsAsFinished := by
  show mapStopReasonToFinishReason (some (mapResponsesStopReason r)) (extractResponsesToolCalls r.output) = _ ↔ _
  rw [mapResponsesStopReason_finish]
  refine ⟨fun h => h.2, fun h => ⟨extractResponsesToolCalls_eq_nil h.1, h⟩⟩

theorem stream_finish {s : ResponseStream} {f : StreamFinal} (h : (stream s).final = some f) :
    mapStopReasonToFinishReason f.stopReason f.toolCalls = .stop ↔
      (∀ e ∈ s.events, e.closesCall = false) ∧ ∀ r, s.completed = some r → r.CountsAsFinished := by
  unfold stream at h
  split at h
  · cases h
  · obtain rfl := Option.some.inj h
    obtain ⟨hread, hclosed⟩ := foldl_readEvent s.events .initial
    have hfinal : s.read.finalResponse = s.completed := hread.trans (Option.or_none ..)
    have hcalls : s.read.accumulatedToolCalls.entries = [] ↔ ∀ e ∈ s.events, e.closesCall = false :=
      hclosed.trans (and_iff_left rfl)
    show mapStopReasonToFinishReason (some s.read.getStopReason) s.read.getFinalToolCalls = .stop ↔ _
    rw [← hcalls, ← hfinal]
    unfold StreamState.getStopReason StreamState.getFinalToolCalls
    cases hentries : s.read.accumulatedToolCalls.entries with
    | cons entry entries => simp [mapStopReasonToFinishReason]
    | nil =>
      cases s.read.finalResponse with
      | none => simp [mapStopReasonToFinishReason]
      | some r =>
        have hr := mapResponsesStopReason_finish r []
        simpa using hr

end AiGateway.Responses
