import AiGateway.Providers.Interface

/- `createAnthropicProvider`: how a `Message` of the Anthropic API becomes the gateway's
   answer, whole or streamed. The SDK accumulates the streamed message itself
   (`finalMessage`), so a stream is its events together with the message it resolves to.

   `complete_stream_agree_iff`: the three ways to read a message agree on it if and only if
   there is nothing in it that `complete` without tools leaves out. `length_reported_as_stop`
   is a message for which they differ. -/
namespace AiGateway.Anthropic

/-- `Message.stop_reason`. -/
inductive MessageStopReason where
  | endTurn | toolUse | maxTokens | stopSequence | pauseTurn | refusal
  | modelContextWindowExceeded
  | other (word : String)
  deriving DecidableEq, Repr

inductive ContentBlock where
  | text (text : String)
  | thinking (thinking : Option String)
  | toolUse (id name : String) (input : Option Json.Value)
  | other

structure Usage where
  inputTokens : Json.Number
  outputTokens : Json.Number
  cacheReadInputTokens : Option Json.Number
  cacheCreationInputTokens : Option Json.Number

structure Message where
  content : List ContentBlock
  stopReason : Option MessageStopReason
  model : String
  usage : Usage

/-- `STOP_REASON_MAP`; a word that it does not have gives `undefined`. -/
def stopReasonMap : MessageStopReason → Option StopReason
  | .endTurn => some .endTurn
  | .toolUse => some .toolUse
  | .maxTokens => some .maxTokens
  | .stopSequence => some .stopSequence
  | .pauseTurn => some .pauseTurn
  | .refusal => some .refusal
  | .modelContextWindowExceeded | .other _ => none

def stringifyToolInput : Option Json.Value → String
  | some (.str text) => text
  | some .null | none => "{}"
  | some input => Json.stringify input

def ContentBlock.text? : ContentBlock → Option String
  | .text t => some t
  | _ => none

def ContentBlock.toolCall? : ContentBlock → Option GatewayToolCall
  | .toolUse id name input => some ⟨id, name, stringifyToolInput input⟩
  | _ => none

def ContentBlock.thinking? : ContentBlock → Option String
  | .thinking t => some (t.getD "")
  | _ => none

def extractAnthropicThinkingContent (content : List ContentBlock) : Option String :=
  JsString.truthy (some (joinText (content.filterMap ContentBlock.thinking?)))

def Message.text (m : Message) : String := joinText (m.content.filterMap ContentBlock.text?)

def Message.toolCalls (m : Message) : List GatewayToolCall := m.content.filterMap ContentBlock.toolCall?

def Message.providerUsage (m : Message) : CachedUsage := ⟨m.usage.inputTokens, m.usage.outputTokens⟩

def Message.usageDetails (m : Message) : Option ProviderUsageDetails :=
  match m.usage.cacheReadInputTokens, m.usage.cacheCreationInputTokens with
  | none, none => none
  | hit, creation => some ⟨hit, creation⟩

def parseAnthropicResponseWithTools (m : Message) : ProviderChatResponse where
  text := m.text
  toolCalls := m.toolCalls
  stopReason := m.stopReason.bind stopReasonMap
  model := m.model
  usage := some m.providerUsage
  usageDetails := m.usageDetails
  systemFingerprint := none
  thinkingContent := extractAnthropicThinkingContent m.content

/-- `complete`; `tools` says whether the input has any. Without tools the tool calls, the stop
reason and the usage details of the message are not read. -/
def complete (tools : Bool) (m : Message) : ProviderChatResponse :=
  if tools then parseAnthropicResponseWithTools m
  else
    { text := m.text
      toolCalls := []
      stopReason := none
      model := m.model
      usage := some m.providerUsage
      usageDetails := none
      systemFingerprint := none
      thinkingContent := extractAnthropicThinkingContent m.content }

inductive StreamEvent where
  | textDelta (text : String)   -- `content_block_delta` with a `text_delta`
  | other

/-- A `MessageStream`: its events, whether iterating over them throws at the end, and what
`finalMessage()` resolves to (`none`: it rejects). -/
structure MessageStream where
  events : List StreamEvent
  throws : Bool
  finalMessage : Option Message

def StreamEvent.text? : StreamEvent → Option String
  | .textDelta text => some text
  | .other => none

def stream (s : MessageStream) : StreamResult where
  textStream := s.events.filterMap StreamEvent.text?
  final :=
    if s.throws then none
    else s.finalMessage.map fun m =>
      let parsed := parseAnthropicResponseWithTools m
      streamFinal (some m.providerUsage) (some parsed.toolCalls) parsed.stopReason none
        (extractAnthropicThinkingContent m.content) parsed.usageDetails

/-! ## The ends that are reported -/

/-- Without tools no stop reason is passed on. -/
theorem complete_finish (m : Message) :
    mapStopReasonToFinishReason (complete false m).stopReason (complete false m).toolCalls = .stop := rfl

/-- A message counts as finished unless it calls a tool or its stop reason is one of the four
that `mapStopReasonToFinishReason` tells apart. -/
theorem parsed_finish {m : Message} :
    mapStopReasonToFinishReason (parseAnthropicResponseWithTools m).stopReason
        (parseAnthropicResponseWithTools m).toolCalls = .stop ↔
      m.toolCalls = [] ∧ m.stopReason ≠ some .maxTokens ∧ m.stopReason ≠ some .toolUse ∧
        m.stopReason ≠ some .refusal := by
  rw [mapStopReason_eq_stop]
  apply and_congr_right
  intro _
  show (∀ r, m.stopReason.bind stopReasonMap = some r → _) ↔ _
  cases m.stopReason with
  | none => simp
  | some r => cases r <;> simp [stopReasonMap]

/-! ## One message, read three ways -/

/-- A message without what `complete` does not read when the input has no tools. -/
structure Message.Plain (m : Message) : Prop where
  noToolUse : ∀ id name input, .toolUse id name input ∉ m.content
  noStopReason : ∀ reason, m.stopReason = some reason → stopReasonMap reason = none
  noCacheTokens : m.usage.cacheReadInputTokens = none ∧ m.usage.cacheCreationInputTokens = none

theorem toolCalls_eq_nil {m : Message} : m.toolCalls = [] ↔ ∀ id name input, .toolUse id name input ∉ m.content := by
  unfold Message.toolCalls
  rw [List.filterMap_eq_nil_iff]
  constructor
  · intro hnone id name input hmem
    cases hnone _ hmem
  · intro hnone block hmem
    cases block with
    | text text => rfl
    | thinking thinking => rfl
    | toolUse id name input => exact absurd hmem (hnone id name input)
    | other => rfl

theorem usageDetails_eq_none {m : Message} :
    m.usageDetails = none ↔ m.usage.cacheReadInputTokens = none ∧ m.usage.cacheCreationInputTokens = none := by
  unfold Message.usageDetails
  cases m.usage.cacheReadInputTokens <;> cases m.usage.cacheCreationInputTokens <;> simp

/-- Without tools the answer is the parsed one for plain messages only. -/
theorem complete_agree_iff (m : Message) : complete false m = complete true m ↔ m.Plain := by
  have hstop : none = m.stopReason.bind stopReasonMap ↔
      ∀ reason, m.stopReason = some reason → stopReasonMap reason = none := by
    cases m.stopReason <;> simp [eq_comm]
  simp only [complete, parseAnthropicResponseWithTools, Bool.false_eq_true, if_false, if_true,
    ProviderChatResponse.mk.injEq, true_and, and_true]
  constructor
  · rintro ⟨htoolCalls, hstopReason, hdetails⟩
    exact ⟨toolCalls_eq_nil.mp htoolCalls.symm, hstop.mp hstopReason, usageDetails_eq_none.mp hdetails.symm⟩
  · intro hplain
    exact ⟨(toolCalls_eq_nil.mpr hplain.noToolUse).symm, hstop.mpr hplain.noStopReason,
      (usageDetails_eq_none.mpr hplain.noCacheTokens).symm⟩

/-- A stream gives what `complete` gives with tools. -/
theorem stream_agrees (m : Message) (s : MessageStream) (hfinal : s.finalMessage = some m) (hends : s.throws = false)
    (htext : joinText (s.events.filterMap StreamEvent.text?) = m.text) : (stream s).Agrees (complete true m) := by
  have hthinking : JsString.truthy (extractAnthropicThinkingContent m.content) =
      extractAnthropicThinkingContent m.content := JsString.truthy_truthy _
  refine ⟨htext, streamFinal (some m.providerUsage) (some m.toolCalls) (m.stopReason.bind stopReasonMap) none
    (extractAnthropicThinkingContent m.content) m.usageDetails, ?_, rfl, rfl, rfl, rfl, rfl, hthinking⟩
  unfold stream
  rw [hfinal, hends]
  rfl

theorem complete_stream_agree_iff (m : Message) (s : MessageStream) (hfinal : s.finalMessage = some m)
    (hends : s.throws = false) (htext : joinText (s.events.filterMap StreamEvent.text?) = m.text) :
    (complete false m = complete true m ∧ (stream s).Agrees (complete true m) ∧ (stream s).Agrees (complete false m)) ↔
      m.Plain := by
  rw [← complete_agree_iff]
  constructor
  · exact fun hagree => hagree.1
  · intro hsame
    have hstream := stream_agrees m s hfinal hends htext
    exact ⟨hsame, hstream, hsame ▸ hstream⟩

/-- "The", with a stop reason. -/
def theMessage (stopReason : Option MessageStopReason) : Message :=
  ⟨[.text "The"], stopReason, "claude-sonnet", ⟨zeroTokens, zeroTokens, none, none⟩⟩

def theStream (stopReason : Option MessageStopReason) : MessageStream :=
  ⟨[.other, .textDelta "T", .textDelta "he", .other], false, some (theMessage stopReason)⟩

theorem the_message_agrees_iff :
    (complete false (theMessage none) = complete true (theMessage none) ∧
      (stream (theStream none)).Agrees (complete true (theMessage none)) ∧
      (stream (theStream none)).Agrees (complete false (theMessage none))) ↔ (theMessage none).Plain :=
  complete_stream_agree_iff (theMessage none) (theStream none) rfl rfl rfl

/-- A message that `max_tokens` cut short. -/
theorem length_reported_as_stop :
    ¬ ∀ (m : Message) (s : MessageStream), s.finalMessage = some m → s.throws = false →
      joinText (s.events.filterMap StreamEvent.text?) = m.text →
      complete false m = complete true m ∧ (stream s).Agrees (complete true m) ∧ (stream s).Agrees (complete false m) := by
  intro hclaim
  have hsame := (hclaim (theMessage (some .maxTokens)) (theStream (some .maxTokens)) rfl rfl rfl).1
  cases congrArg ProviderChatResponse.stopReason hsame

end AiGateway.Anthropic
