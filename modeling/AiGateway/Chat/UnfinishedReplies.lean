import AiGateway.Chat.CachePipeline
import AiGateway.Chat.StreamMiss
import AiGateway.Providers.Anthropic
import AiGateway.Providers.ChatCompletions
import AiGateway.Providers.Google
import AiGateway.Providers.Responses

/- Which replies of the providers get into the caches: the end of `completeChatAndStore` and of
   `executeStreamMiss`, behind each of the four adapters and in both call modes. The only guard
   on the way is `finishReason === 'stop'`, and the adapters differ in what they make of the
   upstream's own finish reason. `cacheWrites_of_run` ties the writes to the runs of
   `executeStreamMiss`.

   `unfinished_not_stored_iff`: a reply that ended early is kept out of the caches exactly when
   it is not one of those that `Slips` lists, or has no text, or belongs to a call that may not
   write. `truncated_message_stored` is a truncated message that is stored. -/
namespace AiGateway

/-- What a provider call comes back with, before the adapter reads it. -/
inductive Upstream where
  | anthropic (m : Anthropic.Message)
  | anthropicStream (s : Anthropic.MessageStream)
  | google (c : Google.Call) (r : Google.GenerateContentResponse)
  | googleStream (c : Google.Call) (s : Google.ContentStream)
  | responses (modelId : String) (r : Responses.Response)
  | responsesStream (s : Responses.ResponseStream)
  | chatCompletions (r : ChatCompletions.ChatCompletion)
  | chatCompletionsStream (s : ChatCompletions.CompletionStream)

/-- The result of `streamOnce`, as the argument of `buildChatResponse`. -/
def StreamResult.providerResponse (r : StreamResult) : Option ProviderResponse :=
  r.final.map fun f => f.toProviderResponse (joinText r.textStream)

/-- What the adapter makes of the reply; `none` when the call throws. -/
def Upstream.providerResponse (tools : Bool) : Upstream → Option ProviderResponse
  | .anthropic m => some (Anthropic.complete tools m).toProviderResponse
  | .anthropicStream s => (Anthropic.stream s).providerResponse
  | .google c r => some (Google.complete tools c r).toProviderResponse
  | .googleStream c s => (Google.stream c s).providerResponse
  | .responses modelId r => some (Responses.complete modelId r).toProviderResponse
  | .responsesStream s => (Responses.stream s).providerResponse
  | .chatCompletions r => some (ChatCompletions.complete r).toProviderResponse
  | .chatCompletionsStream s => (ChatCompletions.stream s).providerResponse

/-- A request that has missed the caches, with the executor's account of the attempt that
succeeded and what the stores find when they are called. -/
structure MissCall where
  input : ExecuteInput
  conversationId : String
  providerName : String
  usedAlias : String
  didFallback : Bool
  warnings : List CachedChatWarning
  responseId : String
  cachedAt : String
  exactAvailable : Bool           -- `cache.isAvailable()`
  vector : Option (List UInt32)   -- of the lookup, or embedded by `storeReply`

inductive CacheWrite where
  | exact (key text : String)
  | semantic (input : UpsertInput)

/-- `setCachedResponse`, then `storeReply`. -/
def storeWrites (cfg : CacheConfig) (k : MissCall) (reply : CachedChatResponse) : List CacheWrite :=
  (if k.exactAvailable then [.exact (k.input.key cfg.identity) (writeCachedReply reply)] else []) ++
    match semanticIdentity cfg k.input, k.vector with
    | some identity, some vector => [.semantic ⟨identity, vector, reply, cfg.ttlSeconds⟩]
    | _, _ => []

def MissCall.outcome (k : MissCall) (response : ProviderResponse) : MissOutcome where
  response := response
  providerName := k.providerName
  effectiveModelAlias := if k.didFallback then some k.usedAlias else none
  warnings := k.warnings
  responseId := k.responseId

def setCachedIfAllowed (cfg : CacheConfig) (k : MissCall) (response : ChatResponseData) : List CacheWrite :=
  match replyToStore cfg k.input response k.didFallback k.cachedAt with
  | none => []
  | some reply => storeWrites cfg k reply

/-- The writes of the call for this reply. -/
def cacheWrites (cfg : CacheConfig) (k : MissCall) (u : Upstream) : List CacheWrite :=
  match u.providerResponse (k.input.request.toolDefinitions > 0) with
  | none => []
  | some response => setCachedIfAllowed cfg k (missResponse k.input (k.outcome response) k.conversationId)

/-- The stream that `streamOnce` reads. -/
def Upstream.streamResult : Upstream → Option StreamResult
  | .anthropicStream s => some (Anthropic.stream s)
  | .googleStream c s => some (Google.stream c s)
  | .responsesStream s => some (Responses.stream s)
  | .chatCompletionsStream s => some (ChatCompletions.stream s)
  | _ => none

theorem Upstream.providerResponse_of_stream {u : Upstream} {r : StreamResult} (tools : Bool)
    (h : u.streamResult = some r) : u.providerResponse tools = r.providerResponse := by
  cases u <;> cases h <;> rfl

/-- The call is the one that a run of `executeStreamMiss` makes, on the primary alias. -/
structure MissCall.OfStream (k : MissCall) (i : StreamInput) : Prop where
  modelAlias : k.input.request.modelAlias = i.options.primaryAlias
  requestId : k.input.requestId = i.requestId
  conversationId : k.conversationId = i.conversationId
  responseId : k.responseId = i.responseId
  providerName : k.providerName = i.providerName .primary
  warnings : k.warnings = i.warnings .primary
  primary : k.didFallback = false

/-- What a run of `executeStreamMiss` writes are the writes for the reply that one of its
attempts has read. -/
theorem cacheWrites_of_run {i : StreamInput} {acts : List StreamMissAction} {s : StreamRun} {k : MissCall}
    {r : ChatResponseData} (cfg : CacheConfig) (hk : k.OfStream i)
    (hrun : Runs.run (streamMissStep i) .initial acts = some s) (hr : s.stored = some r) :
    ∃ id f, StreamMissAction.finish id f ∈ acts ∧ ∀ (u : Upstream) (stream : StreamResult),
      u.streamResult = some stream → stream.textStream = chunkTextsOf id acts → stream.final = some f →
        setCachedIfAllowed cfg k r = cacheWrites cfg k u := by
  obtain ⟨id, f, hfinish, hstored⟩ := stored_of_run hrun hr
  refine ⟨id, f, hfinish, ?_⟩
  intro u stream hu htexts hfinal
  have hresponse : u.providerResponse (k.input.request.toolDefinitions > 0) =
      some (f.toProviderResponse (joinText (chunkTextsOf id acts))) := by
    rw [Upstream.providerResponse_of_stream _ hu, StreamResult.providerResponse, hfinal, htexts, Option.map_some]
  have hmiss : missResponse k.input (k.outcome (f.toProviderResponse (joinText (chunkTextsOf id acts))))
      k.conversationId = r := by
    rw [hstored, missResponse, storedResponse, hk.modelAlias, hk.requestId, hk.conversationId]
    simp [MissCall.outcome, hk.responseId, hk.providerName, hk.warnings, hk.primary, StreamInput.effectiveAlias]
  unfold cacheWrites
  rw [hresponse]
  exact congrArg (setCachedIfAllowed cfg k) hmiss.symm

/-! ## Ends that are not natural -/

/-- Cut off, or refused. -/
def Anthropic.MessageStopReason.early : MessageStopReason → Bool
  | .maxTokens | .modelContextWindowExceeded | .refusal => true
  | _ => false

/-- Cut off, or filtered. -/
def Google.CandidateFinishReason.early : CandidateFinishReason → Bool
  | .maxTokens | .safety | .recitation | .blocklist | .prohibitedContent | .spii | .imageSafety => true
  | _ => false

def ChatCompletions.ChoiceFinishReason.early : ChoiceFinishReason → Bool
  | .length | .contentFilter => true
  | _ => false

def Responses.Status.early : Status → Bool
  | .incomplete | .failed => true
  | _ => false

/-- The finish reason that a stream has given. -/
def Google.ContentStream.finishReason (s : ContentStream) : Option CandidateFinishReason :=
  s.chunks.reverse.findSome? GenerateContentResponse.finishReason

def ChatCompletions.Chunk.finishReason (chunk : Chunk) : Option ChoiceFinishReason :=
  chunk.choices.head?.bind ChunkChoice.finishReason

def ChatCompletions.CompletionStream.finishReason (s : CompletionStream) : Option ChoiceFinishReason :=
  s.chunks.reverse.findSome? Chunk.finishReason

def ChatCompletions.ChatCompletion.refused (r : ChatCompletion) : Bool :=
  (JsString.truthy (r.message.bind Message.refusal)).isSome

def ChatCompletions.CompletionStream.refused (s : CompletionStream) : Bool :=
  s.chunks.any fun chunk => (JsString.truthy (chunk.choices.head?.bind ChunkChoice.refusal)).isSome

def Responses.OutputItem.refuses : OutputItem → Bool
  | .message content => content.any fun
    | .refusal _ => true
    | .outputText _ => false
  | _ => false

def Responses.Response.refused (r : Response) : Bool := (r.output.getD []).any OutputItem.refuses

/-- An event that tells of a refusal, or ends the stream without success. -/
def Responses.StreamEvent.fails : StreamEvent → Bool
  | .incomplete _ | .failed _ | .refusalDone _ => true
  | .completed response => response.status.any Status.early || response.refused
  | .outputItemDone item => item.refuses
  | _ => false

/-- The generation did not end naturally: it was cut off, filtered or refused, its status is
incomplete or failed, or a stream ended without a finish reason or without
`response.completed`. -/
def Upstream.EndedEarly : Upstream → Prop
  | .anthropic m => m.stopReason.any (·.early) = true
  | .anthropicStream s => s.throws = true ∨ (s.finalMessage.bind Anthropic.Message.stopReason).all (·.early) = true
  | .google _ r => r.finishReason.any (·.early) = true
  | .googleStream _ s => s.throws = true ∨ s.finishReason.all (·.early) = true
  | .responses _ r => r.status.any (·.early) = true ∨ r.refused = true
  | .responsesStream s => s.throws = true ∨ s.completed = none ∨ s.events.any (·.fails) = true
  | .chatCompletions r => r.finishReason.any (·.early) = true ∨ r.refused = true
  | .chatCompletionsStream s => s.throws = true ∨ s.finishReason.all (·.early) = true ∨ s.refused = true

/-- Early ends that come out of the adapter as finished answers. -/
def Upstream.Slips : Upstream → Prop
  -- `complete` without tools does not read the stop reason
  | .anthropic m => m.stopReason.any (·.early) = true
  | .anthropicStream s => s.throws = false ∧ ∃ m, s.finalMessage = some m ∧ m.toolCalls = [] ∧
      (m.stopReason = none ∨ m.stopReason = some .modelContextWindowExceeded)
  -- the finish reason of a candidate is not read at all
  | .google _ r => r.finishReason.any (·.early) = true
  | .googleStream _ s => s.throws = false ∧ s.finishReason.all (·.early) = true ∧
      ∀ r, s.chunks.getLast? = some r → r.toolCalls = []
  -- failed, refused, or incomplete for another reason than the two that are known
  | .responses _ r => r.CountsAsFinished ∧ (r.status.any (·.early) = true ∨ r.refused = true)
  -- the same of the last `response.completed`, or there is none
  | .responsesStream s => s.throws = false ∧ (∀ e ∈ s.events, e.closesCall = false) ∧
      (∀ r, s.completed = some r → r.CountsAsFinished) ∧ (s.completed = none ∨ s.events.any (·.fails) = true)
  | .chatCompletions r => r.toolCalls = [] ∧ r.refused = true ∧ r.finishReason ≠ some .length ∧
      r.finishReason ≠ some .toolCalls ∧ r.finishReason ≠ some .contentFilter
  -- the finish reason is not in the last chunk, or nowhere
  | .chatCompletionsStream s => s.throws = false ∧ ¬ s.HasToolCall ∧ s.lastFinishReason ≠ some .length ∧
      s.lastFinishReason ≠ some .toolCalls ∧ s.lastFinishReason ≠ some .contentFilter ∧
      (s.finishReason.all (·.early) = true ∨ s.refused = true)

/-- The text of the reply. -/
def Upstream.text : Upstream → String
  | .anthropic m => m.text
  | .anthropicStream s => joinText (s.events.filterMap Anthropic.StreamEvent.text?)
  | .google _ r => r.text.getD ""
  | .googleStream _ s => joinText (s.chunks.filterMap fun r => JsString.truthy r.text)
  | .responses _ r => r.outputText.getD ""
  | .responsesStream s => joinText (s.events.filterMap Responses.StreamEvent.text?)
  | .chatCompletions r => (r.message.bind ChatCompletions.Message.content).getD ""
  | .chatCompletionsStream s => joinText (s.chunks.filterMap fun chunk =>
      JsString.truthy (some (ChatCompletions.extractOpenAiStreamDeltaText chunk)))

/-- The call may use the caches, comes from the primary alias, and has a store to write to. -/
def MissCall.MayWrite (cfg : CacheConfig) (k : MissCall) : Prop :=
  k.didFallback = false ∧ k.input.cacheable cfg.gateway = true ∧
    (k.exactAvailable = true ∨ (semanticIdentity cfg k.input).isSome = true ∧ k.vector.isSome = true)

/-! ## From the reply to the writes -/

/-- The gateway takes the answer for a finished one. -/
def ProviderResponse.Finished (r : ProviderResponse) : Prop :=
  mapStopReasonToFinishReason r.stopReason r.toolCalls = .stop

theorem StreamResult.providerResponse_eq_some {s : StreamResult} {r : ProviderResponse}
    (h : s.providerResponse = some r) : ∃ f, s.final = some f ∧ r = f.toProviderResponse (joinText s.textStream) := by
  obtain ⟨f, hf, hr⟩ := Option.map_eq_some_iff.mp h
  exact ⟨f, hf, hr.symm⟩

theorem Upstream.text_of_providerResponse {u : Upstream} {r : ProviderResponse}
    (h : u.providerResponse false = some r) : r.text = u.text := by
  cases u with
  | anthropic m => cases h; rfl
  | google c g => cases h; rfl
  | responses modelId g => cases h; rfl
  | chatCompletions g => cases h; rfl
  | anthropicStream s =>
    obtain ⟨f, -, rfl⟩ := StreamResult.providerResponse_eq_some h
    rfl
  | googleStream c s =>
    obtain ⟨f, -, rfl⟩ := StreamResult.providerResponse_eq_some h
    rfl
  | responsesStream s =>
    obtain ⟨f, -, rfl⟩ := StreamResult.providerResponse_eq_some h
    rfl
  | chatCompletionsStream s =>
    obtain ⟨f, -, rfl⟩ := StreamResult.providerResponse_eq_some h
    rfl

/-- The replies that count as finished answers when no tools were offered. -/
def Upstream.CountsAsFinished : Upstream → Prop
  | .anthropic _ | .google _ _ => True
  | .anthropicStream s => s.throws = false ∧ ∃ m, s.finalMessage = some m ∧ m.toolCalls = [] ∧
      m.stopReason ≠ some .maxTokens ∧ m.stopReason ≠ some .toolUse ∧ m.stopReason ≠ some .refusal
  | .googleStream _ s => s.throws = false ∧ ∀ r, s.chunks.getLast? = some r → r.toolCalls = []
  | .responses _ r => r.CountsAsFinished
  | .responsesStream s => s.throws = false ∧ (∀ e ∈ s.events, e.closesCall = false) ∧
      ∀ r, s.completed = some r → r.CountsAsFinished
  | .chatCompletions r => r.toolCalls = [] ∧ r.finishReason ≠ some .length ∧ r.finishReason ≠ some .toolCalls ∧
      r.finishReason ≠ some .contentFilter
  | .chatCompletionsStream s => s.throws = false ∧ ¬ s.HasToolCall ∧ s.lastFinishReason ≠ some .length ∧
      s.lastFinishReason ≠ some .toolCalls ∧ s.lastFinishReason ≠ some .contentFilter

/-- A stream that has ended counts as finished when its getters say so. -/
theorem StreamResult.finished_iff {s : StreamResult} {throws : Bool} {P : Prop} (hfinal : s.final.isSome = !throws)
    (hfinish : ∀ f, s.final = some f → (mapStopReasonToFinishReason f.stopReason f.toolCalls = .stop ↔ P)) :
    (∃ r, s.providerResponse = some r ∧ r.Finished) ↔ throws = false ∧ P := by
  constructor
  · intro h
    obtain ⟨r, hr, hfinished⟩ := h
    obtain ⟨f, hf, rfl⟩ := StreamResult.providerResponse_eq_some hr
    rw [hf] at hfinal
    exact ⟨by simpa using hfinal, (hfinish f hf).mp hfinished⟩
  · intro h
    rw [h.1] at hfinal
    obtain ⟨f, hf⟩ := Option.isSome_iff_exists.mp hfinal
    refine ⟨f.toProviderResponse (joinText s.textStream), ?_, (hfinish f hf).mpr h.2⟩
    rw [StreamResult.providerResponse, hf, Option.map_some]

theorem Upstream.finished_iff (u : Upstream) :
    (∃ r, u.providerResponse false = some r ∧ r.Finished) ↔ u.CountsAsFinished := by
  cases u with
  | anthropic m => exact iff_of_true ⟨_, rfl, Anthropic.complete_finish m⟩ trivial
  | google c g => exact iff_of_true ⟨_, rfl, Google.complete_finish c g⟩ trivial
  | responses modelId g =>
    simp only [Upstream.providerResponse, Option.some.injEq, exists_eq_left']
    exact Responses.complete_finish modelId g
  | chatCompletions g =>
    simp only [Upstream.providerResponse, Option.some.injEq, exists_eq_left']
    exact ChatCompletions.complete_finish
  | googleStream c s =>
    apply StreamResult.finished_iff
    · cases hthrows : s.throws <;> simp [Google.stream, hthrows]
    · exact fun f hf => Google.stream_finish hf
  | responsesStream s =>
    apply StreamResult.finished_iff
    · cases hthrows : s.throws <;> simp [Responses.stream, hthrows]
    · exact fun f hf => Responses.stream_finish hf
  | chatCompletionsStream s =>
    apply StreamResult.finished_iff
    · cases hthrows : s.throws <;> simp [ChatCompletions.stream, hthrows]
    · exact fun f hf => ChatCompletions.stream_finish hf
  -- The stop reason stands in the final message, which the SDK may fail to give.
  | anthropicStream s =>
    simp only [Upstream.providerResponse, Upstream.CountsAsFinished]
    cases hmessage : s.finalMessage with
    | none => simp [StreamResult.providerResponse, Anthropic.stream, hmessage]
    | some m =>
      simp only [Option.some.injEq, exists_eq_left']
      apply StreamResult.finished_iff
      · cases hthrows : s.throws <;> simp [Anthropic.stream, hthrows, hmessage]
      · intro f hf
        unfold Anthropic.stream at hf
        split at hf
        · cases hf
        · rw [hmessage] at hf
          obtain rfl := Option.some.inj hf
          exact Anthropic.parsed_finish

/-- `Slips` are the early ends that count as finished. -/
theorem Upstream.slips_iff (u : Upstream) : u.Slips ↔ u.EndedEarly ∧ u.CountsAsFinished := by
  cases u with
  -- A completion of Anthropic or Gemini brings no finish reason at all, so that each counts as finished.
  | anthropic m => exact (and_iff_left trivial).symm
  | google c g => exact (and_iff_left trivial).symm
  | responses modelId g => exact and_comm
  | chatCompletions g =>
    simp only [Upstream.Slips, Upstream.EndedEarly, Upstream.CountsAsFinished]
    cases g.finishReason with
    | none => simp [and_comm]
    | some reason => cases reason <;> simp [ChatCompletions.ChoiceFinishReason.early, and_comm]
  | anthropicStream s =>
    simp only [Upstream.Slips, Upstream.EndedEarly, Upstream.CountsAsFinished]
    cases s.throws with
    | true => simp
    | false =>
      cases s.finalMessage with
      | none => simp
      | some m =>
        cases hreason : m.stopReason with
        | none => simp [hreason]
        | some reason => cases reason <;> simp [hreason, Anthropic.MessageStopReason.early]
  | googleStream c s =>
    simp only [Upstream.Slips, Upstream.EndedEarly, Upstream.CountsAsFinished]
    cases s.throws <;> simp
  | responsesStream s =>
    simp only [Upstream.Slips, Upstream.EndedEarly, Upstream.CountsAsFinished]
    cases s.throws with
    | true => simp
    | false =>
      simp only [true_and, Bool.false_eq_true, false_or]
      rw [← and_assoc, and_comm]
  | chatCompletionsStream s =>
    simp only [Upstream.Slips, Upstream.EndedEarly, Upstream.CountsAsFinished]
    cases s.throws with
    | true => simp
    | false =>
      simp only [true_and, Bool.false_eq_true, false_or]
      constructor
      · intro h
        exact ⟨h.2.2.2.2, h.1, h.2.1, h.2.2.1, h.2.2.2.1⟩
      · intro h
        exact ⟨h.2.1, h.2.2.1, h.2.2.2.1, h.2.2.2.2, h.1⟩

/-- A call that may use the caches offers no tools. -/
theorem no_tools_of_cacheable {gateway : GatewayModels} {c : ExecuteInput} (h : c.cacheable gateway = true) :
    decide (c.request.toolDefinitions > 0) = false := by
  simp only [ExecuteInput.cacheable, isToolingRequest, Bool.and_eq_true, Bool.not_eq_true', Bool.or_eq_false_iff] at h
  exact h.1.2.1

theorem storeWrites_eq_nil (cfg : CacheConfig) (k : MissCall) (reply : CachedChatResponse) :
    storeWrites cfg k reply = [] ↔
      ¬ (k.exactAvailable = true ∨ (semanticIdentity cfg k.input).isSome = true ∧ k.vector.isSome = true) := by
  unfold storeWrites
  cases k.exactAvailable <;> cases semanticIdentity cfg k.input <;> cases k.vector <;> simp

theorem shouldStore_missResponse (c : ExecuteInput) (outcome : MissOutcome) (conversationId : String) :
    shouldStoreChatResponse (missResponse c outcome conversationId) = true ↔
      outcome.response.Finished ∧ JsString.trim outcome.response.text ≠ "" := by
  simp only [shouldStoreChatResponse, Bool.and_eq_true, decide_eq_true_eq, ne_eq, String.length_eq_zero_iff]
  constructor
  · intro h
    exact h.1
  · intro h
    -- an answer with tool calls is not finished
    have htools : outcome.response.toolCalls = [] := (mapStopReason_eq_stop.mp h.1).1
    exact ⟨h, List.isEmpty_iff.mpr htools⟩

theorem setCachedIfAllowed_eq_nil (cfg : CacheConfig) (k : MissCall) (response : ChatResponseData) :
    setCachedIfAllowed cfg k response = [] ↔ ¬ (k.MayWrite cfg ∧ shouldStoreChatResponse response = true) := by
  unfold setCachedIfAllowed MissCall.MayWrite
  cases hreply : replyToStore cfg k.input response k.didFallback k.cachedAt with
  | none =>
    -- one of the gates is closed
    unfold replyToStore at hreply
    split at hreply
    · cases hreply
    · next hgate =>
      simp only [Bool.and_eq_true, Bool.not_eq_true'] at hgate
      exact iff_of_true rfl fun h => hgate ⟨⟨h.1.1, h.1.2.1⟩, h.2⟩
  | some reply =>
    unfold replyToStore at hreply
    split at hreply
    · next hgate =>
      simp only [Bool.and_eq_true, Bool.not_eq_true'] at hgate
      simp [storeWrites_eq_nil, hgate]
    · cases hreply

/-- The call writes exactly when the reply counts as finished and has text, and it may. -/
theorem cacheWrites_eq_nil (cfg : CacheConfig) (k : MissCall) (u : Upstream) :
    cacheWrites cfg k u = [] ↔
      ¬ (k.MayWrite cfg ∧ u.CountsAsFinished ∧ JsString.trim u.text ≠ "") := by
  unfold cacheWrites
  by_cases hcacheable : k.input.cacheable cfg.gateway = true
  · rw [no_tools_of_cacheable hcacheable, ← Upstream.finished_iff]
    cases hresponse : u.providerResponse false with
    | none => simp
    | some response =>
      have htext : response.text = u.text := Upstream.text_of_providerResponse hresponse
      have hstore := shouldStore_missResponse k.input (k.outcome response) k.conversationId
      have hkept : (k.outcome response).response = response := rfl
      rw [hkept, htext] at hstore
      simp [setCachedIfAllowed_eq_nil, hstore]
  · -- no gate is passed, whatever the adapter gives
    have hmay : ¬ k.MayWrite cfg := fun h => hcacheable h.2.1
    cases u.providerResponse (k.input.request.toolDefinitions > 0) with
    | none => simp [hmay]
    | some response => simp [setCachedIfAllowed_eq_nil, hmay]

theorem unfinished_not_stored_iff (cfg : CacheConfig) (k : MissCall) (u : Upstream) :
    (u.EndedEarly → cacheWrites cfg k u = []) ↔
      ¬ (u.Slips ∧ JsString.trim u.text ≠ "" ∧ k.MayWrite cfg) := by
  rw [cacheWrites_eq_nil, Upstream.slips_iff]
  constructor
  · intro h hslips
    obtain ⟨⟨hearly, hfinished⟩, htext, hmay⟩ := hslips
    exact h hearly ⟨hmay, hfinished, htext⟩
  · intro h hearly hwrites
    obtain ⟨hmay, hfinished, htext⟩ := hwrites
    exact h ⟨⟨hearly, hfinished⟩, htext, hmay⟩

/-- A message that `max_tokens` has cut off, as the answer to a question without tools. -/
def cutOffMessage : Anthropic.Message where
  content := [.text "Once upon"]
  stopReason := some .maxTokens
  model := "claude"
  usage := ⟨zeroTokens, zeroTokens, none, none⟩

/-- `complete` drops its stop reason, and the cut off text is stored. -/
theorem truncated_message_stored :
    ¬ ∀ (cfg : CacheConfig) (k : MissCall) (u : Upstream), u.EndedEarly → cacheWrites cfg k u = [] := by
  intro h
  have hnothing := h ⟨plainIdentity, plainConfig, openGateway, [], false, "embed-3", 9 / 10, 3, 60⟩
    ⟨askInput "req_1", "conv_1", "anthropic-main", "chat-default", false, [], "gw_1", "", true, none⟩
    (.anthropic cutOffMessage) rfl
  refine (cacheWrites_eq_nil _ _ _).mp hnothing ⟨⟨rfl, by decide, .inl rfl⟩, trivial, ?_⟩
  show JsString.trim (joinText ["Once upon"]) ≠ ""
  decide

end AiGateway
