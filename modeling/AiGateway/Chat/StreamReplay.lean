import AiGateway.Chat.StreamMiss

/- `StreamCacheReplayService.replay`: a cached reply as the event stream of a live one. The
   text is cut into slices of 64 UTF-16 units, so that a slice may end inside a surrogate pair;
   before each event the caller is asked whether the client is gone.

   * `replay_equals_live`: a stored stream is read back and replayed as one `meta`, slices that
     make up the live text, and the `done` of the live stream.
   * `unsafe_counts_not_replayed`: a token count from 2^53 on is stored, but no read accepts it.
   * `replay_cut_short`: a replay that is given up is a prefix of the whole one. -/
namespace AiGateway

/-- `STREAM_CACHE_REPLAY_CHUNK_SIZE`. -/
def streamCacheReplayChunkSize : ℕ := 64

/-- The `meta` of a hit; `cached` is `true`. -/
structure ReplayMeta extends SseMeta where
  cachedAt : String
  cacheSource : ChatCacheSource
  deriving DecidableEq

/-- A `delta` is its UTF-16 units. -/
inductive ReplayEvent where
  | metaEvent (data : ReplayMeta)
  | delta (units : List ℕ)
  | done (data : SseDone)
  deriving DecidableEq

/-- `shouldAbort n` is the answer to the call number `n`. -/
structure StreamCacheReplayInput where
  cached : CachedChatResponse
  cacheSource : ChatCacheSource
  requestId : String
  conversationId : String
  shouldAbort : ℕ → Bool

namespace StreamCacheReplayInput

def metaData (input : StreamCacheReplayInput) : ReplayMeta where
  id := input.cached.id
  provider := input.cached.provider
  model := input.cached.model
  effectiveModelAlias := JsString.truthy input.cached.effectiveModelAlias
  requestId := input.requestId
  conversationId := input.conversationId
  cachedAt := input.cached.cachedAt
  cacheSource := input.cacheSource

def doneData (input : StreamCacheReplayInput) : SseDone where
  usage := input.cached.usage
  totalTokens := input.cached.usage.map fun u => u.inputTokens.value + u.outputTokens.value
  toolCalls := []
  finishReason := input.cached.finishReason
  systemFingerprint := JsString.truthy input.cached.systemFingerprint
  thinkingContent := JsString.truthy input.cached.thinkingContent
  usageDetails := input.cached.usageDetails
  effectiveModelAlias := JsString.truthy input.cached.effectiveModelAlias
  warnings := input.cached.warnings.getD []

end StreamCacheReplayInput

/-- The loop over the text from unit `i` on, and the `done` after it. -/
def replayFrom (input : StreamCacheReplayInput) (text : List ℕ) (poll i : ℕ) : List ReplayEvent :=
  if i < text.length then
    if input.shouldAbort poll then []
    else
      -- `text.slice(i, i + STREAM_CACHE_REPLAY_CHUNK_SIZE)`
      .delta ((text.drop i).take streamCacheReplayChunkSize) ::
        replayFrom input text (poll + 1) (i + streamCacheReplayChunkSize)
  else if input.shouldAbort poll then [] else [.done input.doneData]
termination_by text.length - i
decreasing_by simp only [streamCacheReplayChunkSize]; omega

def replay (input : StreamCacheReplayInput) : List ReplayEvent :=
  if input.shouldAbort 0 then []
  else .metaEvent input.metaData :: replayFrom input (JsString.units input.cached.text) 1 0

/-! ## The events of a replay -/

section Loop
variable {input : StreamCacheReplayInput} {text : List ℕ} {poll i : ℕ}

theorem replayFrom_slice (hi : i < text.length) (habort : input.shouldAbort poll = false) :
    replayFrom input text poll i = .delta ((text.drop i).take streamCacheReplayChunkSize) ::
      replayFrom input text (poll + 1) (i + streamCacheReplayChunkSize) := by
  rw [replayFrom, if_pos hi, habort]
  rfl

theorem replayFrom_end (hi : ¬ i < text.length) (habort : input.shouldAbort poll = false) :
    replayFrom input text poll i = [.done input.doneData] := by
  rw [replayFrom, if_neg hi, habort]
  rfl

end Loop

/-- Without an abort the slices make up the rest of the text. -/
theorem replayFrom_complete {input : StreamCacheReplayInput} (habort : ∀ n, input.shouldAbort n = false)
    (text : List ℕ) (poll i : ℕ) :
    ∃ slices : List (List ℕ), replayFrom input text poll i =
        slices.map .delta ++ [.done input.doneData] ∧ slices.flatten = text.drop i := by
  induction poll, i using replayFrom.induct input text with
  | case1 poll i hi hab =>
    rw [habort] at hab
    cases hab
  | case2 poll i hi _ ih =>
    obtain ⟨slices, hevents, htext⟩ := ih
    refine ⟨(text.drop i).take streamCacheReplayChunkSize :: slices, ?_, ?_⟩
    · rw [replayFrom_slice hi (habort poll), hevents]
      rfl
    · calc
        ((text.drop i).take streamCacheReplayChunkSize :: slices).flatten
            = (text.drop i).take streamCacheReplayChunkSize ++ text.drop (i + streamCacheReplayChunkSize) := by
          rw [List.flatten_cons, htext]
        _ = (text.drop i).take streamCacheReplayChunkSize ++
              (text.drop i).drop streamCacheReplayChunkSize := by
          rw [List.drop_drop]
        _ = text.drop i := List.take_append_drop _ _
  | case3 poll i hi hab =>
    rw [habort] at hab
    cases hab
  | case4 poll i hi _ =>
    refine ⟨[], ?_, ?_⟩
    · rw [replayFrom_end hi (habort poll)]
      rfl
    · rw [List.drop_eq_nil_of_le (by omega)]
      rfl

/-- The replay of the same reply to a client that stays. -/
def StreamCacheReplayInput.attended (input : StreamCacheReplayInput) : StreamCacheReplayInput :=
  { input with shouldAbort := fun _ => false }

theorem replayFrom_cut_short (input : StreamCacheReplayInput) (text : List ℕ) (poll i : ℕ) :
    replayFrom input text poll i <+: replayFrom input.attended text poll i := by
  induction poll, i using replayFrom.induct input text with
  | case1 poll i hi hab =>
    rw [replayFrom, if_pos hi, if_pos hab]
    exact List.nil_prefix
  | case2 poll i hi hab ih =>
    rw [replayFrom_slice hi (by simpa using hab), replayFrom_slice hi rfl]
    exact List.prefix_cons_inj _ |>.mpr ih
  | case3 poll i hi hab =>
    rw [replayFrom, if_neg hi, if_pos hab]
    exact List.nil_prefix
  | case4 poll i hi hab =>
    rw [replayFrom_end hi (by simpa using hab), replayFrom_end hi rfl]
    exact List.prefix_rfl

theorem replay_cut_short (input : StreamCacheReplayInput) : replay input <+: replay input.attended := by
  unfold replay
  rw [if_neg (show ¬ input.attended.shouldAbort 0 = true from Bool.false_ne_true)]
  split
  · exact List.nil_prefix
  · exact List.prefix_cons_inj _ |>.mpr (replayFrom_cut_short input _ 1 0)

/-! ## Replay and live stream -/

/-- The token counts are integers that are not negative. -/
def isNatural (n : Json.Number) : Bool := n.value.den = 1 ∧ 0 ≤ n.value.num

/-- Every token count of the result meets the condition. -/
def StreamFinal.countsAll (f : StreamFinal) (ok : Json.Number → Bool) : Bool :=
  (f.usage.all fun u => ok u.inputTokens && ok u.outputTokens) &&
    f.usageDetails.all fun d => d.promptCacheHitTokens.all ok && d.promptCacheCreationTokens.all ok

section Replay
variable (i : StreamInput) (text : String) (f : StreamFinal) (cachedAt : String)

/-- What a stream that was answered by the primary alias leaves in the caches. -/
def cachedStream : CachedChatResponse := toCachedChatResponse (storedResponse i .primary text f) cachedAt

theorem counts_cachedStream (h : f.countsAll isCount = true) : (cachedStream i text f cachedAt).counts = true := by
  cases f with
  | mk usage toolCalls stopReason systemFingerprint thinkingContent usageDetails =>
    cases usage <;> exact h

theorem readCachedReply_stream (hstore : shouldStoreChatResponse (storedResponse i .primary text f) = true)
    (hcounts : f.countsAll isCount = true) :
    readCachedReply (writeCachedReply (cachedStream i text f cachedAt)) = some (cachedStream i text f cachedAt) := by
  rw [readCachedReply_write, counts_cachedStream i text f cachedAt hcounts]
  have hserve := shouldStore_servable cachedAt hstore
  rw [← cachedStream] at hserve
  rw [hserve]
  rfl

/-- The `done` of a replay is the `done` of the stream that was stored. -/
theorem doneData_cachedStream {source : ChatCacheSource} {requestId conversationId : String}
    {shouldAbort : ℕ → Bool} (htools : f.toolCalls = []) :
    StreamCacheReplayInput.doneData
        ⟨cachedStream i text f cachedAt, source, requestId, conversationId, shouldAbort⟩ =
      buildStreamDoneEvent f (i.warnings .primary) (i.effectiveAlias .primary) := by
  have husage : (cachedStream i text f cachedAt).usage = f.usage := by
    show (f.usage.map _).map _ = f.usage
    rw [Option.map_map]
    exact Option.map_id'
  have hwarnings : (cachedStream i text f cachedAt).warnings.getD [] = i.warnings .primary := by
    show (if (i.warnings .primary).isEmpty then none else some (i.warnings .primary)).getD [] = _
    split
    · next h => rw [List.isEmpty_iff.mp h]; rfl
    · rfl
  have hfingerprint : JsString.truthy (cachedStream i text f cachedAt).systemFingerprint =
      JsString.truthy f.systemFingerprint := by
    show JsString.truthy (JsString.truthy (JsString.truthy f.systemFingerprint)) = _
    rw [JsString.truthy_truthy, JsString.truthy_truthy]
  have hthinking : JsString.truthy (cachedStream i text f cachedAt).thinkingContent =
      JsString.truthy f.thinkingContent := by
    show JsString.truthy (JsString.truthy (JsString.truthy f.thinkingContent)) = _
    rw [JsString.truthy_truthy, JsString.truthy_truthy]
  have hfinish : (cachedStream i text f cachedAt).finishReason = mapStopReasonToFinishReason f.stopReason [] := by
    show mapStopReasonToFinishReason f.stopReason f.toolCalls = _
    rw [htools]
  unfold StreamCacheReplayInput.doneData buildStreamDoneEvent
  simp only [husage, hwarnings, hfingerprint, hthinking, hfinish, htools]
  rfl

end Replay

/-- A stream that the gateway stores is read back from either cache, and its replay to a client
that stays is the live stream again, up to the slices of its text. -/
theorem replay_equals_live (i : StreamInput) (text : String) (f : StreamFinal) (cachedAt : String)
    (source : ChatCacheSource) (requestId conversationId : String)
    (hstore : shouldStoreChatResponse (storedResponse i .primary text f) = true)
    (hcounts : f.countsAll isCount = true) :
    ∃ cached, readCachedReply (writeCachedReply (cachedStream i text f cachedAt)) = some cached ∧
      ∃ (m : ReplayMeta) (slices : List (List ℕ)),
        replay ⟨cached, source, requestId, conversationId, fun _ => false⟩ =
          .metaEvent m :: slices.map .delta ++
            [.done (buildStreamDoneEvent f (i.warnings .primary) (i.effectiveAlias .primary))] ∧
        m.toSseMeta = { i.metaData .primary with requestId := requestId, conversationId := conversationId } ∧
        ∀ t : String, JsString.units t = slices.flatten ↔ t = text := by
  -- A reply with calls is not stored, so that the done event loses none.
  have htools : f.toolCalls = [] := by
    simp only [shouldStoreChatResponse, Bool.and_eq_true] at hstore
    exact List.isEmpty_iff.mp hstore.2
  refine ⟨_, readCachedReply_stream i text f cachedAt hstore hcounts, ?_⟩
  obtain ⟨slices, hevents, htext⟩ := @replayFrom_complete
    ⟨cachedStream i text f cachedAt, source, requestId, conversationId, fun _ => false⟩
    (fun _ => rfl) (JsString.units text) 1 0
  rw [doneData_cachedStream i text f cachedAt htools] at hevents
  refine ⟨_, slices, congrArg (List.cons _) hevents, ?_, ?_⟩
  · show SseMeta.mk _ _ _ _ _ _ = SseMeta.mk _ _ _ _ _ _
    simp only [StreamInput.metaData, ExecutionOptions.legAlias, if_true]
    rfl
  · intro t
    rw [htext, List.drop_zero]
    exact ⟨JsString.units_injective, fun h => by rw [h]⟩

def parisFinal : StreamFinal where
  usage := some ⟨⟨"12".toList, by decide⟩, ⟨"3".toList, by decide⟩⟩
  toolCalls := []
  stopReason := some .endTurn
  systemFingerprint := some ""
  thinkingContent := none
  usageDetails := some ⟨none, none⟩

theorem replay_equals_live_paris :
    ∃ cached, readCachedReply (writeCachedReply
        (cachedStream plainStream "Paris" parisFinal "2025-01-01T00:00:00.000Z")) = some cached ∧
      ∃ (m : ReplayMeta) (slices : List (List ℕ)),
        replay ⟨cached, .exact, "req_2", "conv_2", fun _ => false⟩ =
          .metaEvent m :: slices.map .delta ++ [.done (buildStreamDoneEvent parisFinal [] none)] ∧
        m.toSseMeta = ⟨"gw_1", "openai-main", "chat-default", none, "req_2", "conv_2"⟩ ∧
        ∀ t : String, JsString.units t = slices.flatten ↔ t = "Paris" :=
  replay_equals_live plainStream "Paris" parisFinal "2025-01-01T00:00:00.000Z" .exact "req_2" "conv_2"
    (by decide) (by decide +kernel)

/-- `int()` takes safe integers only: a count of 2^53 is stored, and every read of it fails. -/
theorem unsafe_counts_not_replayed :
    ¬ ∀ (i : StreamInput) (text : String) (f : StreamFinal) (cachedAt : String),
      shouldStoreChatResponse (storedResponse i .primary text f) = true → f.countsAll isNatural = true →
        ∃ cached, readCachedReply (writeCachedReply (cachedStream i text f cachedAt)) = some cached := by
  intro h
  let f : StreamFinal :=
    { parisFinal with usage := some ⟨⟨"9007199254740992".toList, by decide⟩, ⟨"3".toList, by decide⟩⟩ }
  obtain ⟨cached, hread⟩ := h plainStream "Paris" f "" (by decide) (by decide +kernel)
  have hcounts : (cachedStream plainStream "Paris" f "").counts = false := by decide +kernel
  rw [readCachedReply_write, hcounts] at hread
  cases hread

end AiGateway
