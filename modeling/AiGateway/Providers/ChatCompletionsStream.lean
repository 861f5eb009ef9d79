import AiGateway.Providers.ChatCompletions

/- A chat completion and the chunks that stream it: what `stream` makes of the chunks against
   what `complete` makes of the completion.

   `Encodes` says which chunks stream a completion: the content, the reasoning and the
   arguments of the calls are cut anywhere, the calls may alternate once they are opened, the
   finish reason is on the last chunk with a choice, and the usage on the last chunk, which has
   no choices if it is the one that `include_usage` asks for.

   `stream_agrees_iff`: the two agree if and only if there is no reasoning, which the stream
   does not read; no usage chunk hides a finish reason; and every call has an id, a name and
   arguments that are not "". `usage_chunk_hides_length` is a reply cut short that is
   streamed as complete. -/
namespace AiGateway.ChatCompletions

/-! ## Chunks that encode a completion -/

/-- A chunk as it is sent, with the `reasoning_content` of its delta. -/
structure SentChunk where
  chunk : Chunk
  reasoningContent : Option String

/-- A call as its deltas have put it together. -/
structure SentCall where
  id : String
  name : String
  arguments : String
  deriving DecidableEq

/-- The deltas that send some calls: a call is opened under the next index, with its id and
name, and any call that is open may get more arguments. -/
inductive SendsCalls : List SentCall → List ToolCallDelta → Prop where
  | none : SendsCalls [] []
  | opens {calls : List SentCall} {deltas : List ToolCallDelta} (id name : String) (arguments : Option String) :
      SendsCalls calls deltas →
      SendsCalls (calls ++ [⟨id, name, arguments.getD ""⟩]) (deltas ++ [⟨calls.length, some id, some name, arguments⟩])
  | goesOn {calls : List SentCall} {deltas : List ToolCallDelta} {index : ℕ} {call : SentCall} {id name : Option String}
      (arguments : Option String) : SendsCalls calls deltas → calls[index]? = some call →
      (id = none ∨ id = some call.id) → (name = none ∨ name = some call.name) →
      SendsCalls (calls.set index { call with arguments := call.arguments ++ arguments.getD "" })
        (deltas ++ [⟨index, id, name, arguments⟩])

/-- The call of a message that was sent; absent arguments are sent like empty ones. -/
def MessageToolCall.SentAs : MessageToolCall → SentCall → Prop
  | .function id name arguments, call => call = ⟨id, name, arguments.getD ""⟩
  | .custom, _ => False

def ChatCompletion.rawToolCalls (r : ChatCompletion) : List MessageToolCall := (r.message.bind Message.toolCalls).getD []

def ChatCompletion.reasoningText (r : ChatCompletion) : String :=
  match r.message.bind Message.reasoningContent with
  | some (.str reasoning) => reasoning
  | _ => ""

/-- One choice, with the given finish reason. -/
def Chunk.HasChoice (chunk : Chunk) (finishReason : Option ChoiceFinishReason) : Prop :=
  ∃ choice, chunk.choices = [choice] ∧ choice.finishReason = finishReason

structure Encodes (r : ChatCompletion) (sent : List SentChunk) : Prop where
  content : joinText (sent.map fun c => extractOpenAiStreamDeltaText c.chunk) = (r.message.bind Message.content).getD ""
  reasoning : joinText (sent.map fun c => c.reasoningContent.getD "") = r.reasoningText
  toolCalls : ∃ calls, SendsCalls calls (sent.flatMap fun c => c.chunk.deltas) ∧
    List.Forall₂ MessageToolCall.SentAs r.rawToolCalls calls
  choices : ∃ before last usageChunk, sent = before ++ last :: Option.toList usageChunk ∧
    (∀ c ∈ before, c.chunk.HasChoice none) ∧ last.chunk.HasChoice r.finishReason ∧
    ∀ c, usageChunk = some c → c.chunk.choices = []
  usage : ∀ c, sent.getLast? = some c → c.chunk.usage = r.usage
  systemFingerprint : ∀ c ∈ sent, c.chunk.systemFingerprint = r.systemFingerprint

/-- The stream of the chunks, up to its end. -/
def streamOf (sent : List SentChunk) : CompletionStream := ⟨sent.map SentChunk.chunk, false⟩

/-- The last chunk is the one for the usage. -/
def endsWithUsageChunk (sent : List SentChunk) : Bool :=
  sent.getLast?.any fun c => c.chunk.choices.isEmpty

/-- A finish reason that is told apart from `stop`. -/
def ChoiceFinishReason.special : ChoiceFinishReason → Bool
  | .length | .toolCalls | .contentFilter => true
  | .stop | .other _ => false

/-- The call comes out of a stream as it comes out of a completion. -/
def MessageToolCall.Streamable : MessageToolCall → Prop
  | .function id name arguments => id ≠ "" ∧ name ≠ "" ∧ arguments ≠ some ""
  | .custom => True

/-! ## The calls -/

def SentCall.accumulated (call : SentCall) : AccumulatedCall := ⟨some call.id, call.name, call.arguments⟩

/-- A delta of the next index opens an entry. -/
theorem accumulateDelta_new {accumulator : ToolCallAccumulator} {entries : List AccumulatedCall}
    (h : accumulator.Numbered entries) {delta : ToolCallDelta} (hindex : delta.index = entries.length) :
    (accumulateDelta accumulator delta).Numbered (entries ++ [delta.extend ⟨none, "", ""⟩]) := by
  have hnone : accumulator.get? delta.index = none := by
    rw [h.get?_eq, hindex]
    simp
  unfold accumulateDelta
  rw [hnone, Option.getD_none, hindex]
  exact h.set_end _

/-- Any other extends the entry that is there. -/
theorem accumulateDelta_there {accumulator : ToolCallAccumulator} {entries : List AccumulatedCall}
    (h : accumulator.Numbered entries) {delta : ToolCallDelta} {entry : AccumulatedCall}
    (hentry : entries[delta.index]? = some entry) :
    (accumulateDelta accumulator delta).Numbered (entries.set delta.index (delta.extend entry)) := by
  unfold accumulateDelta
  rw [h.get?_eq, hentry, Option.getD_some]
  exact h.set_lt (List.getElem?_eq_some_iff.mp hentry).1 _

/-- The accumulator holds the calls, in order. -/
theorem accumulated_of_sends {calls : List SentCall} {deltas : List ToolCallDelta} (h : SendsCalls calls deltas) :
    (deltas.foldl accumulateDelta .empty).Numbered (calls.map SentCall.accumulated) := by
  induction h with
  | none => exact JsMap.Numbered.empty
  | @opens calls deltas id name arguments _ ih =>
    have hnew := @accumulateDelta_new _ _ ih ⟨calls.length, some id, some name, arguments⟩ (by simp)
    rw [List.foldl_append, List.map_append]
    simpa [ToolCallDelta.extend, SentCall.accumulated] using hnew
  | @goesOn calls deltas index call id name arguments _ hcall hid hname ih =>
    have hentry : (calls.map SentCall.accumulated)[index]? = some call.accumulated := by
      rw [List.getElem?_map, hcall]
      rfl
    have hextend : (⟨index, id, name, arguments⟩ : ToolCallDelta).extend call.accumulated =
        SentCall.accumulated { call with arguments := call.arguments ++ arguments.getD "" } := by
      obtain rfl | rfl := hid <;> obtain rfl | rfl := hname <;> rfl
    have hthere := @accumulateDelta_there _ _ ih ⟨index, id, name, arguments⟩ _ hentry
    rw [List.foldl_append, List.map_set, ← hextend]
    exact hthere

theorem toolCall?_sentAs {raw : MessageToolCall} {call : SentCall} (h : raw.SentAs call) :
    call.accumulated.toolCall? = raw.toolCall? ↔ raw.Streamable := by
  cases raw with
  | custom => cases h
  | function id name arguments =>
    obtain rfl := h
    unfold MessageToolCall.Streamable
    simp only [AccumulatedCall.toolCall?, SentCall.accumulated, JsString.truthy_some, MessageToolCall.toolCall?]
    by_cases hid : id = ""
    · simp [hid]
    · by_cases hname : name = ""
      · simp [hid, hname]
      · cases arguments with
        | none => simp [hid, hname, orEmptyObject]
        | some text =>
          by_cases htext : text = ""
          · simp [hid, hname, htext, orEmptyObject]
          · simp [hid, hname, htext, orEmptyObject]

theorem toolCall?_of_sentAs {raw : MessageToolCall} {call : SentCall} (h : raw.SentAs call) :
    ∃ toolCall, raw.toolCall? = some toolCall := by
  cases raw with
  | custom => cases h
  | function id name arguments => exact ⟨_, rfl⟩

theorem mapOpenAiToolCalls_length {raw : List MessageToolCall} {calls : List SentCall}
    (h : List.Forall₂ MessageToolCall.SentAs raw calls) : (mapOpenAiToolCalls raw).length = calls.length := by
  induction h with
  | nil => rfl
  | @cons a call raw calls hcall _ ih =>
    obtain ⟨toolCall, htoolCall⟩ := toolCall?_of_sentAs hcall
    unfold mapOpenAiToolCalls at ih ⊢
    rw [List.filterMap_cons_some htoolCall, List.length_cons, List.length_cons, ih]

/-- The calls of a stream are those of the completion when each comes out alike. -/
theorem toolCalls_agree_iff {raw : List MessageToolCall} {calls : List SentCall}
    (h : List.Forall₂ MessageToolCall.SentAs raw calls) :
    (calls.map SentCall.accumulated).filterMap AccumulatedCall.toolCall? = mapOpenAiToolCalls raw ↔
      ∀ call ∈ raw, call.Streamable := by
  induction h with
  | nil => simp [mapOpenAiToolCalls]
  | @cons a call raw calls hcall hcalls ih =>
    obtain ⟨toolCall, htoolCall⟩ := toolCall?_of_sentAs hcall
    have hhead := toolCall?_sentAs hcall
    rw [htoolCall] at hhead
    rw [List.forall_mem_cons, ← ih, ← hhead, List.map_cons, mapOpenAiToolCalls, List.filterMap_cons_some htoolCall,
      ← mapOpenAiToolCalls]
    cases hacc : call.accumulated.toolCall? with
    | none =>
      -- a call that is left out makes the list too short
      have hshort := List.length_filterMap_le AccumulatedCall.toolCall? (calls.map SentCall.accumulated)
      rw [List.length_map, ← mapOpenAiToolCalls_length hcalls] at hshort
      rw [List.filterMap_cons_none hacc]
      constructor
      · intro hlist
        rw [hlist, List.length_cons] at hshort
        omega
      · rintro ⟨hnone, -⟩
        cases hnone
    | some given => rw [List.filterMap_cons_some hacc, List.cons.injEq, Option.some_inj]

/-! ## The chunks -/

theorem stream_text {r : ChatCompletion} {sent : List SentChunk} (h : Encodes r sent) :
    joinText (stream (streamOf sent)).textStream = (parseOpenAiCompletionWithTools r).text := by
  have hjoin := joinText_truthy (sent.map fun c => extractOpenAiStreamDeltaText c.chunk)
  rw [h.content, List.filterMap_map] at hjoin
  show joinText ((sent.map SentChunk.chunk).filterMap _) = _
  rw [List.filterMap_map]
  exact hjoin

/-- The last chunk has the finish reason, unless it is the one for the usage. -/
theorem lastFinishReason_of_encodes {r : ChatCompletion} {sent : List SentChunk} (h : Encodes r sent) :
    (streamOf sent).lastFinishReason = if endsWithUsageChunk sent then none else r.finishReason := by
  obtain ⟨before, last, usageChunk, hsent, -, hlast, husage⟩ := h.choices
  obtain ⟨choice, hchoice, hfinish⟩ := hlast
  unfold CompletionStream.lastFinishReason streamOf endsWithUsageChunk
  simp only [List.getLast?_map]
  cases usageChunk with
  | none =>
    have hgetLast : sent.getLast? = some last := by simp [hsent]
    simp [hgetLast, hchoice, hfinish]
  | some c =>
    have hgetLast : sent.getLast? = some c := by simp [hsent]
    simp [hgetLast, husage c rfl]

theorem stopReason_agree_iff {r : ChatCompletion} {sent : List SentChunk} (h : Encodes r sent) :
    (streamOf sent).getStopReason = mapOpenAiFinishReason r.finishReason ↔
      (endsWithUsageChunk sent = true → ∀ reason, r.finishReason = some reason → reason.special = false) := by
  unfold CompletionStream.getStopReason
  rw [lastFinishReason_of_encodes h]
  by_cases husage : endsWithUsageChunk sent = true
  · cases hreason : r.finishReason with
    | none => simp [husage, mapOpenAiFinishReason]
    | some reason => cases reason <;> simp [husage, mapOpenAiFinishReason, ChoiceFinishReason.special]
  · cases hreason : r.finishReason with
    | none => simp [husage, mapOpenAiFinishReason]
    | some reason => cases reason <;> simp [husage, mapOpenAiFinishReason]

theorem stream_toolCalls {r : ChatCompletion} {sent : List SentChunk} (h : Encodes r sent) :
    (streamOf sent).toolCalls = r.toolCalls ↔ ∀ call ∈ r.rawToolCalls, call.Streamable := by
  obtain ⟨calls, hsends, hcalls⟩ := h.toolCalls
  have hdeltas : (streamOf sent).chunks.flatMap Chunk.deltas = sent.flatMap fun c => c.chunk.deltas := by
    rw [streamOf, List.flatMap_map]
  rw [← toolCalls_agree_iff hcalls]
  unfold CompletionStream.toolCalls finalizeOpenAiStreamToolCalls
  rw [foldl_chunks, hdeltas, (accumulated_of_sends hsends).values_eq]
  rfl

/-- Usage and fingerprint are read off the last chunk. -/
theorem last_of_encodes {r : ChatCompletion} {sent : List SentChunk} (h : Encodes r sent) :
    (streamOf sent).chunks.getLast?.bind Chunk.usage = r.usage ∧
      (streamOf sent).chunks.getLast?.bind Chunk.systemFingerprint = r.systemFingerprint := by
  obtain ⟨before, last, usageChunk, hsent, -⟩ := h.choices
  obtain ⟨c, hc⟩ : ∃ c, sent.getLast? = some c := by
    rw [← Option.ne_none_iff_exists', ne_eq, List.getLast?_eq_none_iff, hsent]
    simp
  have hchunk : (streamOf sent).chunks.getLast? = some c.chunk := by
    rw [streamOf, List.getLast?_map, hc]
    rfl
  rw [hchunk]
  exact ⟨h.usage c hc, h.systemFingerprint c (List.mem_of_getLast? hc)⟩

/-! ## Stream and completion -/

theorem stream_agrees_iff (r : ChatCompletion) (sent : List SentChunk) (h : Encodes r sent) :
    (stream (streamOf sent)).Agrees (parseOpenAiCompletionWithTools r) ↔
      JsString.trim r.reasoningText = "" ∧
      (endsWithUsageChunk sent = true → ∀ reason, r.finishReason = some reason → reason.special = false) ∧
      ∀ call ∈ r.rawToolCalls, call.Streamable := by
  -- A stream never has reasoning content, so that the completion must have none either.
  have hthinking : none = readOpenAiReasoningContent r.message ↔ JsString.trim r.reasoningText = "" := by
    unfold readOpenAiReasoningContent ChatCompletion.reasoningText
    generalize r.message.bind Message.reasoningContent = content
    split
    · next reasoning =>
      by_cases htrim : JsString.trim reasoning = "" <;> simp [htrim]
    · simp [JsString.trim]
  obtain ⟨husage, hfingerprint⟩ := last_of_encodes h
  rw [← hthinking, ← stopReason_agree_iff h, ← stream_toolCalls h]
  constructor
  · rintro ⟨-, final, hfinal, htoolCalls, hstopReason, -, -, -, hnone⟩
    cases hfinal
    exact ⟨hnone, Option.some.inj hstopReason, htoolCalls⟩
  · rintro ⟨hnone, hstopReason, htoolCalls⟩
    refine ⟨stream_text h, _, rfl, htoolCalls, congrArg some hstopReason, ?_, rfl, ?_, hnone⟩
    · show ((streamOf sent).chunks.getLast?.bind Chunk.usage).map Usage.providerUsage = _
      rw [husage]
      rfl
    · show JsString.truthy ((streamOf sent).chunks.getLast?.bind Chunk.systemFingerprint) = _
      rw [hfingerprint]
      rfl

/-! ## A reply that is cut short -/

/-- "hi", with a finish reason. -/
def hiCompletion (finishReason : ChoiceFinishReason) : ChatCompletion where
  choices := [⟨some ⟨some "hi", none, none, none⟩, some finishReason⟩]
  model := "local"
  usage := some ⟨some zeroTokens, some zeroTokens⟩
  systemFingerprint := none

/-- Its content, its end, and the chunk for the usage. -/
def hiChunks (finishReason : ChoiceFinishReason) : List SentChunk :=
  [⟨⟨[⟨some "h", none, none, none⟩], none, some "local", none⟩, none⟩,
    ⟨⟨[⟨some "i", none, none, some finishReason⟩], none, some "local", none⟩, none⟩,
    ⟨⟨[], some ⟨some zeroTokens, some zeroTokens⟩, some "local", none⟩, none⟩]

theorem hiChunks_encode (finishReason : ChoiceFinishReason) : Encodes (hiCompletion finishReason) (hiChunks finishReason) where
  content := rfl
  reasoning := rfl
  toolCalls := ⟨[], .none, .nil⟩
  choices := by
    refine ⟨[_], _, some _, rfl, ?_, ⟨_, rfl, rfl⟩, ?_⟩
    · intro c hc
      obtain rfl := List.mem_singleton.mp hc
      exact ⟨_, rfl, rfl⟩
    · rintro c ⟨⟩
      rfl
  usage := by
    rintro c ⟨⟩
    rfl
  systemFingerprint := by
    intro c hc
    simp only [hiChunks, List.mem_cons, List.not_mem_nil, or_false] at hc
    obtain rfl | rfl | rfl := hc <;> rfl

theorem hi_stop_agrees_iff :
    (stream (streamOf (hiChunks .stop))).Agrees (parseOpenAiCompletionWithTools (hiCompletion .stop)) ↔
      JsString.trim (hiCompletion .stop).reasoningText = "" ∧
      (endsWithUsageChunk (hiChunks .stop) = true →
        ∀ reason, (hiCompletion .stop).finishReason = some reason → reason.special = false) ∧
      ∀ call ∈ (hiCompletion .stop).rawToolCalls, call.Streamable :=
  stream_agrees_iff (hiCompletion .stop) (hiChunks .stop) (hiChunks_encode .stop)

theorem usage_chunk_hides_length :
    ¬ ∀ (r : ChatCompletion) (sent : List SentChunk), Encodes r sent →
      (stream (streamOf sent)).Agrees (parseOpenAiCompletionWithTools r) := by
  intro hclaim
  obtain ⟨-, final, hfinal, -, hstopReason, -⟩ := hclaim _ _ (hiChunks_encode .length)
  cases hfinal
  cases hstopReason

end AiGateway.ChatCompletions
