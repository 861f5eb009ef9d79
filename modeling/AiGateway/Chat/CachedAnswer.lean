import AiGateway.Chat.StreamReplay
import AiGateway.Lib.Double

/- The JSON answer of `POST /api/v1/chat`, live (`toChatResponseDto`) and from a cache
   (`toChatResponseDtoFromCache`). The caches keep the two token counts of the usage, a missing
   one as 0, and a hit adds their sum as `totalTokens`; a live answer passes the usage on as the
   provider gave it, and the adapters give no `totalTokens`. `hit_equals_live_iff` says when a
   response comes back from the caches as it went out. -/
namespace AiGateway.JsonChat

open JsString (truthy)

/-- `ChatUsageDto`. -/
structure ChatUsageDto where
  inputTokens : Option Json.Number
  outputTokens : Option Json.Number
  totalTokens : Option ℚ
  deriving DecidableEq

/-- The fields that a hit has and a live answer has not. -/
structure HitMark where
  cachedAt : String
  cacheSource : ChatCacheSource
  deriving DecidableEq

/-- `ChatResponseDto`; `cached` is given exactly with `cachedAt` and `cacheSource`. -/
structure ChatResponseDto where
  id : String
  provider : String
  model : String
  effectiveModelAlias : Option String
  toolCalls : List GatewayToolCall
  finishReason : Option FinishReason
  text : String
  usage : Option ChatUsageDto
  requestId : String
  conversationId : String
  usageDetails : Option ProviderUsageDetails
  systemFingerprint : Option String
  thinkingContent : Option String
  warnings : List CachedChatWarning
  hit : Option HitMark
  deriving DecidableEq

/-- `ChatResponseData`, with the `totalTokens` that its usage may have. -/
structure LiveResponse where
  data : ChatResponseData
  totalTokens : Option ℚ
  deriving DecidableEq

def toGatewayToolCallDto (call : GatewayToolCall) : GatewayToolCall := ⟨call.id, call.name, call.arguments⟩

def toChatResponseDto (r : LiveResponse) : ChatResponseDto where
  id := r.data.id
  provider := r.data.provider
  model := r.data.model
  effectiveModelAlias := truthy r.data.effectiveModelAlias
  toolCalls := r.data.toolCalls.map toGatewayToolCallDto
  finishReason := some r.data.finishReason
  text := r.data.text
  usage := r.data.usage.map fun u => ⟨u.inputTokens, u.outputTokens, r.totalTokens⟩
  requestId := r.data.requestId
  conversationId := r.data.conversationId
  usageDetails := r.data.usageDetails
  systemFingerprint := truthy r.data.systemFingerprint
  thinkingContent := truthy r.data.thinkingContent
  warnings := r.data.warnings
  hit := none

/-- `inputTokens + outputTokens`, a sum of doubles. -/
def totalOf (inputTokens outputTokens : Json.Number) : ℚ := Double.toDouble (inputTokens.value + outputTokens.value)

def CachedUsage.withTotal (u : CachedUsage) : ChatUsageDto :=
  ⟨some u.inputTokens, some u.outputTokens, some (totalOf u.inputTokens u.outputTokens)⟩

/-- What belongs to the request that hits, not to the reply that was stored. -/
structure HitOptions where
  requestId : String
  conversationId : String
  cacheSource : ChatCacheSource

def toChatResponseDtoFromCache (data : CachedChatResponse) (options : HitOptions) : ChatResponseDto where
  id := data.id
  provider := data.provider
  model := data.model
  effectiveModelAlias := truthy data.effectiveModelAlias
  toolCalls := []
  finishReason := some data.finishReason
  text := data.text
  usage := data.usage.map CachedUsage.withTotal
  requestId := options.requestId
  conversationId := options.conversationId
  usageDetails := data.usageDetails
  systemFingerprint := truthy data.systemFingerprint
  thinkingContent := truthy data.thinkingContent
  warnings := data.warnings.getD []
  hit := some ⟨data.cachedAt, options.cacheSource⟩

/-- The two answers are equal in every field but `cached`, `cachedAt`, `cacheSource`, `requestId`
and `conversationId`. -/
def ChatResponseDto.SameAnswer (a b : ChatResponseDto) : Prop :=
  { a with requestId := b.requestId, conversationId := b.conversationId, hit := b.hit } = b

instance (a b : ChatResponseDto) : Decidable (a.SameAnswer b) := inferInstanceAs (Decidable (_ = b))

/-- Stored at `cachedAt` and looked up later, the response is read back, and answers as it did
when it was live. -/
def HitEqualsLive (r : LiveResponse) (cachedAt : String) (options : HitOptions) : Prop :=
  ∃ cached, readCachedReply (writeCachedReply (toCachedChatResponse r.data cachedAt)) = some cached ∧
    (toChatResponseDtoFromCache cached options).SameAnswer (toChatResponseDto r)

/-- The usage has both counts, as integers that a double holds exactly, and their sum. -/
def UsageComplete (u : ChatUsage) (totalTokens : Option ℚ) : Prop :=
  ∃ inputTokens outputTokens, u = ⟨some inputTokens, some outputTokens⟩ ∧ isCount inputTokens = true ∧
    isCount outputTokens = true ∧ totalTokens = some (totalOf inputTokens outputTokens)

section Hit
variable {r : LiveResponse} {cachedAt : String} {options : HitOptions}

/-- All but the usage comes back as it was. -/
theorem sameAnswer_iff (htools : r.data.toolCalls = []) :
    (toChatResponseDtoFromCache (toCachedChatResponse r.data cachedAt) options).SameAnswer (toChatResponseDto r) ↔
      (toCachedChatResponse r.data cachedAt).usage.map CachedUsage.withTotal = (toChatResponseDto r).usage := by
  have hwarnings : (if r.data.warnings.isEmpty then none else some r.data.warnings).getD [] = r.data.warnings := by
    split
    · next h =>
      rw [List.isEmpty_iff.mp h]
      rfl
    · rfl
  unfold ChatResponseDto.SameAnswer toChatResponseDtoFromCache toChatResponseDto
  simp only [toCachedChatResponse, htools, hwarnings, List.map_nil, JsString.truthy_truthy]
  exact ⟨fun h => (ChatResponseDto.mk.inj h).2.2.2.2.2.2.2.1, fun h => by rw [h]⟩

/-- The usage comes back as it was when nothing was missing in it. -/
theorem usage_kept_iff :
    ((toCachedChatResponse r.data cachedAt).usage.all CachedUsage.counts = true ∧
      (toCachedChatResponse r.data cachedAt).usage.map CachedUsage.withTotal = (toChatResponseDto r).usage) ↔
      ∀ u, r.data.usage = some u → UsageComplete u r.totalTokens := by
  simp only [toCachedChatResponse, toChatResponseDto]
  cases husage : r.data.usage with
  | none => simp
  | some u =>
    obtain ⟨inputTokens, outputTokens⟩ := u
    simp only [Option.map_some, Option.all_some, Option.some.injEq, forall_eq', CachedUsage.counts, Bool.and_eq_true,
      CachedUsage.withTotal, ChatUsageDto.mk.injEq]
    constructor
    · rintro ⟨⟨hi, ho⟩, hinput, houtput, htotal⟩
      refine ⟨_, _, ?_, hi, ho, htotal.symm⟩
      rw [hinput, houtput]
    · rintro ⟨i, o, hu, hi, ho, htotal⟩
      obtain ⟨rfl, rfl⟩ := ChatUsage.mk.inj hu
      exact ⟨⟨hi, ho⟩, rfl, rfl, htotal.symm⟩

end Hit

/-- A response that is stored comes back from the caches as it was live exactly when it has no
usage, or one with both counts and their sum, and all its counts are safe integers. -/
theorem hit_equals_live_iff (r : LiveResponse) (cachedAt : String) (options : HitOptions)
    (hstore : shouldStoreChatResponse r.data = true) :
    HitEqualsLive r cachedAt options ↔
      (∀ u, r.data.usage = some u → UsageComplete u r.totalTokens) ∧
        r.data.usageDetails.all ProviderUsageDetails.counts = true := by
  have hserve := shouldStore_servable cachedAt hstore
  have htools : r.data.toolCalls = [] := by
    simp only [shouldStoreChatResponse, Bool.and_eq_true] at hstore
    exact List.isEmpty_iff.mp hstore.2
  have hread : HitEqualsLive r cachedAt options ↔
      (toCachedChatResponse r.data cachedAt).counts = true ∧
        (toChatResponseDtoFromCache (toCachedChatResponse r.data cachedAt) options).SameAnswer (toChatResponseDto r) := by
    unfold HitEqualsLive
    rw [readCachedReply_write, hserve]
    cases (toCachedChatResponse r.data cachedAt).counts <;> simp
  rw [hread, sameAnswer_iff htools, ← @usage_kept_iff r cachedAt, CachedChatResponse.counts, Bool.and_eq_true]
  show (_ ∧ r.data.usageDetails.all ProviderUsageDetails.counts = true) ∧ _ ↔ _
  rw [and_right_comm]

def parisResponse (usage : Option ChatUsage) : LiveResponse where
  data :=
    { id := "gw_1", provider := "openai-main", model := "chat-default", effectiveModelAlias := none, text := "Paris",
      usage := usage, requestId := "req_1", conversationId := "conv_1", toolCalls := [], finishReason := .stop,
      usageDetails := some ⟨none, none⟩, systemFingerprint := some "", thinkingContent := none, warnings := [] }
  totalTokens := none

def nextRequest : HitOptions := ⟨"req_2", "conv_2", .exact⟩

theorem hit_equals_live_iff_paris :
    HitEqualsLive (parisResponse none) "2025-01-01T00:00:00.000Z" nextRequest ↔
      (∀ u, (parisResponse none).data.usage = some u → UsageComplete u none) ∧
        (parisResponse none).data.usageDetails.all ProviderUsageDetails.counts = true :=
  hit_equals_live_iff (parisResponse none) "2025-01-01T00:00:00.000Z" nextRequest (by decide)

/-- The usage of an adapter, which has no sum: the hit has one. -/
theorem total_only_on_hit :
    ¬ ∀ (r : LiveResponse) (cachedAt : String) (options : HitOptions), shouldStoreChatResponse r.data = true →
      HitEqualsLive r cachedAt options := by
  intro h
  let usage : ChatUsage := ⟨some ⟨"12".toList, by decide⟩, some ⟨"3".toList, by decide⟩⟩
  have hstore : shouldStoreChatResponse (parisResponse (some usage)).data = true := by decide
  obtain ⟨husage, -⟩ := (hit_equals_live_iff _ "" nextRequest hstore).mp (h (parisResponse (some usage)) "" nextRequest hstore)
  obtain ⟨_, _, -, -, -, htotal⟩ := husage usage rfl
  cases htotal

end AiGateway.JsonChat
