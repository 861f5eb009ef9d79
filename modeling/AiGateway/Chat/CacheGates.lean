import AiGateway.Cache.SemanticCache
import AiGateway.Chat.CachePipeline
import AiGateway.Chat.Executor
import AiGateway.Chat.StreamMiss

/- What one request does to the backends of the caches: `ChatCachePipelineService` in front of
   the exact and the semantic cache, called by `executeChat` on the JSON path and by
   `resolveStreamCache` and `executeStreamMiss` on the stream path. Each place has its own copy
   of the gates.

   `cache_gates`: a request that a gate refuses uses no backend, a reply of the fallback alias
   is not stored, and what is stored has passed `shouldStoreChatResponse` and passes the gate
   of every read. `embed_at_most_once`: lookup and store of a request share one embedding. -/
namespace AiGateway

open SemanticCache (EmbedState)

def ExecuteInput.identity (c : ExecuteInput) : ChatCacheIdentity :=
  toChatCacheIdentity c.request c.clientId c.options

def CacheConfig.semantic (cfg : CacheConfig) : SemanticCache.Config where
  enabled := cfg.semanticEnabled
  identity := cfg.identity
  embeddingModel := cfg.embeddingModel
  minSimilarity := cfg.minSimilarity
  k := cfg.k
  ttl := cfg.ttlSeconds

/-- The gates of the service are those of the steps of `CacheSystem`. -/
theorem semanticEntry_eq (cfg : CacheConfig) (c : ExecuteInput) :
    SemanticCache.entry cfg.semantic c.identity = semanticIdentity cfg c := by
  unfold SemanticCache.entry semanticIdentity
  show (if !cfg.semanticEnabled then none
    else if !isSingleTurnUserRequest c.request.messages then none
    else (lastUserMessageText c.request.messages).map fun text =>
      (⟨semanticTags cfg c, text⟩ : EntryIdentity)) = _
  cases cfg.semanticEnabled <;> cases isSingleTurnUserRequest c.request.messages <;> rfl

/-! ## The pipeline -/

/-- What a successful `runOnce` comes back with. -/
structure AttemptValue where
  response : ProviderResponse
  providerName : String
  warnings : List CachedChatWarning

/-- What a request finds at each step: its own resolved configuration and the answers of
everything that it calls. -/
structure RequestWorld where
  prepared : Except ThrownError String                -- the conversation id; throws too where an alias is not read
  exactReadable : Bool                                -- `cache.isAvailable()` at the lookup
  exactText : Option String                           -- `GET`
  semanticCache : Bool                                -- the optional service is injected
  lookup : SemanticCache.LookupWorld ThrownError
  shared : Option (Except ThrownError ChatResult)     -- the end of a work in flight under the key
  fallbackAlias : Option String
  retry : RetryPolicy
  runOnce : String → ℕ → RunOutcome retry.timeoutMs AttemptValue
  responseId : String
  cachedAt : String
  exactWritable : Bool                                -- `cache.isAvailable()` at the store
  store : SemanticCache.StoreWorld ThrownError
  handlerError : Option ThrownError                   -- thrown by `handleProviderError`

/-- `ChatCacheLookupResult`. -/
inductive ChatCacheLookupResult where
  | hit (reply : CachedChatResponse) (source : ChatCacheSource)
  | miss (embedState : Option EmbedState)

namespace ChatCachePipeline

variable (cfg : CacheConfig) (c : ExecuteInput) (w : RequestWorld)

/-- `ResponseCacheService.getCachedResponse`. The commands of the exact cache do not reject. -/
def getCachedResponse : Logged BackendCall ThrownError (Option CachedChatResponse) :=
  if !w.exactReadable then pure none
  else do
    let cached ← Logged.call (.exactGet (c.key cfg.identity)) w.exactText
    match exactGetPhase cached with
    | .returned reply => pure reply
    | .deleting => do
      Logged.call (.exactDelete (c.key cfg.identity)) ()
      pure none

/-- `getCachedIfAllowed` after an exact miss. -/
def lookupSemantic : Logged BackendCall ThrownError ChatCacheLookupResult := do
  let semantic ← SemanticCache.lookup cfg.semantic c.identity w.lookup
  match semantic.reply with
  | some reply => pure (.hit reply .semantic)
  | none => pure (.miss (some ⟨semantic.vector, semantic.embedAttempted⟩))

def getCachedIfAllowed : Logged BackendCall ThrownError ChatCacheLookupResult :=
  if isToolingRequest c.request || c.gatewayKey = "" || c.clientId = "unknown" then pure (.miss none)
  else if !isCachedChatAllowedForModelAlias cfg.gateway c.request.modelAlias then pure (.miss none)
  else do
    let exact ← getCachedResponse cfg c w
    match exact with
    | some reply => pure (.hit reply .exact)
    | none => if !w.semanticCache then pure (.miss none) else lookupSemantic cfg c w

/-- `ResponseCacheService.setCachedResponse`. -/
def setCachedResponse (reply : CachedChatResponse) : Logged BackendCall ThrownError Unit :=
  if !w.exactWritable then pure ()
  else Logged.call (.exactSet (c.key cfg.identity) (writeCachedReply reply)) ()

def setCachedIfAllowed (response : ChatResponseData) (embedState : Option EmbedState) :
    Logged BackendCall ThrownError Unit :=
  if isToolingRequest c.request || c.gatewayKey = "" || c.clientId = "unknown" then pure ()
  else if !isCachedChatAllowedForModelAlias cfg.gateway c.request.modelAlias then pure ()
  else if !shouldStoreChatResponse response then pure ()
  else do
    setCachedResponse cfg c w (toCachedChatResponse response w.cachedAt)
    if w.semanticCache then
      SemanticCache.storeReply cfg.semantic c.identity (toCachedChatResponse response w.cachedAt)
        (embedState.getD ⟨none, false⟩) w.store
    else pure ()

end ChatCachePipeline

/-! ## The two paths -/

namespace ChatService

open ChatCachePipeline

variable (cfg : CacheConfig) (c : ExecuteInput) (w : RequestWorld)

/-- A tooling request has no fallback. -/
def executionOptions : ExecutionOptions where
  primaryAlias := c.request.modelAlias
  fallbackAlias := if isToolingRequest c.request then none else w.fallbackAlias
  retry := w.retry

def execution : Except ThrownError (ResilientExecutionResult AttemptValue) :=
  (executeWithRetryAndFallback (executionOptions c w) w.runOnce).outcome

def chatResponse (conversationId : String) (result : ResilientExecutionResult AttemptValue) : ChatResponseData :=
  buildChatResponse result.value.response result.value.providerName c.request.modelAlias c.requestId
    conversationId (if result.didFallback then some result.usedAlias else none) result.value.warnings w.responseId

def completeChatAndStore (conversationId : String) (embedState : Option EmbedState) :
    Logged BackendCall ThrownError ChatResult := do
  let settled ← Logged.settle (do
    let result ← Logged.attempt (execution c w)
    let response := chatResponse c w conversationId result
    if !result.didFallback then setCachedIfAllowed cfg c w response embedState else pure ()
    pure (ChatResult.live response))
  match settled with
  | .ok result => pure result
  | .error e => Logged.throws (w.handlerError.getD e)

/-- `executeChat` up to the result of its lookup. -/
def executeLookup : Logged BackendCall ThrownError (String × ChatCacheLookupResult) := do
  let conversationId ← Logged.attempt w.prepared
  if c.gatewayKey ≠ "" then do
    let lookup ← getCachedIfAllowed cfg c w
    pure (conversationId, lookup)
  else pure (conversationId, .miss none)

def executeChat : Logged BackendCall ThrownError ChatResult := do
  let (conversationId, lookup) ← executeLookup cfg c w
  match lookup with
  | .hit reply source => pure (.cached reply source conversationId c.requestId)
  | .miss embedState =>
    -- `mayCoalesce`: the work in flight under the key is shared, if there is one
    match if c.cacheable cfg.gateway then w.shared else none with
    | some result => Logged.attempt result
    | none => completeChatAndStore cfg c w conversationId embedState

/-- `StreamCacheDecision`. -/
inductive StreamCacheDecision where
  | hit (conversationId : String) (cached : CachedChatResponse) (source : ChatCacheSource)
  | miss (conversationId : String) (embedState : Option EmbedState)

def resolveStreamCache : Logged BackendCall ThrownError StreamCacheDecision := do
  let conversationId ← Logged.attempt w.prepared
  if c.gatewayKey = "" then pure (.miss conversationId none)
  else do
    let lookup ← getCachedIfAllowed cfg c w
    match lookup with
    | .hit cached source => pure (.hit conversationId cached source)
    | .miss embedState => pure (.miss conversationId embedState)

/-- The calls of `executeStreamMiss` in a run that has come to `s`. -/
def streamMissCalls (embedState : Option EmbedState) (s : StreamRun) : List BackendCall :=
  s.stored.elim [] fun response => (setCachedIfAllowed cfg c w response embedState).calls

end ChatService

/-! ## The gates -/

/-- A request that must not touch the caches. -/
def ExecuteInput.Refused (cfg : CacheConfig) (c : ExecuteInput) : Prop :=
  isToolingRequest c.request = true ∨ c.gatewayKey = "" ∨ c.clientId = "unknown" ∨
    cfg.gateway.providerInstance c.request.modelAlias = none ∨
    ∃ instance_, cfg.gateway.providerInstance c.request.modelAlias = some instance_ ∧
      cfg.gateway.enabled instance_ ≠ some true

namespace ChatCachePipeline

variable {cfg : CacheConfig} {c : ExecuteInput} {w : RequestWorld}

theorem cacheable_of_refused (h : c.Refused cfg) : c.cacheable cfg.gateway = false := by
  unfold ExecuteInput.cacheable isCachedChatAllowedForModelAlias
  rcases h with h | h | h | h | ⟨instance_, h, hoff⟩
  · simp [h]
  · simp [h]
  · simp [h]
  · simp [h]
  · simp [h, hoff]

/-- The two tests of the pipeline are the one of `mayCoalesce`. -/
theorem gates_iff : c.cacheable cfg.gateway = true ↔
    (isToolingRequest c.request || c.gatewayKey = "" || c.clientId = "unknown") = false ∧
      isCachedChatAllowedForModelAlias cfg.gateway c.request.modelAlias = true := by
  unfold ExecuteInput.cacheable
  cases isToolingRequest c.request <;> simp [and_assoc]

theorem getCachedIfAllowed_refused (h : c.cacheable cfg.gateway = false) :
    getCachedIfAllowed cfg c w = ⟨[], .ok (.miss none)⟩ := by
  unfold getCachedIfAllowed
  split
  · rfl
  · next hopen =>
    split
    · rfl
    · next hallowed =>
      have hcacheable := gates_iff.mpr ⟨Bool.eq_false_iff.mpr hopen, by simpa using hallowed⟩
      rw [h] at hcacheable
      cases hcacheable

theorem setCachedIfAllowed_refused {response : ChatResponseData} {embedState : Option EmbedState}
    (h : c.cacheable cfg.gateway = false) : setCachedIfAllowed cfg c w response embedState = ⟨[], .ok ()⟩ := by
  unfold setCachedIfAllowed
  split
  · rfl
  · next hopen =>
    split
    · rfl
    · next hallowed =>
      have hcacheable := gates_iff.mpr ⟨Bool.eq_false_iff.mpr hopen, by simpa using hallowed⟩
      rw [h] at hcacheable
      cases hcacheable

end ChatCachePipeline

/-! ## What the calls do -/

/-- The text that a call writes under a key. -/
def BackendCall.written : BackendCall → Option String
  | .exactSet _ text => some text
  | .upsert input => some (writeCachedReply input.reply)
  | _ => none

def BackendCall.isEmbed : BackendCall → Bool
  | .embed _ => true
  | _ => false

def BackendCall.upserted : BackendCall → Option (List UInt32)
  | .upsert input => some input.vector
  | _ => none

def writes (calls : List BackendCall) : List String := calls.filterMap BackendCall.written

def embeds (calls : List BackendCall) : ℕ := calls.countP BackendCall.isEmbed

/-- The vectors of the upserts. -/
def upserts (calls : List BackendCall) : List (List UInt32) := calls.filterMap BackendCall.upserted

@[simp] theorem writes_append (xs ys : List BackendCall) : writes (xs ++ ys) = writes xs ++ writes ys :=
  List.filterMap_append

@[simp] theorem embeds_append (xs ys : List BackendCall) : embeds (xs ++ ys) = embeds xs + embeds ys :=
  List.countP_append

@[simp] theorem upserts_append (xs ys : List BackendCall) : upserts (xs ++ ys) = upserts xs ++ upserts ys :=
  List.filterMap_append

section Store
variable {ε : Type} {cfg : SemanticCache.Config} {identity : ChatCacheIdentity} {reply : CachedChatResponse}
variable {calls : List BackendCall}

theorem SemanticCache.StorePath.text_eq {embedState : EmbedState} {w : StoreWorld ε}
    (h : StorePath cfg identity reply embedState w calls) {text : String} (htext : text ∈ writes calls) :
    text = writeCachedReply reply := by
  cases h with
  | reused i vector hentry hstate => exact List.mem_singleton.mp htext
  | embedded i vector hentry hstate hfresh hskip hembed => exact List.mem_singleton.mp htext
  | _ => cases htext

theorem SemanticCache.StorePath.embeds_le_one {embedState : EmbedState} {w : StoreWorld ε}
    (h : StorePath cfg identity reply embedState w calls) : embeds calls ≤ 1 := by
  cases h with
  | embedFailed i e hentry hstate hfresh hskip hembed => exact Nat.le_refl 1
  | embedded i vector hentry hstate hfresh hskip hembed => exact Nat.le_refl 1
  | _ => exact Nat.zero_le 1

end Store

namespace ChatCachePipeline

variable {cfg : CacheConfig} {c : ExecuteInput} {w : RequestWorld}

theorem getCachedResponse_spec : ∃ calls reply, getCachedResponse cfg c w = ⟨calls, .ok reply⟩ ∧
    writes calls = [] ∧ embeds calls = 0 := by
  unfold getCachedResponse
  cases w.exactReadable with
  | false => exact ⟨[], none, rfl, rfl, rfl⟩
  | true =>
    cases hphase : exactGetPhase w.exactText with
    | returned reply =>
      refine ⟨[.exactGet (c.key cfg.identity)], reply, ?_, rfl, rfl⟩
      simp [Logged.call, hphase]
    | deleting =>
      refine ⟨[.exactGet (c.key cfg.identity), .exactDelete (c.key cfg.identity)], none, ?_, rfl, rfl⟩
      simp [Logged.call, hphase]

/-- What a lookup leaves to the store, by the fate of its embedding. -/
inductive LookupLeaves (cfg : CacheConfig) (c : ExecuteInput) (w : RequestWorld) (calls : List BackendCall) :
    Except ThrownError ChatCacheLookupResult → Prop where
  | untried (result : Except ThrownError ChatCacheLookupResult) (hembeds : embeds calls = 0)
      (hstate : ∀ embedState, result = .ok (.miss embedState) → embedState.getD ⟨none, false⟩ = ⟨none, false⟩) :
      LookupLeaves cfg c w calls result
  | failed (e : ThrownError) (hembeds : embeds calls = 1) (hembed : w.lookup.embedded = .error e) :
      LookupLeaves cfg c w calls (.ok (.miss (some ⟨none, true⟩)))
  | embedded (result : ChatCacheLookupResult) (vector : List UInt32) (entry : EntryIdentity)
      (hembeds : embeds calls = 1) (hembed : w.lookup.embedded = .ok vector)
      (hcacheable : c.cacheable cfg.gateway = true) (hsemantic : w.semanticCache = true)
      (hentry : SemanticCache.entry cfg.semantic c.identity = some entry)
      (hstate : ∀ embedState, result = .miss embedState → embedState = some ⟨some vector, true⟩) :
      LookupLeaves cfg c w calls (.ok result)

/-- The semantic part of a lookup, and what it leaves. -/
theorem lookupSemantic_leaves (hcacheable : c.cacheable cfg.gateway = true) (hsemantic : w.semanticCache = true) :
    writes (lookupSemantic cfg c w).calls = [] ∧
      LookupLeaves cfg c w (lookupSemantic cfg c w).calls (lookupSemantic cfg c w).outcome := by
  have hpath := @SemanticCache.lookup_spec _ cfg.semantic c.identity w.lookup
  unfold lookupSemantic
  generalize SemanticCache.lookup cfg.semantic c.identity w.lookup = m at hpath
  -- Only the last two paths embed, and they hand on what they got.
  cases hpath with
  | gated hentry =>
    refine ⟨rfl, .untried _ rfl ?_⟩
    intro embedState h
    cases h
    rfl
  | rejected i e hentry htext =>
    refine ⟨rfl, .untried _ rfl ?_⟩
    intro embedState h
    cases h
  | hashHit i reply hentry htext =>
    refine ⟨rfl, .untried _ rfl ?_⟩
    intro embedState h
    cases h
  | skipped i hentry htext hskip =>
    refine ⟨rfl, .untried _ rfl ?_⟩
    intro embedState h
    cases h
    rfl
  | embedFailed i e hentry htext hskip hembed => exact ⟨rfl, .failed e rfl hembed⟩
  | searched i vector reply hentry htext hskip hembed =>
    cases reply with
    | some reply =>
      refine ⟨rfl, .embedded (.hit reply .semantic) vector i rfl hembed hcacheable hsemantic hentry ?_⟩
      intro embedState h
      cases h
    | none =>
      refine ⟨rfl, .embedded (.miss (some ⟨some vector, true⟩)) vector i rfl hembed hcacheable hsemantic hentry ?_⟩
      intro embedState h
      cases h
      rfl

/-- Reads of the exact cache before the semantic part change nothing. -/
theorem LookupLeaves.prepend {pre calls : List BackendCall} {result : Except ThrownError ChatCacheLookupResult}
    (hpre : embeds pre = 0) (h : LookupLeaves cfg c w calls result) : LookupLeaves cfg c w (pre ++ calls) result := by
  have hsame : embeds (pre ++ calls) = embeds calls := by rw [embeds_append, hpre, Nat.zero_add]
  cases h with
  | untried result hembeds hstate => exact .untried _ (hsame.trans hembeds) hstate
  | failed e hembeds hembed => exact .failed e (hsame.trans hembeds) hembed
  | embedded result vector i hembeds hembed hcacheable hsemantic hentry hstate =>
    exact .embedded result vector i (hsame.trans hembeds) hembed hcacheable hsemantic hentry hstate

theorem getCachedIfAllowed_leaves :
    writes (getCachedIfAllowed cfg c w).calls = [] ∧
      LookupLeaves cfg c w (getCachedIfAllowed cfg c w).calls (getCachedIfAllowed cfg c w).outcome := by
  cases hcacheable : c.cacheable cfg.gateway with
  | false =>
    rw [getCachedIfAllowed_refused hcacheable]
    refine ⟨rfl, .untried _ rfl ?_⟩
    intro embedState h
    cases h
    rfl
  | true =>
    obtain ⟨hopen, hallowed⟩ := gates_iff.mp hcacheable
    -- The exact cache comes first and embeds nothing.
    obtain ⟨calls, reply, hexact, hwrites, hembeds⟩ := @getCachedResponse_spec cfg c w
    unfold getCachedIfAllowed
    rw [if_neg (by rw [hopen]; simp), if_neg (by rw [hallowed]; simp), hexact]
    cases reply with
    | some reply =>
      simp only [Logged.bind_ok, Logged.pure_eq, List.append_nil]
      refine ⟨hwrites, .untried _ hembeds ?_⟩
      intro embedState h
      cases h
    | none =>
      cases hsemantic : w.semanticCache with
      | false =>
        simp only [Logged.bind_ok, Logged.pure_eq, List.append_nil, Bool.not_false, if_true]
        refine ⟨hwrites, .untried _ hembeds ?_⟩
        intro embedState h
        cases h
        rfl
      | true =>
        obtain ⟨hsem, hleaves⟩ := @lookupSemantic_leaves cfg c w hcacheable hsemantic
        simp only [Logged.bind_ok, Bool.not_true, Bool.false_eq_true, if_false, writes_append, hwrites, hsem]
        exact ⟨rfl, hleaves.prepend hembeds⟩

/-! ## The store -/

section Store
variable {response : ChatResponseData} {embedState : Option EmbedState}

theorem setCachedIfAllowed_unfit (h : shouldStoreChatResponse response = false) :
    setCachedIfAllowed cfg c w response embedState = ⟨[], .ok ()⟩ := by
  unfold setCachedIfAllowed
  split
  · rfl
  · split
    · rfl
    · rw [h]
      rfl

/-- The calls of `storeReply` in the pipeline, which may be without the service. -/
def semanticStoreCalls (cfg : CacheConfig) (c : ExecuteInput) (w : RequestWorld) (response : ChatResponseData)
    (embedState : Option EmbedState) : List BackendCall :=
  if w.semanticCache then
    (SemanticCache.storeReply cfg.semantic c.identity (toCachedChatResponse response w.cachedAt)
      (embedState.getD ⟨none, false⟩) w.store).calls
  else []

theorem setCachedIfAllowed_open (hcacheable : c.cacheable cfg.gateway = true)
    (hstore : shouldStoreChatResponse response = true) :
    ∃ exact, setCachedIfAllowed cfg c w response embedState =
        ⟨exact ++ semanticStoreCalls cfg c w response embedState, .ok ()⟩ ∧
      embeds exact = 0 ∧ upserts exact = [] ∧
      ∀ text ∈ writes exact, text = writeCachedReply (toCachedChatResponse response w.cachedAt) := by
  obtain ⟨hopen, hallowed⟩ := gates_iff.mp hcacheable
  obtain ⟨calls, hset, hembeds, hupserts, hwrites⟩ :
      ∃ calls, setCachedResponse cfg c w (toCachedChatResponse response w.cachedAt) = ⟨calls, .ok ()⟩ ∧
        embeds calls = 0 ∧ upserts calls = [] ∧
        ∀ text ∈ writes calls, text = writeCachedReply (toCachedChatResponse response w.cachedAt) := by
    unfold setCachedResponse
    cases w.exactWritable with
    | false => exact ⟨[], rfl, rfl, rfl, by simp [writes]⟩
    | true => exact ⟨[.exactSet _ _], rfl, rfl, rfl, by simp [writes, BackendCall.written]⟩
  refine ⟨calls, ?_, hembeds, hupserts, hwrites⟩
  unfold setCachedIfAllowed semanticStoreCalls
  rw [if_neg (by rw [hopen]; simp), if_neg (by rw [hallowed]; simp), if_neg (by rw [hstore]; simp), hset]
  cases w.semanticCache with
  | false => rfl
  | true =>
    have houtcome := (@SemanticCache.storeReply_spec _ cfg.semantic c.identity
      (toCachedChatResponse response w.cachedAt) (embedState.getD ⟨none, false⟩) w.store).2
    simp only [Logged.bind_ok, if_true, houtcome]

theorem setCachedIfAllowed_outcome : (setCachedIfAllowed cfg c w response embedState).outcome = .ok () := by
  cases hcacheable : c.cacheable cfg.gateway with
  | false => rw [setCachedIfAllowed_refused hcacheable]
  | true =>
    cases hstore : shouldStoreChatResponse response with
    | false => rw [setCachedIfAllowed_unfit hstore]
    | true =>
      obtain ⟨exact, hset, -⟩ := @setCachedIfAllowed_open cfg c w response embedState hcacheable hstore
      rw [hset]

/-- A store that makes a call has passed both gates. -/
theorem setCachedIfAllowed_cases :
    setCachedIfAllowed cfg c w response embedState = ⟨[], .ok ()⟩ ∨
      c.cacheable cfg.gateway = true ∧ shouldStoreChatResponse response = true := by
  cases hcacheable : c.cacheable cfg.gateway with
  | false => exact .inl (setCachedIfAllowed_refused hcacheable)
  | true =>
    cases hstore : shouldStoreChatResponse response with
    | false => exact .inl (setCachedIfAllowed_unfit hstore)
    | true => exact .inr ⟨rfl, rfl⟩

/-- What a store writes is the reply, and the response has passed `shouldStoreChatResponse`. -/
theorem setCachedIfAllowed_writes {text : String}
    (h : text ∈ writes (setCachedIfAllowed cfg c w response embedState).calls) :
    shouldStoreChatResponse response = true ∧
      text = writeCachedReply (toCachedChatResponse response w.cachedAt) := by
  rcases @setCachedIfAllowed_cases cfg c w response embedState with hnone | ⟨hcacheable, hstore⟩
  · rw [hnone] at h
    cases h
  · obtain ⟨exact, hset, -, -, hexact⟩ := @setCachedIfAllowed_open cfg c w response embedState hcacheable hstore
    rw [hset, writes_append, List.mem_append] at h
    refine ⟨hstore, ?_⟩
    rcases h with h | h
    · exact hexact text h
    · unfold semanticStoreCalls at h
      split at h
      · exact (SemanticCache.storeReply_spec _ _ w.store).1.text_eq h
      · cases h

/-- The store embeds at most once, and not at all when the lookup has tried. -/
theorem setCachedIfAllowed_embeds :
    embeds (setCachedIfAllowed cfg c w response embedState).calls ≤ 1 := by
  rcases @setCachedIfAllowed_cases cfg c w response embedState with hnone | ⟨hcacheable, hstore⟩
  · rw [hnone]
    exact Nat.zero_le 1
  · obtain ⟨exact, hset, hembeds, -⟩ := @setCachedIfAllowed_open cfg c w response embedState hcacheable hstore
    rw [hset, embeds_append, hembeds, Nat.zero_add]
    unfold semanticStoreCalls
    split
    · exact (SemanticCache.storeReply_spec _ _ w.store).1.embeds_le_one
    · exact Nat.zero_le 1

theorem setCachedIfAllowed_tried :
    embeds (setCachedIfAllowed cfg c w response (some ⟨none, true⟩)).calls = 0 ∧
      upserts (setCachedIfAllowed cfg c w response (some ⟨none, true⟩)).calls = [] := by
  rcases @setCachedIfAllowed_cases cfg c w response (some ⟨none, true⟩) with hnone | ⟨hcacheable, hstore⟩
  · rw [hnone]
    exact ⟨rfl, rfl⟩
  · obtain ⟨exact, hset, hembeds, hupserts, -⟩ :=
      @setCachedIfAllowed_open cfg c w response (some ⟨none, true⟩) hcacheable hstore
    have hnone : semanticStoreCalls cfg c w response (some ⟨none, true⟩) = [] := by
      unfold semanticStoreCalls
      split
      · exact (SemanticCache.storeReply_spec _ _ w.store).1.eq_nil_of_tried rfl rfl
      · rfl
    rw [hset, hnone, List.append_nil]
    exact ⟨hembeds, hupserts⟩

theorem setCachedIfAllowed_reused {vector : List UInt32} {entry : EntryIdentity}
    (hcacheable : c.cacheable cfg.gateway = true) (hsemantic : w.semanticCache = true)
    (hentry : SemanticCache.entry cfg.semantic c.identity = some entry)
    (hstore : shouldStoreChatResponse response = true) :
    embeds (setCachedIfAllowed cfg c w response (some ⟨some vector, true⟩)).calls = 0 ∧
      upserts (setCachedIfAllowed cfg c w response (some ⟨some vector, true⟩)).calls = [vector] := by
  obtain ⟨exact, hset, hembeds, hupserts, -⟩ :=
    @setCachedIfAllowed_open cfg c w response (some ⟨some vector, true⟩) hcacheable hstore
  have hone : semanticStoreCalls cfg c w response (some ⟨some vector, true⟩) =
      [.upsert ⟨entry, vector, toCachedChatResponse response w.cachedAt, cfg.ttlSeconds⟩] := by
    unfold semanticStoreCalls
    rw [if_pos hsemantic]
    exact (SemanticCache.storeReply_spec _ _ w.store).1.eq_of_vector hentry rfl
  rw [hset, hone, embeds_append, upserts_append, hembeds, hupserts]
  exact ⟨rfl, rfl⟩

end Store

/-- One embedding for the lookup and the store of a request; `handed` is the response that
the store is called with, if it is. -/
structure EmbedLaw (w : RequestWorld) (lookup store : List BackendCall) (handed : Option ChatResponseData) : Prop where
  once : embeds (lookup ++ store) ≤ 1
  failed : ∀ e, embeds lookup ≠ 0 → w.lookup.embedded = .error e → embeds store = 0 ∧ upserts store = []
  reused : ∀ vector, embeds lookup ≠ 0 → w.lookup.embedded = .ok vector →
    embeds store = 0 ∧ ∀ v ∈ upserts store, v = vector
  runs : ∀ vector response, embeds lookup ≠ 0 → w.lookup.embedded = .ok vector → handed = some response →
    shouldStoreChatResponse response = true → upserts store = [vector]

theorem embedLaw_no_store {calls : List BackendCall} {result : Except ThrownError ChatCacheLookupResult}
    (h : LookupLeaves cfg c w calls result) : EmbedLaw w calls [] none := by
  refine ⟨?_, fun _ _ _ => ⟨rfl, rfl⟩, fun _ _ _ => ⟨rfl, by simp [upserts]⟩, by simp⟩
  rw [List.append_nil]
  cases h with
  | untried result hembeds hstate => omega
  | failed e hembeds hembed => omega
  | embedded result vector i hembeds => omega

/-- The store is called with what the lookup has left. -/
theorem embedLaw_store {calls : List BackendCall} {embedState : Option EmbedState} {response : ChatResponseData}
    (h : LookupLeaves cfg c w calls (.ok (.miss embedState))) :
    EmbedLaw w calls (setCachedIfAllowed cfg c w response embedState).calls (some response) := by
  -- What the lookup has spent decides what the store may still spend.
  cases h with
  | untried result hembeds hstate =>
    refine ⟨?_, fun _ h => absurd hembeds h, fun _ h => absurd hembeds h, fun _ _ h => absurd hembeds h⟩
    rw [embeds_append, hembeds, Nat.zero_add]
    exact setCachedIfAllowed_embeds
  | failed e hembeds hembed =>
    obtain ⟨hzero, hnone⟩ := @setCachedIfAllowed_tried cfg c w response
    refine ⟨?_, fun _ _ _ => ⟨hzero, hnone⟩, ?_, ?_⟩
    · rw [embeds_append, hembeds, hzero]
    · intro vector _ hok
      rw [hembed] at hok
      cases hok
    · intro vector _ _ hok
      rw [hembed] at hok
      cases hok
  | embedded result vector entry hembeds hembed hcacheable hsemantic hentry hstate =>
    rw [hstate embedState rfl]
    have hvector : ∀ v, w.lookup.embedded = .ok v → v = vector := by
      intro v hv
      rw [hembed] at hv
      cases hv
      rfl
    have hfailed : ∀ e, w.lookup.embedded ≠ .error e := by
      intro e he
      rw [hembed] at he
      cases he
    cases hstore : shouldStoreChatResponse response with
    | false =>
      rw [setCachedIfAllowed_unfit hstore]
      refine ⟨by rw [List.append_nil]; omega, fun _ _ _ => ⟨rfl, rfl⟩, fun _ _ _ => ⟨rfl, by simp [upserts]⟩, ?_⟩
      intro v r _ _ hr hfit
      cases hr
      rw [hstore] at hfit
      cases hfit
    | true =>
      obtain ⟨hzero, hone⟩ := @setCachedIfAllowed_reused cfg c w response vector entry hcacheable hsemantic hentry hstore
      refine ⟨by rw [embeds_append, hembeds, hzero], fun e _ he => absurd he (hfailed e), ?_, ?_⟩
      · intro v _ hv
        refine ⟨hzero, ?_⟩
        intro u hu
        rw [hone] at hu
        rw [List.mem_singleton.mp hu, hvector v hv]
      · intro v r _ hv _ _
        rw [hone, hvector v hv]

end ChatCachePipeline

/-! ## Whole requests -/

namespace ChatService

open ChatCachePipeline

variable {cfg : CacheConfig} {c : ExecuteInput} {w : RequestWorld}

/-- Without a key there is no lookup, and a lookup would do nothing. -/
theorem executeLookup_eq : executeLookup cfg c w = (do
    let conversationId ← Logged.attempt w.prepared
    let lookup ← getCachedIfAllowed cfg c w
    pure (conversationId, lookup)) := by
  unfold executeLookup
  by_cases hkey : c.gatewayKey = ""
  · have hrefused : c.cacheable cfg.gateway = false := cacheable_of_refused (.inr (.inl hkey))
    rw [getCachedIfAllowed_refused hrefused]
    simp [hkey]
  · simp [hkey]

/-- Both paths look up alike. -/
theorem resolveStreamCache_spec :
    (resolveStreamCache cfg c w).calls = (executeLookup cfg c w).calls ∧
      ∀ conversationId embedState, (resolveStreamCache cfg c w).outcome = .ok (.miss conversationId embedState) →
        (executeLookup cfg c w).outcome = .ok (conversationId, .miss embedState) := by
  unfold resolveStreamCache executeLookup
  cases w.prepared with
  | error e => exact ⟨rfl, by simp [Logged.attempt]⟩
  | ok id =>
    by_cases hkey : c.gatewayKey = ""
    · simp [hkey, Logged.attempt]
    · cases getCachedIfAllowed cfg c w with
      | mk calls outcome =>
        cases outcome with
        | error e => simp [hkey, Logged.attempt]
        | ok lookup =>
          cases lookup with
          | hit cached source => simp [hkey, Logged.attempt]
          | miss embedState => simp [hkey, Logged.attempt]

/-- The response that `completeChatAndStore` hands to the store. -/
def ownResponse (c : ExecuteInput) (w : RequestWorld) (conversationId : String) : Option ChatResponseData :=
  match execution c w with
  | .ok result => if result.didFallback then none else some (chatResponse c w conversationId result)
  | .error _ => none

theorem completeChatAndStore_spec (conversationId : String) (embedState : Option EmbedState) :
    (completeChatAndStore cfg c w conversationId embedState).calls =
        ((ownResponse c w conversationId).elim [] fun response =>
          (setCachedIfAllowed cfg c w response embedState).calls) ∧
      ∀ response, ownResponse c w conversationId = some response →
        (completeChatAndStore cfg c w conversationId embedState).outcome = .ok (.live response) := by
  unfold completeChatAndStore ownResponse
  cases hexec : execution c w with
  | error e => exact ⟨rfl, by simp⟩
  | ok result =>
    cases hfell : result.didFallback with
    | true => simp [Logged.attempt, Logged.settle, hfell]
    | false =>
      have hset := @setCachedIfAllowed_outcome cfg c w (chatResponse c w conversationId result) embedState
      cases hlog : setCachedIfAllowed cfg c w (chatResponse c w conversationId result) embedState with
      | mk calls outcome =>
        rw [hlog] at hset
        cases hset
        simp [Logged.attempt, Logged.settle, hfell, hlog]

/-- The response that `executeChat` hands to the store: a hit or a shared work leaves none. -/
def handedToStore (cfg : CacheConfig) (c : ExecuteInput) (w : RequestWorld) : Option ChatResponseData :=
  match (executeLookup cfg c w).outcome with
  | .ok (conversationId, .miss _) =>
    if c.cacheable cfg.gateway && w.shared.isSome then none else ownResponse c w conversationId
  | _ => none

/-- The calls of `executeChat` after its lookup. -/
def storeCalls (cfg : CacheConfig) (c : ExecuteInput) (w : RequestWorld) : List BackendCall :=
  match (executeLookup cfg c w).outcome with
  | .ok (_, .miss embedState) =>
    (handedToStore cfg c w).elim [] fun response => (setCachedIfAllowed cfg c w response embedState).calls
  | _ => []

theorem executeChat_spec :
    (executeChat cfg c w).calls = (executeLookup cfg c w).calls ++ storeCalls cfg c w ∧
      ∀ response, handedToStore cfg c w = some response → (executeChat cfg c w).outcome = .ok (.live response) := by
  unfold executeChat storeCalls handedToStore
  cases hlookup : executeLookup cfg c w with
  | mk calls outcome =>
    cases outcome with
    | error e => simp
    | ok found =>
      obtain ⟨conversationId, result⟩ := found
      cases result with
      | hit reply source => simp
      | miss embedState =>
        have hown := @completeChatAndStore_spec cfg c w conversationId embedState
        cases hshared : w.shared with
        | none => simpa using hown
        | some shared =>
          cases c.cacheable cfg.gateway with
          | true => simp
          | false => simpa using hown

theorem handedToStore_not_fallback {response : ChatResponseData} (h : handedToStore cfg c w = some response) :
    ∃ result, execution c w = .ok result ∧ result.didFallback = false := by
  unfold handedToStore at h
  split at h
  · split at h
    · cases h
    · unfold ownResponse at h
      split at h
      · next result hexec =>
        split at h
        · cases h
        · next hfell => exact ⟨result, hexec, Bool.eq_false_iff.mpr hfell⟩
      · cases h
  · cases h

theorem writes_storeCalls {text : String} (h : text ∈ writes (storeCalls cfg c w)) :
    ∃ response, handedToStore cfg c w = some response ∧ shouldStoreChatResponse response = true ∧
      text = writeCachedReply (toCachedChatResponse response w.cachedAt) := by
  unfold storeCalls at h
  split at h
  · cases hhanded : handedToStore cfg c w with
    | none =>
      rw [hhanded] at h
      cases h
    | some response =>
      rw [hhanded] at h
      exact ⟨response, rfl, setCachedIfAllowed_writes h⟩
  · cases h

theorem executeLookup_refused (h : c.cacheable cfg.gateway = false) : (executeLookup cfg c w).calls = [] := by
  rw [executeLookup_eq, getCachedIfAllowed_refused h]
  cases w.prepared <;> rfl

theorem resolveStreamCache_refused (h : c.cacheable cfg.gateway = false) :
    (resolveStreamCache cfg c w).calls = [] := by
  rw [resolveStreamCache_spec.1]
  exact executeLookup_refused h

/-- What a request looks up, or nothing when it is not prepared. -/
theorem executeLookup_leaves : writes (executeLookup cfg c w).calls = [] ∧
    ∃ result, LookupLeaves cfg c w (executeLookup cfg c w).calls result ∧
      ∀ conversationId lookup, (executeLookup cfg c w).outcome = .ok (conversationId, lookup) → result = .ok lookup := by
  obtain ⟨hwrites, hleaves⟩ := @getCachedIfAllowed_leaves cfg c w
  rw [executeLookup_eq]
  cases hprepared : w.prepared with
  | error e => exact ⟨rfl, .error e, .untried _ rfl (by simp), by simp [Logged.attempt]⟩
  | ok conversationId =>
    cases hlog : getCachedIfAllowed cfg c w with
    | mk calls outcome =>
      rw [hlog] at hwrites hleaves
      cases outcome with
      | error e => exact ⟨hwrites, .error e, hleaves, by simp [Logged.attempt]⟩
      | ok lookup =>
        simp only [Logged.attempt, Logged.bind_ok, Logged.pure_eq, List.nil_append, List.append_nil]
        refine ⟨hwrites, .ok lookup, hleaves, ?_⟩
        intro _ _ h
        cases h
        rfl

theorem resolveStreamCache_leaves : writes (resolveStreamCache cfg c w).calls = [] ∧
    ∃ result, LookupLeaves cfg c w (resolveStreamCache cfg c w).calls result ∧
      ∀ conversationId embedState, (resolveStreamCache cfg c w).outcome = .ok (.miss conversationId embedState) →
        result = .ok (.miss embedState) := by
  obtain ⟨hcalls, hmiss⟩ := @resolveStreamCache_spec cfg c w
  obtain ⟨hwrites, result, hleaves, hresult⟩ := @executeLookup_leaves cfg c w
  rw [hcalls]
  refine ⟨hwrites, result, hleaves, ?_⟩
  intro conversationId embedState h
  exact hresult conversationId _ (hmiss conversationId embedState h)

/-- All calls of a streamed request whose run has come to `s`: a hit is replayed. -/
def streamCalls (cfg : CacheConfig) (c : ExecuteInput) (w : RequestWorld) (s : StreamRun) : List BackendCall :=
  (resolveStreamCache cfg c w).calls ++
    match (resolveStreamCache cfg c w).outcome with
    | .ok (.miss _ embedState) => streamMissCalls cfg c w embedState s
    | _ => []

/-- At some point of the run, the fallback alias has succeeded. -/
def SucceededOnFallback (i : StreamInput) (acts : List StreamMissAction) : Prop :=
  ∃ pre rest u id f, acts = pre ++ rest ∧ Runs.run (streamMissStep i) .initial pre = some u ∧
    u.control = .succeeded .fallback id f

/-! ## The gates hold -/

/-- A stored text is a reply that every read accepts. -/
theorem stored_is_servable {response : ChatResponseData} {cachedAt : String} {reply : CachedChatResponse}
    (hfit : shouldStoreChatResponse response = true)
    (hread : (Json.parse (writeCachedReply (toCachedChatResponse response cachedAt))).bind parseCachedChatResponse =
      some reply) : isUnservableCachedReply reply = false := by
  rw [writeCachedReply, Json.parse_stringify, Option.bind_some, parseCachedChatResponse_toJson] at hread
  split at hread
  · cases hread
    exact shouldStore_servable cachedAt hfit
  · cases hread

/-- The calls of a request, whose response to store is one that `handed` holds of. -/
structure GateLaw (cfg : CacheConfig) (c : ExecuteInput) (w : RequestWorld) (calls : List BackendCall)
    (fellBack : Prop) (handed : ChatResponseData → Prop) : Prop where
  refused : c.Refused cfg → calls = []
  fallback : fellBack → writes calls = []
  stored : ∀ text ∈ writes calls, ∃ response, handed response ∧ shouldStoreChatResponse response = true ∧
    text = writeCachedReply (toCachedChatResponse response w.cachedAt) ∧
    ∀ reply, (Json.parse text).bind parseCachedChatResponse = some reply → isUnservableCachedReply reply = false

theorem executeChat_gateLaw : GateLaw cfg c w (executeChat cfg c w).calls
    (∃ result, execution c w = .ok result ∧ result.didFallback = true)
    (fun response => (executeChat cfg c w).outcome = .ok (.live response)) := by
  obtain ⟨hcalls, houtcome⟩ := @executeChat_spec cfg c w
  have hwrites : writes (executeChat cfg c w).calls = writes (storeCalls cfg c w) := by
    rw [hcalls, writes_append, (@executeLookup_leaves cfg c w).1, List.nil_append]
  refine ⟨?_, ?_, ?_⟩
  · intro hrefused
    have hclosed := cacheable_of_refused hrefused
    rw [hcalls, executeLookup_refused hclosed, List.nil_append]
    unfold storeCalls
    split
    · cases handedToStore cfg c w with
      | none => rfl
      | some response => rw [Option.elim_some, setCachedIfAllowed_refused hclosed]
    · rfl
  · rintro ⟨result, hexec, hfell⟩
    rw [hwrites]
    refine List.eq_nil_iff_forall_not_mem.mpr ?_
    intro text htext
    obtain ⟨response, hhanded, -⟩ := writes_storeCalls htext
    obtain ⟨result', hexec', hnot⟩ := handedToStore_not_fallback hhanded
    rw [hexec] at hexec'
    cases hexec'
    rw [hfell] at hnot
    cases hnot
  · intro text htext
    rw [hwrites] at htext
    obtain ⟨response, hhanded, hfit, rfl⟩ := writes_storeCalls htext
    exact ⟨response, houtcome response hhanded, hfit, rfl, fun _ hread => stored_is_servable hfit hread⟩

theorem writes_streamCalls {s : StreamRun} {text : String} (h : text ∈ writes (streamCalls cfg c w s)) :
    ∃ response, s.stored = some response ∧ shouldStoreChatResponse response = true ∧
      text = writeCachedReply (toCachedChatResponse response w.cachedAt) := by
  rw [streamCalls, writes_append, (@resolveStreamCache_leaves cfg c w).1, List.nil_append] at h
  split at h
  · unfold streamMissCalls at h
    cases hstored : s.stored with
    | none =>
      rw [hstored] at h
      cases h
    | some response =>
      rw [hstored] at h
      exact ⟨response, rfl, setCachedIfAllowed_writes h⟩
  · cases h

theorem streamCalls_gateLaw {i : StreamInput} {acts : List StreamMissAction} {s : StreamRun}
    (hrun : Runs.run (streamMissStep i) .initial acts = some s) :
    GateLaw cfg c w (streamCalls cfg c w s) (SucceededOnFallback i acts) (fun response => s.stored = some response) := by
  refine ⟨?_, ?_, ?_⟩
  · intro hrefused
    have hclosed := cacheable_of_refused hrefused
    rw [streamCalls, resolveStreamCache_refused hclosed, List.nil_append]
    split
    · unfold streamMissCalls
      cases s.stored with
      | none => rfl
      | some response => rw [Option.elim_some, setCachedIfAllowed_refused hclosed]
    · rfl
  · rintro ⟨pre, rest, u, id, f, rfl, hpre, hcontrol⟩
    refine List.eq_nil_iff_forall_not_mem.mpr ?_
    intro text htext
    obtain ⟨response, hstored, -⟩ := writes_streamCalls htext
    obtain ⟨u', hu', hrest⟩ := Runs.run_append.mp hrun
    rw [hpre] at hu'
    cases hu'
    rw [stored_none_of_fallback hpre hcontrol hrest] at hstored
    cases hstored
  · intro text htext
    obtain ⟨response, hstored, hfit, rfl⟩ := writes_streamCalls htext
    exact ⟨response, hstored, hfit, rfl, fun _ hread => stored_is_servable hfit hread⟩

theorem cache_gates (cfg : CacheConfig) (c : ExecuteInput) (w : RequestWorld) :
    GateLaw cfg c w (executeChat cfg c w).calls (∃ result, execution c w = .ok result ∧ result.didFallback = true)
        (fun response => (executeChat cfg c w).outcome = .ok (.live response)) ∧
      ∀ i acts s, Runs.run (streamMissStep i) .initial acts = some s →
        GateLaw cfg c w (streamCalls cfg c w s) (SucceededOnFallback i acts)
          (fun response => s.stored = some response) :=
  ⟨executeChat_gateLaw, fun _ _ _ hrun => streamCalls_gateLaw hrun⟩

/-- Both caches are empty and up, and the provider says hello. -/
def emptyCaches : RequestWorld where
  prepared := .ok "conv_1"
  exactReadable := true
  exactText := none
  semanticCache := true
  lookup := ⟨.ok none, false, .ok [1], .ok []⟩
  shared := none
  fallbackAlias := none
  retry := defaultRetryPolicy
  runOnce := fun _ _ => .value ⟨helloOutcome.response, "openai-main", []⟩
  responseId := "gw_1"
  cachedAt := ""
  exactWritable := true
  store := ⟨false, .ok [1], .ok ()⟩
  handlerError := none

def bothCaches : CacheConfig := ⟨plainIdentity, plainConfig, openGateway, [], true, "embed-3", 9 / 10, 3, 60⟩

def helloStream : List StreamMissAction :=
  [.begin, .launch, .chunk 0 "hello", .finish 0 emptyFinal, .emitDone, .store none]

theorem cache_gates_hello : ∃ s, Runs.run (streamMissStep plainStream) .initial helloStream = some s ∧
    (writes (streamCalls bothCaches (askInput "req_1") emptyCaches s)).length = 2 ∧
    GateLaw bothCaches (askInput "req_1") emptyCaches (streamCalls bothCaches (askInput "req_1") emptyCaches s)
      (SucceededOnFallback plainStream helloStream) (fun response => s.stored = some response) := by
  obtain ⟨s, hs⟩ : ∃ s, Runs.run (streamMissStep plainStream) .initial helloStream = some s := ⟨_, rfl⟩
  refine ⟨s, hs, ?_, (cache_gates bothCaches (askInput "req_1") emptyCaches).2 _ _ _ hs⟩
  cases hs
  rfl

/-! ## One embedding -/

theorem executeChat_embedLaw :
    EmbedLaw w (executeLookup cfg c w).calls (storeCalls cfg c w) (handedToStore cfg c w) := by
  obtain ⟨-, result, hleaves, hresult⟩ := @executeLookup_leaves cfg c w
  unfold storeCalls
  split
  · next conversationId embedState hlookup =>
    rw [hresult conversationId _ hlookup] at hleaves
    cases handedToStore cfg c w with
    | none => exact embedLaw_no_store hleaves
    | some response => exact embedLaw_store hleaves
  · next hother =>
    have hnone : handedToStore cfg c w = none := by
      unfold handedToStore
      split
      · next hlookup => exact absurd hlookup (hother _ _)
      · rfl
    rw [hnone]
    exact embedLaw_no_store hleaves

theorem stream_embedLaw {conversationId : String} {embedState : Option EmbedState} (s : StreamRun)
    (hmiss : (resolveStreamCache cfg c w).outcome = .ok (.miss conversationId embedState)) :
    EmbedLaw w (resolveStreamCache cfg c w).calls (streamMissCalls cfg c w embedState s) s.stored := by
  obtain ⟨-, result, hleaves, hresult⟩ := @resolveStreamCache_leaves cfg c w
  rw [hresult conversationId embedState hmiss] at hleaves
  unfold streamMissCalls
  cases s.stored with
  | none => exact embedLaw_no_store hleaves
  | some response => exact embedLaw_store hleaves

theorem embed_at_most_once (cfg : CacheConfig) (c : ExecuteInput) (w : RequestWorld) :
    (∃ store, (executeChat cfg c w).calls = (executeLookup cfg c w).calls ++ store ∧
        EmbedLaw w (executeLookup cfg c w).calls store (handedToStore cfg c w)) ∧
      (∀ conversationId embedState, (resolveStreamCache cfg c w).outcome = .ok (.miss conversationId embedState) →
        ∀ s, EmbedLaw w (resolveStreamCache cfg c w).calls (streamMissCalls cfg c w embedState s) s.stored) ∧
      (∀ s, embeds (streamCalls cfg c w s) ≤ 1) ∧
      (∀ e, (SemanticCache.lookup cfg.semantic c.identity w.lookup).outcome = .error e →
        w.lookup.textReply = .error e) ∧
      ∀ reply embedState,
        (SemanticCache.storeReply cfg.semantic c.identity reply embedState w.store).outcome = .ok () := by
  refine ⟨⟨storeCalls cfg c w, executeChat_spec.1, executeChat_embedLaw⟩, ?_, ?_, ?_, ?_⟩
  · intro _ _ hmiss s
    exact stream_embedLaw s hmiss
  · intro s
    unfold streamCalls
    split
    · next conversationId embedState hmiss => exact (stream_embedLaw s hmiss).once
    · obtain ⟨-, result, hleaves, -⟩ := @resolveStreamCache_leaves cfg c w
      exact (embedLaw_no_store hleaves).once
  · intro e h
    exact (SemanticCache.lookup_spec _).textReply_of_error h
  · intro reply embedState
    exact (SemanticCache.storeReply_spec reply embedState w.store).2

theorem embed_at_most_once_hello : ∃ s, Runs.run (streamMissStep plainStream) .initial helloStream = some s ∧
    (resolveStreamCache bothCaches (askInput "req_1") emptyCaches).outcome =
      .ok (.miss "conv_1" (some ⟨some [1], true⟩)) ∧
    EmbedLaw emptyCaches (resolveStreamCache bothCaches (askInput "req_1") emptyCaches).calls
      (streamMissCalls bothCaches (askInput "req_1") emptyCaches (some ⟨some [1], true⟩) s) s.stored := by
  obtain ⟨s, hs⟩ : ∃ s, Runs.run (streamMissStep plainStream) .initial helloStream = some s := ⟨_, rfl⟩
  have hmiss : (resolveStreamCache bothCaches (askInput "req_1") emptyCaches).outcome =
      .ok (.miss "conv_1" (some ⟨some [1], true⟩)) := rfl
  exact ⟨s, hs, hmiss, (embed_at_most_once bothCaches (askInput "req_1") emptyCaches).2.1 _ _ hmiss s⟩

end ChatService

end AiGateway
