import AiGateway.Cache.ReadPaths
import AiGateway.Chat.ExecuteChat
import AiGateway.Config.Clients

/- `ChatCachePipelineService` over its two caches: any number of requests, each of which looks
   its answer up in the exact cache, then in the semantic one by text and by vector, asks the
   provider on a miss, and stores what it got in both. JSON and streamed requests go through
   the same two functions.

   A step is one Redis command of one request or of the semantic store, the answer of a
   provider, or the loss of an entry. -/
namespace AiGateway

structure CacheConfig where
  identity : IdentityConfig
  store : StoreConfig
  gateway : GatewayModels
  clients : List ResolvedGatewayClient
  semanticEnabled : Bool
  embeddingModel : String
  minSimilarity : ℚ
  k : ℕ
  ttlSeconds : ℕ

/-- The arguments of a request that its key guard has let through with this key. -/
def authenticated (clients : List ResolvedGatewayClient) (gatewayKey : GatewayKey) (request : ChatRequest)
    (options : ProviderCallOptions) (requestId : String) : ExecuteInput :=
  ⟨request, options, resolveClientIdFromKey gatewayKey clients, requestId, gatewayKey⟩

section Identities
variable (cfg : CacheConfig)

/-- The partition of the semantic cache, of an alias that is read. -/
def semanticTags (c : ExecuteInput) : SemanticTags where
  clientId := c.clientId
  modelAlias := c.request.modelAlias
  embeddingModel := cfg.embeddingModel
  systemSignature := systemSignature cfg.identity c.request.modelAlias
  callParams := hashCallParams cfg.identity c.options

/-- The gates of `SemanticCacheService`: enabled, single turn, a text that is not blank. -/
def semanticIdentity (c : ExecuteInput) : Option EntryIdentity :=
  if cfg.semanticEnabled && isSingleTurnUserRequest c.request.messages then
    (lastUserMessageText c.request.messages).map fun text => ⟨semanticTags cfg c, text⟩
  else none

/-- What `setCachedIfAllowed` hands to the caches; `completeChatAndStore` and
`executeStreamMiss` do not call it after a fallback. -/
def replyToStore (c : ExecuteInput) (response : ChatResponseData) (didFallback : Bool) (cachedAt : String) :
    Option CachedChatResponse :=
  if !didFallback && c.cacheable cfg.gateway && shouldStoreChatResponse response then
    some (toCachedChatResponse response cachedAt)
  else none

end Identities

/-! ## The system -/

inductive CachePhase where
  | exactGet                               -- `getCachedResponse`: `GET` is next
  | textGet                                -- `lookup`: `HMGET` by text is next
  | searching                              -- embed the text, then `FT.SEARCH`
  | answering                              -- the provider is asked
  | exactSet (reply : CachedChatResponse)  -- `SET NX` is next
  | upserting (reply : CachedChatResponse)
  | ended
  deriving DecidableEq

/-- A request, with the reply that a cache returned to it and the one that it stored. -/
structure CacheCall where
  input : ExecuteInput
  phase : CachePhase
  returned : Option CachedChatResponse
  stored : Option CachedChatResponse

structure CacheSystem where
  exact : String → Option String
  semantic : StoreState
  calls : List CacheCall

def CacheSystem.initial : CacheSystem := ⟨fun _ => none, .initial, []⟩

inductive CacheAction where
  | arrive (gatewayKey : GatewayKey) (request : ChatRequest) (options : ProviderCallOptions)
      (requestId : String)
  | getExact (i : ℕ)
  | getExactFails (i : ℕ)         -- the backend is not available, or `GET` is rejected
  | getText (i : ℕ)
  | getTextFails (i : ℕ)
  | search (i : ℕ) (vector : List UInt32) (docs : List SearchDoc)
  | skipSearch (i : ℕ)            -- the circuit is open, or the embedding or the search failed
  | answer (i : ℕ) (outcome : MissOutcome) (didFallback : Bool) (conversationId cachedAt : String)
  | answerFails (i : ℕ)
  | setExact (i : ℕ)
  | setExactFails (i : ℕ)
  | upsert (i : ℕ) (vector : List UInt32)
  | skipUpsert (i : ℕ)            -- there is no vector to store it under
  | command (a : StoreAction)     -- a further command of a call of the semantic store
  | loseExact (key : String)      -- expired, evicted, or deleted as corrupt

/-- The actions of the semantic store that start no call. -/
def StoreAction.isCommand : StoreAction → Bool
  | .upsert _ | .hmget _ | .hmgetRejected _ | .search _ _ => false
  | _ => true

namespace CacheSystem

def setCall (s : CacheSystem) (i : ℕ) (c : CacheCall) : CacheSystem := { s with calls := s.calls.set i c }

/-- A request after a lookup that found `reply`, or goes on with `phase`. -/
def looked (s : CacheSystem) (i : ℕ) (c : CacheCall) (reply : Option CachedChatResponse)
    (phase : CachePhase) : CacheSystem :=
  match reply with
  | some r => s.setCall i { c with phase := .ended, returned := some r }
  | none => s.setCall i { c with phase := phase }

/-- No reply stored so far has the id. -/
def freshId (s : CacheSystem) (id : String) : Bool := s.calls.all fun c => c.stored.all fun r => r.id ≠ id

end CacheSystem

def GetPhase.reply : GetPhase → Option CachedChatResponse
  | .returned reply => reply
  | .deleting => none

/-- The answer of a miss, as the response of the request. -/
def missResponse (c : ExecuteInput) (outcome : MissOutcome) (conversationId : String) : ChatResponseData :=
  buildChatResponse outcome.response outcome.providerName c.request.modelAlias c.requestId conversationId
    outcome.effectiveModelAlias outcome.warnings outcome.responseId

def cacheStep (cfg : CacheConfig) (s : CacheSystem) : CacheAction → Option CacheSystem
  | .arrive gatewayKey request options requestId =>
    let input := authenticated cfg.clients gatewayKey request options requestId
    let phase : CachePhase :=
      if input.cacheable cfg.gateway && input.reads cfg.identity then .exactGet else .answering
    some { s with calls := s.calls ++ [⟨input, phase, none, none⟩] }
  | .getExact i =>
    match s.calls[i]? with
    | some ⟨input, .exactGet, returned, stored⟩ =>
      some (s.looked i ⟨input, .exactGet, returned, stored⟩
        ((s.exact (input.key cfg.identity)).bind readCachedReply) .textGet)
    | _ => none
  | .getExactFails i =>
    match s.calls[i]? with
    | some ⟨input, .exactGet, returned, stored⟩ => some (s.setCall i ⟨input, .textGet, returned, stored⟩)
    | _ => none
  | .getText i =>
    match s.calls[i]? with
    | some ⟨input, .textGet, returned, stored⟩ =>
      match semanticIdentity cfg input with
      | none => some (s.setCall i ⟨input, .answering, returned, stored⟩)
      | some identity =>
        (storeStep cfg.store s.semantic (.hmget identity)).map fun semantic =>
          { s.looked i ⟨input, .textGet, returned, stored⟩
              (getPhase (s.semantic.store (entryKey cfg.store identity))).reply .searching with
            semantic := semantic }
    | _ => none
  | .getTextFails i =>
    match s.calls[i]? with
    | some ⟨input, .textGet, returned, stored⟩ =>
      match semanticIdentity cfg input with
      | none => none
      | some identity =>
        (storeStep cfg.store s.semantic (.hmgetRejected identity)).map fun semantic =>
          { s.setCall i ⟨input, .searching, returned, stored⟩ with semantic := semantic }
    | _ => none
  | .search i vector docs =>
    match s.calls[i]? with
    | some ⟨input, .searching, returned, stored⟩ =>
      (storeStep cfg.store s.semantic (.search ⟨semanticTags cfg input, vector, cfg.k⟩ docs)).map fun semantic =>
        let best := (parseKnnHits s.semantic.store docs).1.find? fun hit => cfg.minSimilarity ≤ hit.similarity
        { s.looked i ⟨input, .searching, returned, stored⟩ (best.map VectorSearchHit.reply) .answering with
          semantic := semantic }
    | _ => none
  | .skipSearch i =>
    match s.calls[i]? with
    | some ⟨input, .searching, returned, stored⟩ => some (s.setCall i ⟨input, .answering, returned, stored⟩)
    | _ => none
  | .answer i outcome didFallback conversationId cachedAt =>
    match s.calls[i]? with
    | some ⟨input, .answering, returned, _⟩ =>
      -- `gw_<randomUUID>`; the provider of an alias that is not read is not asked, its fallback may be
      if s.freshId outcome.responseId && (input.reads cfg.identity || didFallback) then
        match replyToStore cfg input (missResponse input outcome conversationId) didFallback cachedAt with
        | some reply => some (s.setCall i ⟨input, .exactSet reply, returned, some reply⟩)
        | none => some (s.setCall i ⟨input, .ended, returned, none⟩)
      else none
    | _ => none
  | .answerFails i =>
    match s.calls[i]? with
    | some ⟨input, .answering, returned, stored⟩ => some (s.setCall i ⟨input, .ended, returned, stored⟩)
    | _ => none
  | .setExact i =>
    match s.calls[i]? with
    | some ⟨input, .exactSet reply, returned, stored⟩ =>
      some { s.setCall i ⟨input, .upserting reply, returned, stored⟩ with
        exact := setNx s.exact (input.key cfg.identity) (writeCachedReply reply) }
    | _ => none
  | .setExactFails i =>
    match s.calls[i]? with
    | some ⟨input, .exactSet reply, returned, stored⟩ =>
      some (s.setCall i ⟨input, .upserting reply, returned, stored⟩)
    | _ => none
  | .upsert i vector =>
    match s.calls[i]? with
    | some ⟨input, .upserting reply, returned, stored⟩ =>
      match semanticIdentity cfg input with
      | none => some (s.setCall i ⟨input, .ended, returned, stored⟩)
      | some identity =>
        (storeStep cfg.store s.semantic (.upsert ⟨identity, vector, reply, cfg.ttlSeconds⟩)).map fun semantic =>
          { s.setCall i ⟨input, .ended, returned, stored⟩ with semantic := semantic }
    | _ => none
  | .skipUpsert i =>
    match s.calls[i]? with
    | some ⟨input, .upserting _, returned, stored⟩ => some (s.setCall i ⟨input, .ended, returned, stored⟩)
    | _ => none
  | .command a =>
    if a.isCommand then (storeStep cfg.store s.semantic a).map fun semantic => { s with semantic := semantic }
    else none
  | .loseExact key => some { s with exact := Function.update s.exact key none }

end AiGateway
