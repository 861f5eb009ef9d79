import AiGateway.Cache.Identity
import AiGateway.Cache.VectorStore
import AiGateway.Lib.Logged

/- `SemanticCacheService.lookup` and `storeReply` as the sequence of calls that each makes to the
   vector store, the embedding service and the circuit breaker, for every answer that these
   can give. Between the two, a request carries the state of its one embedding: the vector, or
   that it was tried.

   `lookup_spec` and `storeReply_spec` are the ways either can go, with its calls and its
   result: neither rejects because an embedding, a search or an upsert failed. -/
namespace AiGateway

/-- A use of a backend by one request, or of the circuit breaker in front of one. -/
inductive BackendCall where
  | exactGet (key : String)
  | exactDelete (key : String)
  | exactSet (key text : String)
  | getByTextIdentity (identity : EntryIdentity)
  | shouldSkipEmbed (skip : Bool)
  | embed (text : String)
  | recordEmbedSuccess
  | recordEmbedFailure
  | knn (input : KnnInput)
  | upsert (input : UpsertInput)

namespace SemanticCache

structure Config where
  enabled : Bool
  identity : IdentityConfig
  embeddingModel : String
  minSimilarity : ℚ
  k : ℕ
  ttl : ℕ

/-- `SemanticLookupResult`. -/
structure LookupResult where
  reply : Option CachedChatResponse
  vector : Option (List UInt32)
  embedAttempted : Bool

/-- `SemanticStoreEmbedState`. -/
structure EmbedState where
  vector : Option (List UInt32)
  embedAttempted : Bool

/-- What the circuit breaker, the embedding service and the store answer to a lookup, should
they be asked. -/
structure LookupWorld (ε : Type) where
  textReply : Except ε (Option CachedChatResponse)
  skipEmbed : Bool
  embedded : Except ε (List UInt32)
  hits : Except ε (List VectorSearchHit)

structure StoreWorld (ε : Type) where
  skipEmbed : Bool
  embedded : Except ε (List UInt32)
  upserted : Except ε Unit

/-- Of an alias that is read. -/
def tags (cfg : Config) (identity : ChatCacheIdentity) : SemanticTags where
  clientId := identity.clientId
  modelAlias := identity.modelAlias
  embeddingModel := cfg.embeddingModel
  systemSignature := systemSignature cfg.identity identity.modelAlias
  callParams := hashCallParams cfg.identity identity.callParams

/-- The gates of both functions: enabled, a single turn, a text. -/
def entry (cfg : Config) (identity : ChatCacheIdentity) : Option EntryIdentity :=
  if !cfg.enabled then none
  else if !isSingleTurnUserRequest identity.messages then none
  else (lastUserMessageText identity.messages).map fun text => ⟨tags cfg identity, text⟩

def embedNotAttempted : LookupResult := ⟨none, none, false⟩

section Service
variable {ε : Type} (cfg : Config) (identity : ChatCacheIdentity)

/-- `lookup` once it has a vector. -/
def searchByVector (entry : EntryIdentity) (vector : List UInt32) (w : LookupWorld ε) :
    Logged BackendCall ε LookupResult := do
  let hits ← (Logged.ask (.knn ⟨entry.tags, vector, cfg.k⟩) w.hits).settle
  match hits with
  | .error _ => pure ⟨none, some vector, true⟩
  | .ok hits =>
    match hits.find? fun hit => cfg.minSimilarity ≤ hit.similarity with
    | none => pure ⟨none, some vector, true⟩
    | some best => pure ⟨some best.reply, some vector, true⟩

def lookup (w : LookupWorld ε) : Logged BackendCall ε LookupResult :=
  match entry cfg identity with
  | none => pure embedNotAttempted
  | some entry => do
    let identityReply ← Logged.ask (.getByTextIdentity entry) w.textReply
    match identityReply with
    | some reply => pure ⟨some reply, none, false⟩
    | none => do
      let skip ← Logged.call (.shouldSkipEmbed w.skipEmbed) w.skipEmbed
      if skip then pure embedNotAttempted
      else do
        let embedded ← (Logged.ask (.embed entry.text) w.embedded).settle
        match embedded with
        | .error _ => do
          Logged.call .recordEmbedFailure ()
          pure ⟨none, none, true⟩
        | .ok vector => do
          Logged.call .recordEmbedSuccess ()
          searchByVector cfg entry vector w

/-- The vector that `storeReply` goes on with: that of the lookup, or a new one unless the
lookup has tried. -/
def storeVector (entry : EntryIdentity) (embedState : EmbedState) (w : StoreWorld ε) :
    Logged BackendCall ε (Option (List UInt32)) :=
  match embedState.vector with
  | some vector => pure (some vector)
  | none =>
    if embedState.embedAttempted then pure none
    else do
      let skip ← Logged.call (.shouldSkipEmbed w.skipEmbed) w.skipEmbed
      if skip then pure none
      else do
        let embedded ← (Logged.ask (.embed entry.text) w.embedded).settle
        match embedded with
        | .error _ => do
          Logged.call .recordEmbedFailure ()
          pure none
        | .ok vector => do
          Logged.call .recordEmbedSuccess ()
          pure (some vector)

def storeReply (reply : CachedChatResponse) (embedState : EmbedState) (w : StoreWorld ε) :
    Logged BackendCall ε Unit :=
  match entry cfg identity with
  | none => pure ()
  | some entry => do
    let vector ← storeVector entry embedState w
    match vector with
    | none => pure ()
    | some vector => do
      let _ ← (Logged.ask (.upsert ⟨entry, vector, reply, cfg.ttl⟩) w.upserted).settle
      pure ()

end Service

/-! ## The ways a lookup can go -/

section Spec
variable {ε : Type} {cfg : Config} {identity : ChatCacheIdentity}

inductive LookupPath (cfg : Config) (identity : ChatCacheIdentity) (w : LookupWorld ε) :
    Logged BackendCall ε LookupResult → Prop where
  | gated (hentry : entry cfg identity = none) : LookupPath cfg identity w ⟨[], .ok embedNotAttempted⟩
  | rejected (i : EntryIdentity) (e : ε) (hentry : entry cfg identity = some i) (htext : w.textReply = .error e) :
      LookupPath cfg identity w ⟨[.getByTextIdentity i], .error e⟩
  | hashHit (i : EntryIdentity) (reply : CachedChatResponse) (hentry : entry cfg identity = some i)
      (htext : w.textReply = .ok (some reply)) :
      LookupPath cfg identity w ⟨[.getByTextIdentity i], .ok ⟨some reply, none, false⟩⟩
  | skipped (i : EntryIdentity) (hentry : entry cfg identity = some i) (htext : w.textReply = .ok none)
      (hskip : w.skipEmbed = true) :
      LookupPath cfg identity w ⟨[.getByTextIdentity i, .shouldSkipEmbed true], .ok embedNotAttempted⟩
  | embedFailed (i : EntryIdentity) (e : ε) (hentry : entry cfg identity = some i) (htext : w.textReply = .ok none)
      (hskip : w.skipEmbed = false) (hembed : w.embedded = .error e) :
      LookupPath cfg identity w
        ⟨[.getByTextIdentity i, .shouldSkipEmbed false, .embed i.text, .recordEmbedFailure], .ok ⟨none, none, true⟩⟩
  | searched (i : EntryIdentity) (vector : List UInt32) (reply : Option CachedChatResponse)
      (hentry : entry cfg identity = some i) (htext : w.textReply = .ok none) (hskip : w.skipEmbed = false)
      (hembed : w.embedded = .ok vector) :
      LookupPath cfg identity w
        ⟨[.getByTextIdentity i, .shouldSkipEmbed false, .embed i.text, .recordEmbedSuccess,
            .knn ⟨i.tags, vector, cfg.k⟩],
          .ok ⟨reply, some vector, true⟩⟩

theorem searchByVector_eq (i : EntryIdentity) (vector : List UInt32) (w : LookupWorld ε) :
    ∃ reply, searchByVector cfg i vector w =
      ⟨[.knn ⟨i.tags, vector, cfg.k⟩], .ok ⟨reply, some vector, true⟩⟩ := by
  unfold searchByVector
  cases hhits : w.hits with
  | error e => exact ⟨none, by simp⟩
  | ok hits =>
    cases hbest : hits.find? fun hit => cfg.minSimilarity ≤ hit.similarity with
    | none => exact ⟨none, by simp [hbest]⟩
    | some best => exact ⟨some best.reply, by simp [hbest]⟩

theorem lookup_spec (w : LookupWorld ε) : LookupPath cfg identity w (lookup cfg identity w) := by
  unfold lookup
  cases hentry : entry cfg identity with
  | none => exact .gated hentry
  | some i =>
    cases htext : w.textReply with
    | error e => exact .rejected i e hentry htext
    | ok found =>
      cases found with
      | some reply => exact .hashHit i reply hentry htext
      | none =>
        cases hskip : w.skipEmbed with
        | true => exact .skipped i hentry htext hskip
        | false =>
          cases hembed : w.embedded with
          | error e => exact .embedFailed i e hentry htext hskip hembed
          | ok vector =>
            obtain ⟨reply, hreply⟩ := @searchByVector_eq _ cfg i vector w
            simp only [Logged.ask, Logged.call, Logged.settle, Logged.bind_ok, hreply]
            exact .searched i vector reply hentry htext hskip hembed

/-- Only a rejected read by text makes a lookup reject. -/
theorem LookupPath.textReply_of_error {w : LookupWorld ε} {m : Logged BackendCall ε LookupResult} {e : ε}
    (hpath : LookupPath cfg identity w m) (h : m.outcome = .error e) : w.textReply = .error e := by
  cases hpath with
  | rejected i e' hentry htext =>
    cases h
    exact htext
  | _ => cases h

/-! ## The ways a store can go -/

inductive StorePath (cfg : Config) (identity : ChatCacheIdentity) (reply : CachedChatResponse)
    (embedState : EmbedState) (w : StoreWorld ε) : List BackendCall → Prop where
  | gated (hentry : entry cfg identity = none) : StorePath cfg identity reply embedState w []
  | reused (i : EntryIdentity) (vector : List UInt32) (hentry : entry cfg identity = some i)
      (hstate : embedState.vector = some vector) :
      StorePath cfg identity reply embedState w [.upsert ⟨i, vector, reply, cfg.ttl⟩]
  | tried (i : EntryIdentity) (hentry : entry cfg identity = some i) (hstate : embedState.vector = none)
      (htried : embedState.embedAttempted = true) : StorePath cfg identity reply embedState w []
  | skipped (i : EntryIdentity) (hentry : entry cfg identity = some i) (hstate : embedState.vector = none)
      (hfresh : embedState.embedAttempted = false) (hskip : w.skipEmbed = true) :
      StorePath cfg identity reply embedState w [.shouldSkipEmbed true]
  | embedFailed (i : EntryIdentity) (e : ε) (hentry : entry cfg identity = some i) (hstate : embedState.vector = none)
      (hfresh : embedState.embedAttempted = false) (hskip : w.skipEmbed = false) (hembed : w.embedded = .error e) :
      StorePath cfg identity reply embedState w
        [.shouldSkipEmbed false, .embed i.text, .recordEmbedFailure]
  | embedded (i : EntryIdentity) (vector : List UInt32) (hentry : entry cfg identity = some i)
      (hstate : embedState.vector = none) (hfresh : embedState.embedAttempted = false)
      (hskip : w.skipEmbed = false) (hembed : w.embedded = .ok vector) :
      StorePath cfg identity reply embedState w
        [.shouldSkipEmbed false, .embed i.text, .recordEmbedSuccess, .upsert ⟨i, vector, reply, cfg.ttl⟩]

theorem storeReply_spec (reply : CachedChatResponse) (embedState : EmbedState) (w : StoreWorld ε) :
    StorePath cfg identity reply embedState w (storeReply cfg identity reply embedState w).calls ∧
      (storeReply cfg identity reply embedState w).outcome = .ok () := by
  unfold storeReply
  cases hentry : entry cfg identity with
  | none => exact ⟨.gated hentry, rfl⟩
  | some i =>
    cases hstate : embedState.vector with
    | some vector =>
      simp only [storeVector, hstate]
      exact ⟨.reused i vector hentry hstate, rfl⟩
    | none =>
      cases htried : embedState.embedAttempted with
      | true =>
        simp only [storeVector, hstate, htried]
        exact ⟨.tried i hentry hstate htried, rfl⟩
      | false =>
        cases hskip : w.skipEmbed with
        | true =>
          simp only [storeVector, hstate, htried, hskip]
          exact ⟨.skipped i hentry hstate htried hskip, rfl⟩
        | false =>
          cases hembed : w.embedded with
          | error e =>
            simp only [storeVector, hstate, htried, hskip, hembed]
            exact ⟨.embedFailed i e hentry hstate htried hskip hembed, rfl⟩
          | ok vector =>
            simp only [storeVector, hstate, htried, hskip, hembed]
            exact ⟨.embedded i vector hentry hstate htried hskip hembed, rfl⟩

section Path
variable {reply : CachedChatResponse} {embedState : EmbedState} {w : StoreWorld ε} {calls : List BackendCall}

/-- A store with a vector upserts it and does not embed. -/
theorem StorePath.eq_of_vector {i : EntryIdentity} {vector : List UInt32}
    (h : StorePath cfg identity reply embedState w calls) (hentry : entry cfg identity = some i)
    (hvector : embedState.vector = some vector) : calls = [.upsert ⟨i, vector, reply, cfg.ttl⟩] := by
  cases h with
  | gated hnone =>
    rw [hentry] at hnone
    cases hnone
  | reused j v hj hstate =>
    rw [hentry] at hj
    rw [hvector] at hstate
    cases hj
    cases hstate
    rfl
  | tried j hj hstate => simp [hvector] at hstate
  | skipped j hj hstate => simp [hvector] at hstate
  | embedFailed j e hj hstate => simp [hvector] at hstate
  | embedded j v hj hstate => simp [hvector] at hstate

/-- A store after an embedding that has failed does nothing. -/
theorem StorePath.eq_nil_of_tried (h : StorePath cfg identity reply embedState w calls)
    (hvector : embedState.vector = none) (htried : embedState.embedAttempted = true) : calls = [] := by
  cases h with
  | gated hnone => rfl
  | reused i v hi hstate => simp [hvector] at hstate
  | tried i hi hstate => rfl
  | skipped i hi hstate hfresh => simp [htried] at hfresh
  | embedFailed i e hi hstate hfresh => simp [htried] at hfresh
  | embedded i v hi hstate hfresh => simp [htried] at hfresh

end Path

end Spec

end SemanticCache

end AiGateway
