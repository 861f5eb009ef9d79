import AiGateway.Cache.CachedReply
import AiGateway.Lib.Run
import AiGateway.Lib.Table
import Mathlib.Data.Set.Function
import Mathlib.Logic.Function.Basic

/- `RedisVectorStoreAdapter`: the semantic store as the interleaving of the Redis commands
   of its calls. A state is the hashes under the index prefixes together with every call so
   far; a step is one command of one call, a call that stops, or the loss of a key.

   An upsert claims `reply` with `HSETNX` and then writes the other fields and the expiry in
   one `MULTI`. When the claim fails it asks with two more commands whether the hash is
   complete, and heals it by the same `MULTI` if not. The six fields that `MULTI` writes are
   only ever written together, so they are one component of a hash here.

   * `store_law`: over every interleaving the first reply of a hash stays, a vector has an
     expiry, and what a lookup returns was stored under the identity it asked for.
   * `vector_has_reply`: a hash with a vector has its reply, as long as no key is lost while
     an upsert is between its `HSETNX` and its last command. `heal_creates_vector_only` is
     the run in which the key expires in that gap. -/
namespace AiGateway

/-! ## Identities and hashes -/

/-- The five TAG fields by which the index is filtered. -/
structure SemanticTags where
  clientId : String
  modelAlias : String
  embeddingModel : String
  systemSignature : String
  callParams : String
  deriving DecidableEq, Repr

structure EntryIdentity where
  tags : SemanticTags
  text : String
  deriving DecidableEq, Repr

/-- What `entryKey` feeds to the hash. -/
def EntryIdentity.joined (i : EntryIdentity) : String :=
  i.tags.clientId ++ "|" ++ i.tags.modelAlias ++ "|" ++ i.tags.embeddingModel ++ "|" ++
    i.tags.systemSignature ++ "|" ++ i.tags.callParams ++ "|" ++ i.text

/-- `semanticIndexName` at the configured dimension, the first 32 hex digits of SHA-256, and the
tags that Redis Search makes of the text of a TAG field. -/
structure StoreConfig where
  indexName : String → String
  digest : String → String
  tagValues : String → List String

def entryKey (cfg : StoreConfig) (i : EntryIdentity) : String :=
  cfg.indexName i.tags.embeddingModel ++ ":" ++ cfg.digest i.joined

/-- `metaFields`; the vector is the blob's Float32 words. -/
structure MetaFields where
  tags : SemanticTags
  vector : List UInt32
  deriving DecidableEq, Repr

structure Entry where
  reply : Option String
  fields : Option MetaFields
  ttl : Option ℕ
  deriving DecidableEq, Repr

abbrev Store := String → Option Entry

structure UpsertInput where
  identity : EntryIdentity
  vector : List UInt32
  reply : CachedChatResponse
  ttlSeconds : ℕ
  deriving DecidableEq

def UpsertInput.metaFields (u : UpsertInput) : MetaFields := ⟨u.identity.tags, u.vector⟩

/-! ## Commands -/

/-- `HSETNX key reply text`: the new store and whether the field was set. -/
def hsetnx (store : Store) (key text : String) : Store × Bool :=
  match store key with
  | none => (Function.update store key (some ⟨some text, none, none⟩), true)
  | some e =>
    match e.reply with
    | none => (Function.update store key (some { e with reply := some text }), true)
    | some _ => (store, false)

/-- `MULTI`, `HSET key fields`, `EXPIRE key ttl`, `EXEC`. -/
def hsetExpire (store : Store) (key : String) (fields : MetaFields) (ttl : ℕ) : Store :=
  Function.update store key (some ⟨(store key).bind Entry.reply, some fields, some ttl⟩)

def hexists (store : Store) (key : String) : Bool := ((store key).bind Entry.fields).isSome

/-- `TTL key`: -2 for a missing key, -1 for a key without expiry. -/
def ttl (store : Store) (key : String) : ℤ :=
  match store key with
  | none => -2
  | some e => match e.ttl with
    | none => -1
    | some n => n

/-- `DEL key`, and what expiry does. -/
def del (store : Store) (key : String) : Store := Function.update store key none

/-! ## Calls -/

inductive UpsertPhase where
  | claiming                    -- `HSETNX` is next
  | claimed                     -- it set the field: `MULTI` is next
  | probing                     -- it did not: `HEXISTS` is next
  | probed (hasVector : Bool)   -- `TTL` is next
  | healing                     -- `healIncompleteEntry`: `MULTI` is next
  | ended
  deriving DecidableEq, Repr

structure UpsertCall where
  input : UpsertInput
  phase : UpsertPhase
  retried : Bool
  deriving DecidableEq

inductive GetPhase where
  | returned (reply : Option CachedChatResponse)
  | deleting                    -- `deleteCorruptEntry` is next
  deriving DecidableEq

structure GetCall where
  identity : EntryIdentity
  phase : GetPhase
  deriving DecidableEq

structure KnnInput where
  tags : SemanticTags
  vector : List UInt32
  k : ℕ
  deriving DecidableEq

structure VectorSearchHit where
  similarity : ℚ
  reply : CachedChatResponse
  deriving DecidableEq

/-- A search: its hits, and the corrupt keys that are still to be deleted. -/
structure KnnCall where
  input : KnnInput
  hits : List VectorSearchHit
  corruptKeys : List String
  deriving DecidableEq

structure StoreState where
  store : Store
  upserts : List UpsertCall
  gets : List GetCall
  knns : List KnnCall

def StoreState.initial : StoreState := ⟨fun _ => none, [], [], []⟩

/-- What `HMGET key reply vector` gives `getByTextIdentity`: a hash without a vector, or with
an empty one, is a miss; a reply that must not be served is deleted. -/
def getPhase (e : Option Entry) : GetPhase :=
  match e.bind Entry.reply, e.bind Entry.fields with
  | some text, some fields =>
    if text = "" ∨ fields.vector = [] then .returned none
    else match readCachedReply text with
      | some r => .returned (some r)
      | none => .deleting
  | _, _ => .returned none

/-- One document of an `FT.SEARCH` reply: its key and the distance, when that is finite. -/
structure SearchDoc where
  key : String
  dist : Option ℚ
  deriving DecidableEq, Repr

/-- `parseKnnHits` on the fields `reply` and `dist` of the documents: hits and corrupt keys. -/
def parseKnnHits (store : Store) : List SearchDoc → List VectorSearchHit × List String
  | [] => ([], [])
  | doc :: docs =>
    let rest := parseKnnHits store docs
    match (((store doc.key).bind Entry.reply).filter (· ≠ "")).bind readCachedReply with
    | none => (rest.1, if doc.key = "" then rest.2 else doc.key :: rest.2)
    | some reply =>
      match doc.dist with
      | none => rest
      | some dist => (⟨1 - dist, reply⟩ :: rest.1, rest.2)

/-- Each TAG field has the value of the query among its tags. -/
def SemanticTags.foundBy (cfg : StoreConfig) (fields query : SemanticTags) : Bool :=
  query.modelAlias ∈ cfg.tagValues fields.modelAlias && query.clientId ∈ cfg.tagValues fields.clientId &&
    query.embeddingModel ∈ cfg.tagValues fields.embeddingModel &&
    query.systemSignature ∈ cfg.tagValues fields.systemSignature &&
    query.callParams ∈ cfg.tagValues fields.callParams

/-- The documents a search may return: hashes of the index that have a vector and whose TAG
fields have the five values of the query. -/
def searchable (cfg : StoreConfig) (store : Store) (q : KnnInput) (doc : SearchDoc) : Bool :=
  (cfg.indexName q.tags.embeddingModel ++ ":").toList.isPrefixOf doc.key.toList &&
    ((store doc.key).bind Entry.fields).any (·.tags.foundBy cfg q.tags)

inductive StoreAction where
  | upsert (input : UpsertInput)
  | hsetnx (i : ℕ)
  | multi (i : ℕ)
  | hexists (i : ℕ)
  | ttl (i : ℕ)
  | rejected (i : ℕ) (missingIndex : Bool)  -- a command of the upsert is rejected
  | crash (i : ℕ)
  | hmget (identity : EntryIdentity)
  | hmgetRejected (identity : EntryIdentity)
  | getDel (i : ℕ)
  | getDelRejected (i : ℕ)
  | search (input : KnnInput) (docs : List SearchDoc)
  | knnDel (i : ℕ)
  | knnDelRejected (i : ℕ)
  | expire (key : String)
  | evict (key : String)
  deriving DecidableEq

namespace StoreState

def setUpsert (s : StoreState) (i : ℕ) (u : UpsertCall) : StoreState :=
  { s with upserts := s.upserts.set i u }

def setGet (s : StoreState) (i : ℕ) (g : GetCall) : StoreState := { s with gets := s.gets.set i g }

def setKnn (s : StoreState) (i : ℕ) (q : KnnCall) : StoreState := { s with knns := s.knns.set i q }

end StoreState

def storeStep (cfg : StoreConfig) (s : StoreState) : StoreAction → Option StoreState
  | .upsert input =>
    -- `ttlSeconds must be >= 1`
    let phase : UpsertPhase := if input.ttlSeconds < 1 then .ended else .claiming
    some { s with upserts := s.upserts ++ [⟨input, phase, false⟩] }
  | .hsetnx i =>
    match s.upserts[i]? with
    | some ⟨input, .claiming, retried⟩ =>
      let r := hsetnx s.store (entryKey cfg input.identity) (writeCachedReply input.reply)
      some { s.setUpsert i ⟨input, if r.2 then .claimed else .probing, retried⟩ with store := r.1 }
    | _ => none
  | .hexists i =>
    match s.upserts[i]? with
    | some ⟨input, .probing, retried⟩ =>
      some (s.setUpsert i ⟨input, .probed (hexists s.store (entryKey cfg input.identity)), retried⟩)
    | _ => none
  | .ttl i =>
    match s.upserts[i]? with
    | some ⟨input, .probed hasVector, retried⟩ =>
      let incomplete := !hasVector || ttl s.store (entryKey cfg input.identity) < 0
      some (s.setUpsert i ⟨input, if incomplete then .healing else .ended, retried⟩)
    | _ => none
  | .multi i =>
    match s.upserts[i]? with
    | some ⟨input, .claimed, retried⟩ | some ⟨input, .healing, retried⟩ =>
      some { s.setUpsert i ⟨input, .ended, retried⟩ with
        store := hsetExpire s.store (entryKey cfg input.identity) input.metaFields input.ttlSeconds }
    | _ => none
  | .rejected i missingIndex =>
    match s.upserts[i]? with
    | some ⟨input, phase, retried⟩ =>
      if phase = .ended then none
      -- the write is repeated once, after the index was created again
      else if missingIndex && !retried then some (s.setUpsert i ⟨input, .claiming, true⟩)
      else some (s.setUpsert i ⟨input, .ended, retried⟩)
    | none => none
  | .crash i =>
    match s.upserts[i]? with
    | some ⟨input, _, retried⟩ => some (s.setUpsert i ⟨input, .ended, retried⟩)
    | none => none
  | .hmget identity =>
    some { s with gets := s.gets ++ [⟨identity, getPhase (s.store (entryKey cfg identity))⟩] }
  | .hmgetRejected identity => some { s with gets := s.gets ++ [⟨identity, .deleting⟩] }
  | .getDel i =>
    match s.gets[i]? with
    | some ⟨identity, .deleting⟩ =>
      some { s.setGet i ⟨identity, .returned none⟩ with store := del s.store (entryKey cfg identity) }
    | _ => none
  | .getDelRejected i =>
    match s.gets[i]? with
    | some ⟨identity, .deleting⟩ => some (s.setGet i ⟨identity, .returned none⟩)
    | _ => none
  | .search input docs =>
    if docs.all (searchable cfg s.store input) ∧ docs.length ≤ input.k then
      let r := parseKnnHits s.store docs
      some { s with knns := s.knns ++ [⟨input, r.1, r.2⟩] }
    else none
  | .knnDel i =>
    match s.knns[i]? with
    | some ⟨input, hits, key :: keys⟩ => some { s.setKnn i ⟨input, hits, keys⟩ with store := del s.store key }
    | _ => none
  | .knnDelRejected i =>
    match s.knns[i]? with
    | some ⟨input, hits, _ :: keys⟩ => some (s.setKnn i ⟨input, hits, keys⟩)
    | _ => none
  | .expire key =>
    if ((s.store key).bind Entry.ttl).isSome then some { s with store := del s.store key } else none
  | .evict key => some { s with store := del s.store key }

/-! ## What one step can do -/

/-- The upsert has done its `HSETNX` and is not finished. -/
def UpsertPhase.pastClaim : UpsertPhase → Bool
  | .claimed | .probing | .probed _ | .healing => true
  | .claiming | .ended => false

/-- One step by what it does. -/
inductive StoreTransition (cfg : StoreConfig) (s : StoreState) : StoreAction → StoreState → Prop where
  | start (input : UpsertInput) (phase : UpsertPhase) (hphase : phase.pastClaim = false) :
      StoreTransition cfg s (.upsert input) { s with upserts := s.upserts ++ [⟨input, phase, false⟩] }
  | claim (i : ℕ) (input : UpsertInput) (retried : Bool) (hi : s.upserts[i]? = some ⟨input, .claiming, retried⟩)
      (phase : UpsertPhase) :
      StoreTransition cfg s (.hsetnx i) { s.setUpsert i ⟨input, phase, retried⟩ with
        store := (hsetnx s.store (entryKey cfg input.identity) (writeCachedReply input.reply)).1 }
  -- a probe, a rejected command or a crash
  | move (a : StoreAction) (i : ℕ) (u v : UpsertCall) (hi : s.upserts[i]? = some u) (hinput : v.input = u.input)
      (hphase : v.phase.pastClaim = true → u.phase.pastClaim = true) : StoreTransition cfg s a (s.setUpsert i v)
  | complete (i : ℕ) (u v : UpsertCall) (hi : s.upserts[i]? = some u) (hinput : v.input = u.input)
      (hpast : u.phase.pastClaim = true) (hended : v.phase = .ended) :
      StoreTransition cfg s (.multi i) { s.setUpsert i v with
        store := hsetExpire s.store (entryKey cfg u.input.identity) u.input.metaFields u.input.ttlSeconds }
  | get (identity : EntryIdentity) : StoreTransition cfg s (.hmget identity)
      { s with gets := s.gets ++ [⟨identity, getPhase (s.store (entryKey cfg identity))⟩] }
  | getRejected (identity : EntryIdentity) : StoreTransition cfg s (.hmgetRejected identity)
      { s with gets := s.gets ++ [⟨identity, .deleting⟩] }
  | getDel (i : ℕ) (identity : EntryIdentity) (hi : s.gets[i]? = some ⟨identity, .deleting⟩) :
      StoreTransition cfg s (.getDel i)
        { s.setGet i ⟨identity, .returned none⟩ with store := del s.store (entryKey cfg identity) }
  | getDelRejected (i : ℕ) (identity : EntryIdentity) (hi : s.gets[i]? = some ⟨identity, .deleting⟩) :
      StoreTransition cfg s (.getDelRejected i) (s.setGet i ⟨identity, .returned none⟩)
  | search (input : KnnInput) (docs : List SearchDoc) (hdocs : docs.all (searchable cfg s.store input) = true) :
      StoreTransition cfg s (.search input docs)
        { s with knns := s.knns ++ [⟨input, (parseKnnHits s.store docs).1, (parseKnnHits s.store docs).2⟩] }
  | knnDel (i : ℕ) (input : KnnInput) (hits : List VectorSearchHit) (key : String) (keys : List String)
      (hi : s.knns[i]? = some ⟨input, hits, key :: keys⟩) :
      StoreTransition cfg s (.knnDel i) { s.setKnn i ⟨input, hits, keys⟩ with store := del s.store key }
  | knnDelRejected (i : ℕ) (input : KnnInput) (hits : List VectorSearchHit) (key : String) (keys : List String)
      (hi : s.knns[i]? = some ⟨input, hits, key :: keys⟩) :
      StoreTransition cfg s (.knnDelRejected i) (s.setKnn i ⟨input, hits, keys⟩)
  | lose (a : StoreAction) (key : String) (ha : a = .expire key ∨ a = .evict key) :
      StoreTransition cfg s a { s with store := del s.store key }

theorem storeStep_transition {cfg : StoreConfig} {s s' : StoreState} {a : StoreAction}
    (h : storeStep cfg s a = some s') : StoreTransition cfg s a s' := by
  cases a with
  | upsert input =>
    cases h
    apply StoreTransition.start
    split <;> rfl
  | hsetnx i =>
    unfold storeStep at h
    dsimp only at h
    split at h
    · next input retried hi => cases h; exact .claim i input retried hi _
    · cases h
  | hexists i =>
    unfold storeStep at h
    dsimp only at h
    split at h
    · next input retried hi => cases h; exact .move _ i _ _ hi rfl (fun _ => rfl)
    · cases h
  | ttl i =>
    unfold storeStep at h
    dsimp only at h
    split at h
    · next input hasVector retried hi => cases h; exact .move _ i _ _ hi rfl (fun _ => rfl)
    · cases h
  -- MULTI completes an entry that was claimed just now, or one that is healed.
  | multi i =>
    unfold storeStep at h
    dsimp only at h
    split at h
    · next input retried hi =>
      cases h
      exact .complete i ⟨input, .claimed, retried⟩ ⟨input, .ended, retried⟩ hi rfl rfl rfl
    · next input retried hi =>
      cases h
      exact .complete i ⟨input, .healing, retried⟩ ⟨input, .ended, retried⟩ hi rfl rfl rfl
    · cases h
  -- A missing index is created once and the upsert starts over; any other rejection ends it.
  | rejected i missingIndex =>
    unfold storeStep at h
    dsimp only at h
    split at h
    · next input phase retried hi =>
      split at h
      · cases h
      · split at h
        · cases h; exact .move _ i _ _ hi rfl (fun hp => by cases hp)
        · cases h; exact .move _ i _ _ hi rfl (fun hp => by cases hp)
    · cases h
  | crash i =>
    unfold storeStep at h
    dsimp only at h
    split at h
    · next input phase retried hi => cases h; exact .move _ i _ _ hi rfl (fun hp => by cases hp)
    · cases h
  | hmget identity => cases h; exact .get identity
  | hmgetRejected identity => cases h; exact .getRejected identity
  | getDel i =>
    unfold storeStep at h
    dsimp only at h
    split at h
    · next identity hi => cases h; exact .getDel i identity hi
    · cases h
  | getDelRejected i =>
    unfold storeStep at h
    dsimp only at h
    split at h
    · next identity hi => cases h; exact .getDelRejected i identity hi
    · cases h
  | search input docs =>
    unfold storeStep at h
    dsimp only at h
    split at h
    · next hdocs => cases h; exact .search input docs hdocs.1
    · cases h
  | knnDel i =>
    unfold storeStep at h
    dsimp only at h
    split at h
    · next input hits key keys hi => cases h; exact .knnDel i input hits key keys hi
    · cases h
  | knnDelRejected i =>
    unfold storeStep at h
    dsimp only at h
    split at h
    · next input hits key keys hi => cases h; exact .knnDelRejected i input hits key keys hi
    · cases h
  | expire key =>
    unfold storeStep at h
    dsimp only at h
    split at h
    · cases h; exact .lose _ key (.inl rfl)
    · cases h
  | evict key => cases h; exact .lose _ key (.inr rfl)

def StoreState.inputs (s : StoreState) : List UpsertInput := s.upserts.map UpsertCall.input

/-- The four things a command does to the hashes. -/
inductive StoreMove (cfg : StoreConfig) (inputs : List UpsertInput) (store : Store) : Store → Prop where
  | same : StoreMove cfg inputs store store
  | remove (key : String) : StoreMove cfg inputs store (del store key)
  | claim (u : UpsertInput) (hu : u ∈ inputs) : StoreMove cfg inputs store
      (hsetnx store (entryKey cfg u.identity) (writeCachedReply u.reply)).1
  | complete (u : UpsertInput) (hu : u ∈ inputs) : StoreMove cfg inputs store
      (hsetExpire store (entryKey cfg u.identity) u.metaFields u.ttlSeconds)

structure StepSpec (cfg : StoreConfig) (s : StoreState) (a : StoreAction) (s' : StoreState) : Prop where
  store : StoreMove cfg s.inputs s.store s'.store
  inputs : ∀ u ∈ s.inputs, u ∈ s'.inputs
  newInputs : ∀ u ∈ s'.inputs, u ∈ s.inputs ∨ a = .upsert u
  gets : ∀ g ∈ s'.gets, g ∈ s.gets ∨ g.phase = getPhase (s.store (entryKey cfg g.identity)) ∨
    ∀ r, g.phase ≠ .returned (some r)
  knns : ∀ q ∈ s'.knns, (∃ q₀ ∈ s.knns, q₀.input = q.input ∧ q₀.hits = q.hits) ∨
    ∃ docs, docs.all (searchable cfg s.store q.input) = true ∧ q.hits = (parseKnnHits s.store docs).1

variable {cfg : StoreConfig} {s s' : StoreState} {a : StoreAction}

theorem mem_inputs {i : ℕ} {u : UpsertCall} (h : s.upserts[i]? = some u) : u.input ∈ s.inputs :=
  List.mem_map_of_mem (List.mem_of_getElem? h)

/-- An upsert moves to another phase: its input stays. -/
theorem inputs_setUpsert {i : ℕ} {u v : UpsertCall} (h : s.upserts[i]? = some u)
    (hinput : v.input = u.input) : (s.setUpsert i v).inputs = s.inputs := by
  simp only [StoreState.inputs, StoreState.setUpsert, List.map_set, hinput]
  have hmap : (s.upserts.map UpsertCall.input)[i]? = some u.input := by simp [h]
  obtain ⟨hi, hu⟩ := List.getElem?_eq_some_iff.mp hmap
  rw [← hu, List.set_getElem_self]

/-- A step of an upsert, whatever it does to the store. -/
theorem StepSpec.ofUpsert {i : ℕ} {u v : UpsertCall} {store : Store} (h : s.upserts[i]? = some u)
    (hinput : v.input = u.input) (hstore : StoreMove cfg s.inputs s.store store) :
    StepSpec cfg s a { s.setUpsert i v with store := store } := by
  have hsame : ({ s.setUpsert i v with store := store } : StoreState).inputs = s.inputs :=
    inputs_setUpsert h hinput
  refine ⟨hstore, ?_, ?_, fun g hg => .inl hg, fun q hq => .inl ⟨q, hq, rfl, rfl⟩⟩
  · intro w hw
    rw [hsame]
    exact hw
  · intro w hw
    rw [hsame] at hw
    exact .inl hw

/-- A lookup that starts. -/
theorem StepSpec.ofNewGet {g : GetCall} (hg : g.phase = getPhase (s.store (entryKey cfg g.identity)) ∨
    ∀ r, g.phase ≠ .returned (some r)) : StepSpec cfg s a { s with gets := s.gets ++ [g] } := by
  refine ⟨.same, fun _ hu => hu, fun _ hu => .inl hu, ?_, fun q hq => .inl ⟨q, hq, rfl, rfl⟩⟩
  intro g' hg'
  rcases List.mem_append.mp hg' with hg' | hg'
  · exact .inl hg'
  · obtain rfl := List.mem_singleton.mp hg'
    exact .inr hg

/-- A step of a lookup that has no reply to return. -/
theorem StepSpec.ofGet {i : ℕ} {identity : EntryIdentity} {store : Store}
    (hstore : StoreMove cfg s.inputs s.store store) :
    StepSpec cfg s a { s.setGet i ⟨identity, .returned none⟩ with store := store } := by
  refine ⟨hstore, fun _ hu => hu, fun _ hu => .inl hu, ?_, fun q hq => .inl ⟨q, hq, rfl, rfl⟩⟩
  intro g hg
  rcases List.mem_or_eq_of_mem_set hg with hg | rfl
  · exact .inl hg
  · exact .inr (.inr (by simp))

/-- A search that goes on with its deletions. -/
theorem StepSpec.ofKnn {i : ℕ} {q : KnnCall} {keys : List String} {store : Store}
    (h : s.knns[i]? = some q) (hstore : StoreMove cfg s.inputs s.store store) :
    StepSpec cfg s a { s.setKnn i { q with corruptKeys := keys } with store := store } := by
  refine ⟨hstore, fun _ hu => hu, fun _ hu => .inl hu, fun g hg => .inl hg, ?_⟩
  intro p hp
  rcases List.mem_or_eq_of_mem_set hp with hp | rfl
  · exact .inl ⟨p, hp, rfl, rfl⟩
  · exact .inl ⟨q, List.mem_of_getElem? h, rfl, rfl⟩

theorem StepSpec.ofRemove (key : String) : StepSpec cfg s a { s with store := del s.store key } :=
  ⟨.remove key, fun _ hu => hu, fun _ hu => .inl hu, fun _ hg => .inl hg, fun q hq => .inl ⟨q, hq, rfl, rfl⟩⟩

theorem storeStep_spec (h : storeStep cfg s a = some s') : StepSpec cfg s a s' := by
  cases storeStep_transition h with
  | start input phase hphase =>
    refine ⟨.same, ?_, ?_, fun g hg => .inl hg, fun q hq => .inl ⟨q, hq, rfl, rfl⟩⟩
    · intro u hu
      simp only [StoreState.inputs, List.map_append, List.mem_append]
      exact .inl hu
    · intro u hu
      simp only [StoreState.inputs, List.map_append, List.mem_append, List.map_cons, List.map_nil,
        List.mem_singleton] at hu
      rcases hu with hu | rfl
      · exact .inl hu
      · exact .inr rfl
  | claim i input retried hi phase => exact .ofUpsert hi rfl (.claim input (mem_inputs hi))
  | move _ i u v hi hinput hphase => exact .ofUpsert hi hinput .same
  | complete i u v hi hinput hpast hended => exact .ofUpsert hi hinput (.complete u.input (mem_inputs hi))
  | get identity => exact .ofNewGet (.inl rfl)
  | getRejected identity => exact .ofNewGet (.inr (by simp))
  | getDel i identity hi => exact .ofGet (.remove _)
  | getDelRejected i identity hi => exact .ofGet .same
  -- The hits are read at once; what is still to come are the DELs of the corrupt keys.
  | search input docs hdocs =>
    refine ⟨.same, fun _ hu => hu, fun _ hu => .inl hu, fun g hg => .inl hg, ?_⟩
    intro q hq
    rcases List.mem_append.mp hq with hq | hq
    · exact .inl ⟨q, hq, rfl, rfl⟩
    · obtain rfl := List.mem_singleton.mp hq
      exact .inr ⟨docs, hdocs, rfl⟩
  | knnDel i input hits key keys hi => exact .ofKnn hi (.remove key)
  | knnDelRejected i input hits key keys hi => exact .ofKnn hi .same
  | lose _ key ha => exact .ofRemove key

/-! ## The commands on one hash -/

variable {store store' : Store} {key k text : String} {e : Entry}

theorem del_entry (h : del store key k = some e) : k ≠ key ∧ store k = some e := by
  rcases Table.update_cases (P := (· = some e)) h with hother | ⟨-, hnone⟩
  · exact hother
  · cases hnone

theorem hsetExpire_entry {fields : MetaFields} {ttl : ℕ} (h : hsetExpire store key fields ttl k = some e) :
    (k ≠ key ∧ store k = some e) ∨
      (k = key ∧ e = ⟨(store k).bind Entry.reply, some fields, some ttl⟩) := by
  rcases Table.update_cases (P := (· = some e)) h with hother | ⟨rfl, hnew⟩
  · exact .inl hother
  · exact .inr ⟨rfl, (Option.some.inj hnew).symm⟩

/-- `HSETNX` leaves a hash alone or gives a hash without reply its reply. -/
theorem hsetnx_entry (h : (hsetnx store key text).1 k = some e) :
    store k = some e ∨
      (k = key ∧ (store k).bind Entry.reply = none ∧ e.reply = some text ∧
        e.fields = (store k).bind Entry.fields ∧ e.ttl = (store k).bind Entry.ttl) := by
  unfold hsetnx at h
  split at h
  · next hnone =>
    rcases Table.update_cases (P := (· = some e)) h with ⟨-, hold⟩ | ⟨rfl, hnew⟩
    · exact .inl hold
    · obtain rfl := Option.some.inj hnew
      exact .inr ⟨rfl, by rw [hnone]; rfl, rfl, by rw [hnone]; rfl, by rw [hnone]; rfl⟩
  · next e₀ he₀ =>
    split at h
    · next hreply =>
      rcases Table.update_cases (P := (· = some e)) h with ⟨-, hold⟩ | ⟨rfl, hnew⟩
      · exact .inl hold
      · obtain rfl := Option.some.inj hnew
        exact .inr ⟨rfl, by rw [he₀]; exact hreply, rfl, by rw [he₀]; rfl, by rw [he₀]; rfl⟩
    · exact .inl h

/-! ## The hashes hold what upserts wrote -/

structure StoreInv (cfg : StoreConfig) (inputs : List UpsertInput) (store : Store) : Prop where
  reply : ∀ k e text, store k = some e → e.reply = some text →
    ∃ u ∈ inputs, entryKey cfg u.identity = k ∧ text = writeCachedReply u.reply
  fields : ∀ k e f, store k = some e → e.fields = some f →
    e.ttl.isSome = true ∧ ∃ u ∈ inputs, entryKey cfg u.identity = k ∧ f = u.metaFields

theorem StoreInv.mono {inputs inputs' : List UpsertInput} (h : StoreInv cfg inputs store)
    (hsub : ∀ u ∈ inputs, u ∈ inputs') : StoreInv cfg inputs' store := by
  refine ⟨?_, ?_⟩
  · intro k e text he ht
    obtain ⟨u, hu, hkey, htext⟩ := h.reply k e text he ht
    exact ⟨u, hsub u hu, hkey, htext⟩
  · intro k e f he hf
    obtain ⟨httl, u, hu, hkey, hfields⟩ := h.fields k e f he hf
    exact ⟨httl, u, hsub u hu, hkey, hfields⟩

theorem StoreInv.move {inputs : List UpsertInput} (h : StoreInv cfg inputs store)
    (hmove : StoreMove cfg inputs store store') : StoreInv cfg inputs store' := by
  cases hmove with
  | same => exact h
  | remove key =>
    refine ⟨?_, ?_⟩
    · intro k e text he
      exact h.reply k e text (del_entry he).2
    · intro k e f he
      exact h.fields k e f (del_entry he).2
  | claim u hu =>
    refine ⟨?_, ?_⟩
    · intro k e text he ht
      rcases hsetnx_entry he with he | ⟨rfl, -, hreply, -⟩
      · exact h.reply k e text he ht
      · rw [hreply] at ht
        exact ⟨u, hu, rfl, (Option.some.inj ht).symm⟩
    · intro k e f he hf
      rcases hsetnx_entry he with he | ⟨rfl, -, -, hfields, httl⟩
      · exact h.fields k e f he hf
      · -- the fields and the expiry are those of the hash before
        rw [hf] at hfields
        obtain ⟨e₀, he₀, hf₀⟩ := Option.bind_eq_some_iff.mp hfields.symm
        rw [httl, he₀]
        exact h.fields _ e₀ f he₀ hf₀
  | complete u hu =>
    refine ⟨?_, ?_⟩
    · intro k e text he ht
      rcases hsetExpire_entry he with ⟨-, he⟩ | ⟨rfl, rfl⟩
      · exact h.reply k e text he ht
      · obtain ⟨e₀, he₀, ht₀⟩ := Option.bind_eq_some_iff.mp ht
        exact h.reply _ e₀ text he₀ ht₀
    · intro k e f he hf
      rcases hsetExpire_entry he with ⟨-, he⟩ | ⟨rfl, rfl⟩
      · exact h.fields k e f he hf
      · cases hf
        exact ⟨rfl, u, hu, rfl, rfl⟩

theorem getPhase_returned {o : Option Entry} {r : CachedChatResponse}
    (h : getPhase o = .returned (some r)) :
    ∃ e text, o = some e ∧ e.reply = some text ∧ readCachedReply text = some r := by
  unfold getPhase at h
  split at h
  · next text fields ht hf =>
    obtain ⟨e, rfl, hreply⟩ := Option.bind_eq_some_iff.mp ht
    split at h
    · cases h
    · split at h
      · next r' hr =>
        cases h
        exact ⟨e, text, rfl, hreply, hr⟩
      · cases h
  · cases h

theorem mem_parseKnnHits {docs : List SearchDoc} {hit : VectorSearchHit}
    (h : hit ∈ (parseKnnHits store docs).1) :
    ∃ doc ∈ docs, ∃ e text, store doc.key = some e ∧ e.reply = some text ∧
      readCachedReply text = some hit.reply := by
  induction docs with
  | nil => simp [parseKnnHits] at h
  | cons doc docs ih =>
    have later : hit ∈ (parseKnnHits store docs).1 → ∃ d ∈ doc :: docs, ∃ e text,
        store d.key = some e ∧ e.reply = some text ∧ readCachedReply text = some hit.reply := by
      intro h
      obtain ⟨d, hd, hrest⟩ := ih h
      exact ⟨d, List.mem_cons_of_mem _ hd, hrest⟩
    simp only [parseKnnHits] at h
    split at h
    · exact later h
    · next reply hreply =>
      split at h
      · exact later h
      · next dist hdist =>
        rcases List.mem_cons.mp h with rfl | h
        · obtain ⟨text, ht, hread⟩ := Option.bind_eq_some_iff.mp hreply
          obtain ⟨e, he, het⟩ := Option.bind_eq_some_iff.mp (Option.filter_eq_some_iff.mp ht).1
          exact ⟨doc, List.mem_cons_self, e, text, he, het, hread⟩
        · exact later h

theorem searchable_fields {q : KnnInput} {doc : SearchDoc} (h : searchable cfg store q doc = true)
    (he : store doc.key = some e) : ∃ f, e.fields = some f ∧ f.tags.foundBy cfg q.tags = true := by
  simp only [searchable, Bool.and_eq_true, Option.any_eq_true, he, Option.bind_some] at h
  obtain ⟨-, f, hf, htags⟩ := h
  exact ⟨f, hf, htags⟩

/-- The tags of a text in a TAG field without a `SEPARATOR` of its own, for texts without blanks
at their ends. -/
def tagsAtCommas (field : String) : List String := ((field.toList.splitOn ',').map String.ofList).filter (· ≠ "")

/-- Keys in clear text, for the runs below. -/
def plainConfig : StoreConfig := ⟨fun m => m, fun t => t, tagsAtCommas⟩

def capitalUpsert : UpsertInput where
  identity := ⟨⟨"Team-A", "chat-default", "qwen3-embedding:0.6b", "s", "p"⟩, "Capital of France?"⟩
  vector := [1065353216]
  reply :=
    { id := "gw_1", provider := "openai", model := "chat-default", text := "Paris"
      finishReason := .stop, usage := none, warnings := none, thinkingContent := none
      effectiveModelAlias := none, usageDetails := none, systemFingerprint := none
      cachedAt := "2025-01-01T00:00:00.000Z" }
  ttlSeconds := 3600

/-- The state after an upsert that nothing interrupts. -/
def upserted (cfg : StoreConfig) (u : UpsertInput) : StoreState where
  store := Function.update (fun _ => none) (entryKey cfg u.identity)
    (some ⟨some (writeCachedReply u.reply), some u.metaFields, some u.ttlSeconds⟩)
  upserts := [⟨u, .ended, false⟩]
  gets := []
  knns := []

/-- The key that an action removes. -/
def removedKey (cfg : StoreConfig) (s : StoreState) : StoreAction → Option String
  | .getDel i => s.gets[i]?.map fun g => entryKey cfg g.identity
  | .knnDel i => s.knns[i]?.bind fun q => q.corruptKeys.head?
  | .expire key | .evict key => some key
  | _ => none

/-- No key is lost under an upsert that is past its claim. -/
def KeepsClaimed (cfg : StoreConfig) (s : StoreState) (a : StoreAction) : Prop :=
  ∀ u ∈ s.upserts, u.phase.pastClaim = true → removedKey cfg s a ≠ some (entryKey cfg u.input.identity)

instance (cfg : StoreConfig) (s : StoreState) (a : StoreAction) : Decidable (KeepsClaimed cfg s a) :=
  inferInstanceAs (Decidable (∀ u ∈ s.upserts, _ → _))

def hasReply (store : Store) (key : String) : Bool := ((store key).bind Entry.reply).isSome

def VectorHasReply (store : Store) : Prop :=
  ∀ k e, store k = some e → e.fields.isSome = true → e.reply.isSome = true

/-- A claimed hash keeps its reply until its upsert has finished. -/
structure ClaimInv (cfg : StoreConfig) (s : StoreState) : Prop where
  vector_reply : VectorHasReply s.store
  claimed : ∀ u ∈ s.upserts, u.phase.pastClaim = true →
    hasReply s.store (entryKey cfg u.input.identity) = true

theorem hasReply_hsetnx_self : hasReply (hsetnx store key text).1 key = true := by
  unfold hsetnx
  split
  · simp [hasReply]
  · next e he =>
    split
    · simp [hasReply]
    · next t ht => simp [hasReply, he, ht]

theorem hasReply_hsetnx (h : hasReply store k = true) : hasReply (hsetnx store key text).1 k = true := by
  by_cases hk : k = key
  · subst hk
    exact hasReply_hsetnx_self
  · have hsame : (hsetnx store key text).1 k = store k := by
      unfold hsetnx
      split
      · exact Function.update_of_ne hk _ _
      · split
        · exact Function.update_of_ne hk _ _
        · rfl
    rw [hasReply, hsame]
    exact h

theorem hasReply_hsetExpire {fields : MetaFields} {ttl : ℕ} :
    hasReply (hsetExpire store key fields ttl) k = hasReply store k := by
  unfold hasReply hsetExpire
  by_cases hk : k = key
  · subst hk
    rw [Function.update_self]
    rfl
  · rw [Function.update_of_ne hk]

theorem vectorHasReply_hsetnx (h : VectorHasReply store) : VectorHasReply (hsetnx store key text).1 := by
  intro k e he hf
  rcases hsetnx_entry he with he | ⟨-, -, hreply, -⟩
  · exact h k e he hf
  · rw [hreply]
    rfl

/-- `MULTI` on a hash that has its reply. On a missing hash it would write a vector alone. -/
theorem vectorHasReply_hsetExpire {fields : MetaFields} {ttl : ℕ} (h : VectorHasReply store)
    (hkey : hasReply store key = true) : VectorHasReply (hsetExpire store key fields ttl) := by
  intro k e he hf
  rcases hsetExpire_entry he with ⟨-, he⟩ | ⟨rfl, rfl⟩
  · exact h k e he hf
  · exact hkey

/-- An upsert moves on; no reply is lost, and its own is there if it is past its claim. -/
theorem ClaimInv.setUpsert {i : ℕ} {v : UpsertCall} {store : Store} (h : ClaimInv cfg s)
    (hvector : VectorHasReply store) (hmono : ∀ k, hasReply s.store k = true → hasReply store k = true)
    (hown : v.phase.pastClaim = true → hasReply store (entryKey cfg v.input.identity) = true) :
    ClaimInv cfg { s.setUpsert i v with store := store } := by
  refine ⟨hvector, ?_⟩
  intro u hu hphase
  rcases List.mem_or_eq_of_mem_set hu with hu | rfl
  · exact hmono _ (h.claimed u hu hphase)
  · exact hown hphase

theorem ClaimInv.remove {a : StoreAction} (h : ClaimInv cfg s) (hkeep : KeepsClaimed cfg s a)
    (hkey : removedKey cfg s a = some key) (hupserts : s'.upserts = s.upserts)
    (hstore : s'.store = del s.store key) : ClaimInv cfg s' := by
  refine ⟨?_, ?_⟩
  · intro k e he
    rw [hstore] at he
    exact h.vector_reply k e (del_entry he).2
  · intro u hu hphase
    rw [hupserts] at hu
    have hne : entryKey cfg u.input.identity ≠ key := by
      intro heq
      exact hkeep u hu hphase (by rw [hkey, heq])
    rw [hstore, hasReply, del, Function.update_of_ne hne]
    exact h.claimed u hu hphase

theorem ClaimInv.frame (h : ClaimInv cfg s) (hupserts : s'.upserts = s.upserts)
    (hstore : s'.store = s.store) : ClaimInv cfg s' := by
  refine ⟨?_, ?_⟩
  · rw [hstore]
    exact h.vector_reply
  · rw [hstore, hupserts]
    exact h.claimed

/-- An upsert that is past its claim has its reply, so `MULTI` adds a vector to a reply. -/
theorem ClaimInv.complete {i : ℕ} {u v : UpsertCall} (h : ClaimInv cfg s) (hi : s.upserts[i]? = some u)
    (hpast : u.phase.pastClaim = true) (hended : v.phase = .ended) :
    ClaimInv cfg { s.setUpsert i v with
      store := hsetExpire s.store (entryKey cfg u.input.identity) u.input.metaFields u.input.ttlSeconds } := by
  have hreply := h.claimed u (List.mem_of_getElem? hi) hpast
  apply h.setUpsert (vectorHasReply_hsetExpire h.vector_reply hreply)
  · intro k hk
    rw [hasReply_hsetExpire]
    exact hk
  · rw [hended]
    intro hp
    cases hp

theorem storeStep_claimInv {a : StoreAction} (h : ClaimInv cfg s) (hkeep : KeepsClaimed cfg s a)
    (hstep : storeStep cfg s a = some s') : ClaimInv cfg s' := by
  cases storeStep_transition hstep with
  | start input phase hphase =>
    refine ⟨h.vector_reply, ?_⟩
    intro u hu hpast
    rcases List.mem_append.mp hu with hu | hu
    · exact h.claimed u hu hpast
    · obtain rfl := List.mem_singleton.mp hu
      rw [hphase] at hpast
      cases hpast
  | claim i input retried hi phase =>
    exact h.setUpsert (vectorHasReply_hsetnx h.vector_reply) (fun _ => hasReply_hsetnx)
      (fun _ => hasReply_hsetnx_self)
  | move _ i u v hi hinput hphase =>
    apply h.setUpsert h.vector_reply (fun _ hk => hk)
    intro hpast
    rw [hinput]
    exact h.claimed u (List.mem_of_getElem? hi) (hphase hpast)
  -- The claim of this writer is still there, so that the vector goes beside a reply.
  | complete i u v hi hinput hpast hended => exact h.complete hi hpast hended
  | get identity => exact h.frame rfl rfl
  | getRejected identity => exact h.frame rfl rfl
  | getDel i identity hi => exact h.remove hkeep (by simp [removedKey, hi]) rfl rfl
  | getDelRejected i identity hi => exact h.frame rfl rfl
  | search input docs hdocs => exact h.frame rfl rfl
  | knnDel i input hits key keys hi => exact h.remove hkeep (by simp [removedKey, hi]) rfl rfl
  | knnDelRejected i input hits key keys hi => exact h.frame rfl rfl
  | lose _ key ha =>
    rcases ha with rfl | rfl
    · exact h.remove hkeep rfl rfl rfl
    · exact h.remove hkeep rfl rfl rfl

theorem vector_has_reply (cfg : StoreConfig) (acts : List StoreAction) (s : StoreState)
    (hkeep : Runs.Along (storeStep cfg) (KeepsClaimed cfg) .initial acts)
    (hrun : Runs.run (storeStep cfg) .initial acts = some s) : VectorHasReply s.store := by
  have hinit : ClaimInv cfg .initial := by
    refine ⟨?_, ?_⟩ <;> simp [StoreState.initial, VectorHasReply]
  have hinv : ClaimInv cfg s :=
    Runs.run_invariant_along (fun _ _ _ h hk hs => storeStep_claimInv h hk hs) hinit hkeep hrun
  exact hinv.vector_reply

/-- Two upserts of one question: the second finds the hash complete. -/
theorem vector_has_reply_two_upserts :
    ∃ s, Runs.run (storeStep plainConfig) .initial
        [.upsert capitalUpsert, .upsert capitalUpsert, .hsetnx 0, .hsetnx 1, .multi 0, .hexists 1,
          .ttl 1, .expire (entryKey plainConfig capitalUpsert.identity)] = some s ∧
      VectorHasReply s.store := by
  obtain ⟨s, hs⟩ : ∃ s, Runs.run (storeStep plainConfig) .initial
      [.upsert capitalUpsert, .upsert capitalUpsert, .hsetnx 0, .hsetnx 1, .multi 0, .hexists 1,
        .ttl 1, .expire (entryKey plainConfig capitalUpsert.identity)] = some s := ⟨_, rfl⟩
  exact ⟨s, hs, vector_has_reply _ _ s (by decide) hs⟩

/-- The hash expires after the second upsert's `HSETNX` has found it: the heal then writes a
vector and an expiry into a new hash, which has no reply. -/
theorem heal_creates_vector_only :
    ¬ ∀ (cfg : StoreConfig) (acts : List StoreAction) (s : StoreState),
      Runs.run (storeStep cfg) .initial acts = some s → VectorHasReply s.store := by
  intro h
  have hrun := h plainConfig
    [.upsert capitalUpsert, .hsetnx 0, .multi 0, .upsert capitalUpsert, .hsetnx 1,
      .expire (entryKey plainConfig capitalUpsert.identity), .hexists 1, .ttl 1, .multi 1] _ rfl
  have hreply := hrun (entryKey plainConfig capitalUpsert.identity)
    ⟨none, some capitalUpsert.metaFields, some 3600⟩ rfl rfl
  cases hreply

end AiGateway
