import AiGateway.Chat.CachePipeline

/- Whose replies a request may get from the caches. A client is known to the caches by its
   `name`, which the configuration schema asks nothing of but that it is not empty; the exact
   key hashes the name inside a JSON text, the semantic key hashes it in front of a `|`, and
   the search filters by it.

   `caches_isolate`: in every run of requests of two clients with distinct keys, no reply that
   a request of one has stored is returned to a request of the other, provided that their
   names differ and that no request of one has the `|`-joined identity of a request of the
   other. `shared_name_shares_cache` is the run of two clients of one name. -/
namespace AiGateway

/-- A request with these arguments has stored the reply. -/
def CacheSystem.Stored (s : CacheSystem) (input : ExecuteInput) (r : CachedChatResponse) : Prop :=
  ∃ c ∈ s.calls, c.input = input ∧ c.stored = some r

/-- How a reply comes to a request: from the entry of its exact key, from the hash of its
text, or from a hash that the filter of its search matches. A hash may have been claimed by
one upsert and completed by another of the same key. -/
inductive Served (cfg : CacheConfig) (s : CacheSystem) (c : ExecuteInput) (r : CachedChatResponse) : Prop where
  | exact (d : ExecuteInput) (hd : s.Stored d r) (hkey : d.key cfg.identity = c.key cfg.identity)
  | text (d : ExecuteInput) (hd : s.Stored d r) (i j : EntryIdentity) (hi : semanticIdentity cfg d = some i)
      (hj : semanticIdentity cfg c = some j) (hkey : entryKey cfg.store i = entryKey cfg.store j)
  | vector (d v : ExecuteInput) (r' : CachedChatResponse) (hd : s.Stored d r) (hv : s.Stored v r')
      (i j : EntryIdentity) (hi : semanticIdentity cfg d = some i) (hj : semanticIdentity cfg v = some j)
      (hkey : entryKey cfg.store i = entryKey cfg.store j)
      (htags : j.tags.foundBy cfg.store (semanticTags cfg c) = true)

/-- The request has not been answered yet. -/
def CachePhase.early : CachePhase → Bool
  | .exactGet | .textGet | .searching | .answering => true
  | _ => false

def CachePhase.looking : CachePhase → Bool
  | .exactGet | .textGet | .searching => true
  | _ => false

structure CallInv (cfg : CacheConfig) (s : CacheSystem) (c : CacheCall) : Prop where
  auth : c.input.clientId = resolveClientIdFromKey c.input.gatewayKey cfg.clients
  early : c.phase.early = true → c.stored = none
  looking : c.phase.looking = true → c.input.cacheable cfg.gateway = true
  pending : ∀ r, c.phase = .exactSet r ∨ c.phase = .upserting r → c.stored = some r
  storer : ∀ r, c.stored = some r → c.input.cacheable cfg.gateway = true
  returned : ∀ r, c.returned = some r → Served cfg s c.input r

/-- Replies of different requests have different ids. -/
def UniqueIds (calls : List CacheCall) : Prop :=
  ∀ (i j : ℕ) (c d : CacheCall) (r r' : CachedChatResponse), calls[i]? = some c → calls[j]? = some d →
    c.stored = some r → d.stored = some r' → r.id = r'.id → i = j

structure CacheInv (cfg : CacheConfig) (s : CacheSystem) : Prop where
  exact : ∀ k text, s.exact k = some text →
    ∃ d r, s.Stored d r ∧ text = writeCachedReply r ∧ d.key cfg.identity = k
  semantic : StoreInv cfg.store s.semantic.inputs s.semantic.store
  inputs : ∀ u ∈ s.semantic.inputs, ∃ d, s.Stored d u.reply ∧ semanticIdentity cfg d = some u.identity
  calls : ∀ c ∈ s.calls, CallInv cfg s c
  unique : UniqueIds s.calls

variable {cfg : CacheConfig} {s s' : CacheSystem}

theorem cacheInv_initial : CacheInv cfg .initial := by
  refine ⟨?_, ⟨?_, ?_⟩, ?_, ?_, ?_⟩ <;> simp [CacheSystem.initial, StoreState.initial, StoreState.inputs, UniqueIds]

/-! ## What is stored stays stored -/

theorem Served.mono {c : ExecuteInput} {r : CachedChatResponse} (h : Served cfg s c r)
    (hgrows : ∀ d r, s.Stored d r → s'.Stored d r) : Served cfg s' c r := by
  cases h with
  | exact d hd hkey => exact .exact d (hgrows _ _ hd) hkey
  | text d hd i j hi hj hkey => exact .text d (hgrows _ _ hd) i j hi hj hkey
  | vector d v r' hd hv i j hi hj hkey htags =>
    exact .vector d v r' (hgrows _ _ hd) (hgrows _ _ hv) i j hi hj hkey htags

theorem CallInv.mono {c : CacheCall} (h : CallInv cfg s c)
    (hgrows : ∀ d r, s.Stored d r → s'.Stored d r) : CallInv cfg s' c :=
  ⟨h.auth, h.early, h.looking, h.pending, h.storer, fun r hr => (h.returned r hr).mono hgrows⟩

/-- The move of one request: it keeps its arguments and what it has stored, or stores its
first reply, under a fresh id. -/
structure CallMove (s : CacheSystem) (i : ℕ) (c c' : CacheCall) : Prop where
  here : s.calls[i]? = some c
  input : c'.input = c.input
  stored : c'.stored = c.stored ∨ c.stored = none ∧ ∃ r, c'.stored = some r ∧ s.freshId r.id = true

theorem CallMove.grows {i : ℕ} {c c' : CacheCall} (h : CallMove s i c c')
    (hcalls : s'.calls = s.calls.set i c') {d : ExecuteInput} {r : CachedChatResponse} (hd : s.Stored d r) :
    s'.Stored d r := by
  obtain ⟨e, he, hinput, hstored⟩ := hd
  obtain ⟨j, hj⟩ := List.mem_iff_getElem?.mp he
  have hlen := (List.getElem?_eq_some_iff.mp h.here).1
  by_cases hij : i = j
  · -- the request that moves has its reply still
    subst hij
    rw [h.here] at hj
    cases hj
    have hc' : c' ∈ s'.calls := by
      rw [hcalls]
      exact List.mem_iff_getElem?.mpr ⟨i, by simp [hlen]⟩
    rcases h.stored with hs | ⟨hnone, -⟩
    · exact ⟨c', hc', h.input.trans hinput, hs.trans hstored⟩
    · rw [hnone] at hstored
      cases hstored
  · refine ⟨e, ?_, hinput, hstored⟩
    rw [hcalls]
    apply List.mem_iff_getElem?.mpr
    exact ⟨j, by rw [List.getElem?_set_ne hij]; exact hj⟩

theorem CallMove.unique {i : ℕ} {c c' : CacheCall} (h : CallMove s i c c') (hold : UniqueIds s.calls) :
    UniqueIds (s.calls.set i c') := by
  -- the new reply, if there is one, has an id of its own
  have hfresh : ∀ (n : ℕ) (b : CacheCall) (r r' : CachedChatResponse), n ≠ i → s.calls[n]? = some b → c'.stored = some r →
      b.stored = some r' → r.id ≠ r'.id := by
    intro n b r r' hn hb hr hr' hid
    rcases h.stored with hs | ⟨-, r₀, hr₀, hfresh⟩
    · exact hn (hold i n c b r r' h.here hb (hs ▸ hr) hr' hid).symm
    · rw [hr] at hr₀
      cases hr₀
      have hall := List.all_eq_true.mp hfresh b (List.mem_of_getElem? hb)
      rw [hr'] at hall
      simp [hid] at hall
  intro m n a b r r' hm hn ha hb hid
  rcases Table.getElem?_set_cases hm with ⟨rfl, rfl⟩ | ⟨hmi, hm'⟩
  · rcases Table.getElem?_set_cases hn with ⟨rfl, rfl⟩ | ⟨hni, hn'⟩
    · rfl
    · exact absurd hid (hfresh n b r r' (Ne.symm hni) hn' ha hb)
  · rcases Table.getElem?_set_cases hn with ⟨rfl, rfl⟩ | ⟨hni, hn'⟩
    · exact absurd hid.symm (hfresh m a r' r (Ne.symm hmi) hm' hb ha)
    · exact hold m n a b r r' hm' hn' ha hb hid

theorem CacheInv.update {i : ℕ} {c c' : CacheCall} {exact : String → Option String} {semantic : StoreState}
    (hinv : CacheInv cfg s) (hmove : CallMove s i c c') (hcall : CallInv cfg s c')
    (hexact : ∀ k text, exact k = some text → s.exact k = some text ∨
      ∃ r, c'.stored = some r ∧ text = writeCachedReply r ∧ c'.input.key cfg.identity = k)
    (hsemantic : StoreInv cfg.store semantic.inputs semantic.store)
    (hinputs : ∀ u ∈ semantic.inputs, u ∈ s.semantic.inputs ∨
      c'.stored = some u.reply ∧ semanticIdentity cfg c'.input = some u.identity) :
    CacheInv cfg ⟨exact, semantic, s.calls.set i c'⟩ := by
  -- What was stored stays stored, so that the other calls keep what they know.
  have hgrows : ∀ d r, s.Stored d r → CacheSystem.Stored ⟨exact, semantic, s.calls.set i c'⟩ d r :=
    fun d r hd => hmove.grows rfl hd
  have hlen := (List.getElem?_eq_some_iff.mp hmove.here).1
  have hc' : c' ∈ s.calls.set i c' := List.mem_iff_getElem?.mpr ⟨i, by simp [hlen]⟩
  refine ⟨?_, hsemantic, ?_, ?_, hmove.unique hinv.unique⟩
  · intro k text hk
    rcases hexact k text hk with hk | ⟨r, hr, htext, hkey⟩
    · obtain ⟨d, r, hd, hrest⟩ := hinv.exact k text hk
      exact ⟨d, r, hgrows d r hd, hrest⟩
    · exact ⟨c'.input, r, ⟨c', hc', rfl, hr⟩, htext, hkey⟩
  · intro u hu
    rcases hinputs u hu with hu | ⟨hr, hidentity⟩
    · obtain ⟨d, hd, hidentity⟩ := hinv.inputs u hu
      exact ⟨d, hgrows d _ hd, hidentity⟩
    · exact ⟨c'.input, ⟨c', hc', rfl, hr⟩, hidentity⟩
  · intro d hd
    rcases List.mem_or_eq_of_mem_set hd with hd | rfl
    · exact (hinv.calls d hd).mono hgrows
    · exact hcall.mono hgrows

/-! ## One step -/

theorem storeStep_storeInv {cfg : StoreConfig} {s s' : StoreState} {a : StoreAction}
    (h : StoreInv cfg s.inputs s.store) (hstep : storeStep cfg s a = some s') :
    StoreInv cfg s'.inputs s'.store :=
  (h.move (storeStep_spec hstep).store).mono (storeStep_spec hstep).inputs

/-- A move that stores nothing and leaves the exact cache as it is. -/
theorem CacheInv.quiet {i : ℕ} {c c' : CacheCall} {a : StoreAction} {semantic : StoreState}
    (hinv : CacheInv cfg s) (hi : s.calls[i]? = some c) (hinput : c'.input = c.input)
    (hstored : c'.stored = c.stored) (hcall : CallInv cfg s c')
    (hsem : semantic = s.semantic ∨ storeStep cfg.store s.semantic a = some semantic ∧ ∀ u, a ≠ .upsert u) :
    CacheInv cfg ⟨s.exact, semantic, s.calls.set i c'⟩ := by
  refine hinv.update ⟨hi, hinput, .inl hstored⟩ hcall (fun _ _ hk => .inl hk) ?_ ?_
  · rcases hsem with rfl | ⟨hstep, -⟩
    · exact hinv.semantic
    · exact storeStep_storeInv hinv.semantic hstep
  · intro u hu
    rcases hsem with rfl | ⟨hstep, hno⟩
    · exact .inl hu
    · rcases (storeStep_spec hstep).newInputs u hu with hu | rfl
      · exact .inl hu
      · exact absurd rfl (hno u)

/-- The three lookups: a reply found is a reply served. -/
theorem CacheInv.looked {i : ℕ} {c : CacheCall} {reply : Option CachedChatResponse} {phase : CachePhase}
    {a : StoreAction} {semantic : StoreState} (hinv : CacheInv cfg s) (hi : s.calls[i]? = some c)
    (hphase : c.phase.looking = true) (hnext : phase.early = true)
    (hlooking : phase.looking = true → c.phase.looking = true)
    (hserved : ∀ r, reply = some r → Served cfg s c.input r)
    (hsem : semantic = s.semantic ∨ storeStep cfg.store s.semantic a = some semantic ∧ ∀ u, a ≠ .upsert u) :
    CacheInv cfg { s.looked i c reply phase with semantic := semantic } := by
  have hc := hinv.calls c (List.mem_of_getElem? hi)
  have hearly : c.phase.early = true := by
    cases hp : c.phase <;> simp_all [CachePhase.looking, CachePhase.early]
  have hnone := hc.early hearly
  -- With a reply the call is over; without one it looks on, or asks the provider.
  cases reply with
  | some r =>
    refine hinv.quiet hi rfl rfl ⟨hc.auth, ?_, ?_, ?_, hc.storer, ?_⟩ hsem
    · intro h; cases h
    · intro h; cases h
    · intro r' h
      rcases h with h | h <;> cases h
    · intro r' hr'
      cases hr'
      exact hserved r rfl
  | none =>
    refine hinv.quiet hi rfl rfl ⟨hc.auth, fun _ => hnone, ?_, ?_, hc.storer, hc.returned⟩ hsem
    · intro h
      exact hc.looking (hlooking h)
    · intro r h
      have h' : phase = .exactSet r ∨ phase = .upserting r := h
      rcases h' with rfl | rfl <;> cases hnext

/-- A step that changes the phase alone. -/
theorem CacheInv.setPhase {i : ℕ} {c : CacheCall} {phase : CachePhase} (hinv : CacheInv cfg s)
    (hi : s.calls[i]? = some c) (hearly : phase.early = true → c.phase.early = true)
    (hlooking : phase.looking = true → c.phase.looking = true)
    (hpending : ∀ r, phase = .exactSet r ∨ phase = .upserting r → c.phase = .exactSet r) :
    CacheInv cfg (s.setCall i { c with phase := phase }) := by
  have hc := hinv.calls c (List.mem_of_getElem? hi)
  refine hinv.quiet (a := .evict "") hi rfl rfl ⟨hc.auth, ?_, ?_, ?_, hc.storer, hc.returned⟩ (.inl rfl)
  · intro h
    exact hc.early (hearly h)
  · intro h
    exact hc.looking (hlooking h)
  · intro r h
    exact hc.pending r (.inl (hpending r h))

theorem CacheInv.finish {i : ℕ} {c : CacheCall} (hinv : CacheInv cfg s) (hi : s.calls[i]? = some c) :
    CacheInv cfg (s.setCall i { c with phase := .ended }) :=
  hinv.setPhase hi (by simp [CachePhase.early]) (by simp [CachePhase.looking]) (by simp)

theorem CacheInv.exact_served {c : ExecuteInput} {r : CachedChatResponse} (hinv : CacheInv cfg s)
    (h : (s.exact (c.key cfg.identity)).bind readCachedReply = some r) : Served cfg s c r := by
  obtain ⟨text, htext, hread⟩ := Option.bind_eq_some_iff.mp h
  obtain ⟨d, r', hd, rfl, hkey⟩ := hinv.exact _ text htext
  rw [eq_of_readCachedReply hread]
  exact .exact d hd hkey

theorem CacheInv.text_served {c : ExecuteInput} {r : CachedChatResponse} {j : EntryIdentity}
    (hinv : CacheInv cfg s) (hj : semanticIdentity cfg c = some j)
    (h : (getPhase (s.semantic.store (entryKey cfg.store j))).reply = some r) : Served cfg s c r := by
  have hphase : getPhase (s.semantic.store (entryKey cfg.store j)) = .returned (some r) := by
    cases hp : getPhase (s.semantic.store (entryKey cfg.store j)) with
    | returned reply => rw [hp] at h; rw [← h]; rfl
    | deleting => rw [hp] at h; cases h
  obtain ⟨e, text, he, ht, hread⟩ := getPhase_returned hphase
  obtain ⟨u, hu, hkey, rfl⟩ := hinv.semantic.reply _ e text he ht
  obtain ⟨d, hd, hi⟩ := hinv.inputs u hu
  rw [eq_of_readCachedReply hread]
  exact .text d hd u.identity j hi hj hkey

theorem CacheInv.vector_served {c : ExecuteInput} {hit : VectorSearchHit} {docs : List SearchDoc}
    {q : KnnInput} (hinv : CacheInv cfg s) (hq : q.tags = semanticTags cfg c)
    (hdocs : docs.all (searchable cfg.store s.semantic.store q) = true)
    (h : hit ∈ (parseKnnHits s.semantic.store docs).1) : Served cfg s c hit.reply := by
  obtain ⟨doc, hdoc, e, text, he, ht, hread⟩ := mem_parseKnnHits h
  obtain ⟨u, hu, hkey, rfl⟩ := hinv.semantic.reply _ e text he ht
  obtain ⟨d, hd, hi⟩ := hinv.inputs u hu
  -- the fields that the filter has matched were written by an upsert of the same key
  obtain ⟨f, hf, htags⟩ := searchable_fields (List.all_eq_true.mp hdocs doc hdoc) he
  obtain ⟨-, v, hv, hkey', rfl⟩ := hinv.semantic.fields _ e f he hf
  obtain ⟨w, hw, hj⟩ := hinv.inputs v hv
  rw [eq_of_readCachedReply hread]
  exact .vector d w v.reply hd hw u.identity v.identity hi hj (hkey.trans hkey'.symm) (hq ▸ htags)

/-- A request is answered with the reply that its exact key was stored with. -/
theorem getExact_hit {i : ℕ} {input : ExecuteInput} {r : CachedChatResponse}
    {stored : Option CachedChatResponse} (hi : s.calls[i]? = some ⟨input, .exactGet, none, stored⟩)
    (hentry : s.exact (input.key cfg.identity) = some (writeCachedReply r))
    (hservable : (r.counts && !isUnservableCachedReply r) = true) :
    cacheStep cfg s (.getExact i) = some (s.setCall i ⟨input, .ended, some r, stored⟩) := by
  simp only [cacheStep, hi, hentry, Option.bind_some, readCachedReply_write, hservable, if_true]
  rfl

/-- What is handed to the caches is a reply of a request that may use them. -/
theorem replyToStore_cacheable {c : ExecuteInput} {response : ChatResponseData} {didFallback : Bool}
    {cachedAt : String} {r : CachedChatResponse} (h : replyToStore cfg c response didFallback cachedAt = some r) :
    c.cacheable cfg.gateway = true ∧ r = toCachedChatResponse response cachedAt := by
  unfold replyToStore at h
  split at h
  · next hgate =>
    simp only [Bool.and_eq_true] at hgate
    exact ⟨hgate.1.2, (Option.some.inj h).symm⟩
  · cases h

theorem CacheInv.arrive {gatewayKey : GatewayKey} {request : ChatRequest} {options : ProviderCallOptions}
    {requestId : String} {phase : CachePhase} (hinv : CacheInv cfg s) (hearly : phase.early = true)
    (hlooking : phase.looking = true →
      (authenticated cfg.clients gatewayKey request options requestId).cacheable cfg.gateway = true) :
    CacheInv cfg { s with
      calls := s.calls ++ [⟨authenticated cfg.clients gatewayKey request options requestId, phase, none, none⟩] } := by
  -- Nothing is stored yet: the new call only stands beside the others.
  have hgrows : ∀ d r, s.Stored d r → CacheSystem.Stored { s with
      calls := s.calls ++ [⟨authenticated cfg.clients gatewayKey request options requestId, phase, none, none⟩] } d r := by
    intro d r hd
    obtain ⟨c, hc, hrest⟩ := hd
    exact ⟨c, List.mem_append_left _ hc, hrest⟩
  refine ⟨?_, hinv.semantic, ?_, ?_, ?_⟩
  · intro k text hk
    obtain ⟨d, r, hd, hrest⟩ := hinv.exact k text hk
    exact ⟨d, r, hgrows d r hd, hrest⟩
  · intro u hu
    obtain ⟨d, hd, hi⟩ := hinv.inputs u hu
    exact ⟨d, hgrows d _ hd, hi⟩
  · intro c hc
    rcases List.mem_append.mp hc with hc | hc
    · exact (hinv.calls c hc).mono hgrows
    · rw [List.mem_singleton] at hc
      subst hc
      refine ⟨rfl, fun _ => rfl, hlooking, ?_, ?_, ?_⟩
      · intro r h
        have h' : phase = .exactSet r ∨ phase = .upserting r := h
        rcases h' with rfl | rfl <;> cases hearly
      · intro r h; cases h
      · intro r h; cases h
  · intro i j c d r r' hi hj hr hr' hid
    rcases Table.getElem?_snoc_cases hi with ⟨-, rfl⟩ | hi
    · cases hr
    · rcases Table.getElem?_snoc_cases hj with ⟨-, rfl⟩ | hj
      · cases hr'
      · exact hinv.unique i j c d r r' hi hj hr hr' hid

/-- The answer is handed to the caches, under an id of its own. -/
theorem CacheInv.handOver {i : ℕ} {input : ExecuteInput} {returned stored : Option CachedChatResponse}
    {reply : CachedChatResponse} (hinv : CacheInv cfg s) (hi : s.calls[i]? = some ⟨input, .answering, returned, stored⟩)
    (hcacheable : input.cacheable cfg.gateway = true) (hfresh : s.freshId reply.id = true) :
    CacheInv cfg (s.setCall i ⟨input, .exactSet reply, returned, some reply⟩) := by
  have hc := hinv.calls _ (List.mem_of_getElem? hi)
  have hnone : stored = none := hc.early rfl
  refine hinv.update ⟨hi, rfl, .inr ⟨hnone, reply, rfl, hfresh⟩⟩ ?_ (fun _ _ hk => .inl hk) hinv.semantic
    (fun _ hu => .inl hu)
  refine ⟨hc.auth, by simp [CachePhase.early], by simp [CachePhase.looking], ?_, fun _ _ => hcacheable, hc.returned⟩
  intro r h
  rcases h with h | h
  · cases h
    rfl
  · cases h

theorem CacheInv.setExact {i : ℕ} {input : ExecuteInput} {returned stored : Option CachedChatResponse}
    {reply : CachedChatResponse} (hinv : CacheInv cfg s)
    (hi : s.calls[i]? = some ⟨input, .exactSet reply, returned, stored⟩) :
    CacheInv cfg { s.setCall i ⟨input, .upserting reply, returned, stored⟩ with
      exact := setNx s.exact (input.key cfg.identity) (writeCachedReply reply) } := by
  have hc := hinv.calls _ (List.mem_of_getElem? hi)
  have hstored : stored = some reply := hc.pending reply (.inl rfl)
  refine hinv.update ⟨hi, rfl, .inl rfl⟩ ?_ ?_ hinv.semantic (fun _ hu => .inl hu)
  · refine ⟨hc.auth, by simp [CachePhase.early], by simp [CachePhase.looking], ?_, hc.storer, hc.returned⟩
    intro r h
    rcases h with h | h
    · cases h
    · cases h
      exact hstored
  · intro k text hk
    rcases setNx_entry hk with hk | ⟨rfl, rfl⟩
    · exact .inl hk
    · exact .inr ⟨reply, hstored, rfl, rfl⟩

theorem CacheInv.upserted {i : ℕ} {input : ExecuteInput} {returned stored : Option CachedChatResponse}
    {reply : CachedChatResponse} {identity : EntryIdentity} {vector : List UInt32} {ttlSeconds : ℕ}
    {semantic : StoreState} (hinv : CacheInv cfg s)
    (hi : s.calls[i]? = some ⟨input, .upserting reply, returned, stored⟩)
    (hidentity : semanticIdentity cfg input = some identity)
    (hsem : storeStep cfg.store s.semantic (.upsert ⟨identity, vector, reply, ttlSeconds⟩) = some semantic) :
    CacheInv cfg { s.setCall i ⟨input, .ended, returned, stored⟩ with semantic := semantic } := by
  have hc := hinv.calls _ (List.mem_of_getElem? hi)
  have hstored : stored = some reply := hc.pending reply (.inr rfl)
  refine hinv.update ⟨hi, rfl, .inl rfl⟩ ?_ (fun _ _ hk => .inl hk) (storeStep_storeInv hinv.semantic hsem) ?_
  · exact ⟨hc.auth, by simp [CachePhase.early], by simp [CachePhase.looking], by simp, hc.storer, hc.returned⟩
  · intro u hu
    rcases (storeStep_spec hsem).newInputs u hu with hu | hu
    · exact .inl hu
    · cases hu
      exact .inr ⟨hstored, hidentity⟩

theorem CacheInv.command {b : StoreAction} {semantic : StoreState} (hinv : CacheInv cfg s)
    (hcommand : b.isCommand = true) (hsem : storeStep cfg.store s.semantic b = some semantic) :
    CacheInv cfg { s with semantic := semantic } := by
  refine ⟨hinv.exact, storeStep_storeInv hinv.semantic hsem, ?_,
    fun c hc => (hinv.calls c hc).mono fun _ _ hd => hd, hinv.unique⟩
  intro u hu
  rcases (storeStep_spec hsem).newInputs u hu with hu | rfl
  · exact hinv.inputs u hu
  · cases hcommand

theorem CacheInv.loseExact {key : String} (hinv : CacheInv cfg s) :
    CacheInv cfg { s with exact := Function.update s.exact key none } := by
  refine ⟨?_, hinv.semantic, hinv.inputs, fun c hc => (hinv.calls c hc).mono fun _ _ hd => hd, hinv.unique⟩
  intro k text hk
  rcases Table.update_cases (P := (· = some text)) hk with ⟨-, hold⟩ | ⟨-, hnone⟩
  · exact hinv.exact k text hold
  · cases hnone

/-! ## Every action -/

theorem CacheInv.step_arrive {gatewayKey : GatewayKey} {request : ChatRequest} {options : ProviderCallOptions}
    {requestId : String} (hinv : CacheInv cfg s)
    (hstep : cacheStep cfg s (.arrive gatewayKey request options requestId) = some s') : CacheInv cfg s' := by
  cases hstep
  apply hinv.arrive
  · split <;> rfl
  · intro h
    split at h
    · next hcacheable => exact (Bool.and_eq_true_iff.mp hcacheable).1
    · cases h

theorem CacheInv.step_getExact {i : ℕ} (hinv : CacheInv cfg s) (hstep : cacheStep cfg s (.getExact i) = some s') :
    CacheInv cfg s' := by
  unfold cacheStep at hstep
  dsimp only at hstep
  split at hstep
  · next input returned stored hi =>
    cases hstep
    apply hinv.looked (a := .evict "") hi rfl rfl (fun _ => rfl) ?_ (.inl ?_)
    · intro r hr
      exact hinv.exact_served hr
    · show _ = _
      split <;> rfl
  · cases hstep

theorem CacheInv.step_getExactFails {i : ℕ} (hinv : CacheInv cfg s)
    (hstep : cacheStep cfg s (.getExactFails i) = some s') : CacheInv cfg s' := by
  unfold cacheStep at hstep
  dsimp only at hstep
  split at hstep
  · next input returned stored hi =>
    cases hstep
    exact hinv.setPhase hi (fun _ => rfl) (fun _ => rfl) (by simp)
  · cases hstep

theorem CacheInv.step_getText {i : ℕ} (hinv : CacheInv cfg s) (hstep : cacheStep cfg s (.getText i) = some s') :
    CacheInv cfg s' := by
  unfold cacheStep at hstep
  dsimp only at hstep
  split at hstep
  · next input returned stored hi =>
    split at hstep
    · cases hstep
      exact hinv.setPhase hi (fun _ => rfl) (fun _ => rfl) (by simp)
    · next identity hidentity =>
      obtain ⟨semantic, hsem, rfl⟩ := Option.map_eq_some_iff.mp hstep
      apply hinv.looked hi rfl rfl (fun _ => rfl) ?_ (.inr ⟨hsem, by simp⟩)
      intro r hr
      exact hinv.text_served hidentity hr
  · cases hstep

theorem CacheInv.step_getTextFails {i : ℕ} (hinv : CacheInv cfg s)
    (hstep : cacheStep cfg s (.getTextFails i) = some s') : CacheInv cfg s' := by
  unfold cacheStep at hstep
  dsimp only at hstep
  split at hstep
  · next input returned stored hi =>
    split at hstep
    · cases hstep
    · next identity hidentity =>
      obtain ⟨semantic, hsem, rfl⟩ := Option.map_eq_some_iff.mp hstep
      -- a rejected lookup is one that finds nothing
      have hnothing : ∀ r, (none : Option CachedChatResponse) = some r → Served cfg s input r := by simp
      exact hinv.looked hi rfl rfl (fun _ => rfl) hnothing (.inr ⟨hsem, by simp⟩)
  · cases hstep

theorem CacheInv.step_search {i : ℕ} {vector : List UInt32} {docs : List SearchDoc} (hinv : CacheInv cfg s)
    (hstep : cacheStep cfg s (.search i vector docs) = some s') : CacheInv cfg s' := by
  unfold cacheStep at hstep
  dsimp only at hstep
  split at hstep
  · next input returned stored hi =>
    obtain ⟨semantic, hsem, rfl⟩ := Option.map_eq_some_iff.mp hstep
    have hdocs : docs.all (searchable cfg.store s.semantic.store
        ⟨semanticTags cfg input, vector, cfg.k⟩) = true := by
      simp only [storeStep] at hsem
      split at hsem
      · next hgood => exact hgood.1
      · cases hsem
    apply hinv.looked hi rfl rfl (by simp [CachePhase.looking]) ?_ (.inr ⟨hsem, by simp⟩)
    intro r hr
    obtain ⟨hit, hbest, rfl⟩ := Option.map_eq_some_iff.mp hr
    exact hinv.vector_served rfl hdocs (List.mem_of_find?_eq_some hbest)
  · cases hstep

theorem CacheInv.step_skipSearch {i : ℕ} (hinv : CacheInv cfg s) (hstep : cacheStep cfg s (.skipSearch i) = some s') :
    CacheInv cfg s' := by
  unfold cacheStep at hstep
  dsimp only at hstep
  split at hstep
  · next input returned stored hi =>
    cases hstep
    exact hinv.setPhase hi (fun _ => rfl) (fun _ => rfl) (by simp)
  · cases hstep

/-- An answer that may be stored is handed to the caches; any other ends the request. -/
theorem CacheInv.step_answer {i : ℕ} {outcome : MissOutcome} {didFallback : Bool} {conversationId cachedAt : String}
    (hinv : CacheInv cfg s)
    (hstep : cacheStep cfg s (.answer i outcome didFallback conversationId cachedAt) = some s') :
    CacheInv cfg s' := by
  unfold cacheStep at hstep
  dsimp only at hstep
  split at hstep
  · next input returned stored hi =>
    split at hstep
    · next hfresh =>
      split at hstep
      · next reply hreply =>
        cases hstep
        obtain ⟨hcacheable, hr⟩ := replyToStore_cacheable hreply
        have hid : reply.id = outcome.responseId := by rw [hr]; rfl
        exact hinv.handOver hi hcacheable (hid ▸ (Bool.and_eq_true_iff.mp hfresh).1)
      · cases hstep
        obtain rfl : stored = none := (hinv.calls _ (List.mem_of_getElem? hi)).early rfl
        exact hinv.finish hi
    · cases hstep
  · cases hstep

theorem CacheInv.step_answerFails {i : ℕ} (hinv : CacheInv cfg s)
    (hstep : cacheStep cfg s (.answerFails i) = some s') : CacheInv cfg s' := by
  unfold cacheStep at hstep
  dsimp only at hstep
  split at hstep
  · next input returned stored hi =>
    cases hstep
    exact hinv.finish hi
  · cases hstep

theorem CacheInv.step_setExact {i : ℕ} (hinv : CacheInv cfg s) (hstep : cacheStep cfg s (.setExact i) = some s') :
    CacheInv cfg s' := by
  unfold cacheStep at hstep
  dsimp only at hstep
  split at hstep
  · next input reply returned stored hi =>
    cases hstep
    exact hinv.setExact hi
  · cases hstep

theorem CacheInv.step_setExactFails {i : ℕ} (hinv : CacheInv cfg s)
    (hstep : cacheStep cfg s (.setExactFails i) = some s') : CacheInv cfg s' := by
  unfold cacheStep at hstep
  dsimp only at hstep
  split at hstep
  · next input reply returned stored hi =>
    cases hstep
    apply hinv.setPhase hi (by simp [CachePhase.early]) (by simp [CachePhase.looking])
    intro r h
    rcases h with h | h
    · cases h
    · cases h; rfl
  · cases hstep

theorem CacheInv.step_upsert {i : ℕ} {vector : List UInt32} (hinv : CacheInv cfg s)
    (hstep : cacheStep cfg s (.upsert i vector) = some s') : CacheInv cfg s' := by
  unfold cacheStep at hstep
  dsimp only at hstep
  split at hstep
  · next input reply returned stored hi =>
    split at hstep
    · cases hstep
      exact hinv.finish hi
    · next identity hidentity =>
      obtain ⟨semantic, hsem, rfl⟩ := Option.map_eq_some_iff.mp hstep
      exact hinv.upserted hi hidentity hsem
  · cases hstep

theorem CacheInv.step_skipUpsert {i : ℕ} (hinv : CacheInv cfg s) (hstep : cacheStep cfg s (.skipUpsert i) = some s') :
    CacheInv cfg s' := by
  unfold cacheStep at hstep
  dsimp only at hstep
  split at hstep
  · next input reply returned stored hi =>
    cases hstep
    exact hinv.finish hi
  · cases hstep

theorem CacheInv.step_command {b : StoreAction} (hinv : CacheInv cfg s)
    (hstep : cacheStep cfg s (.command b) = some s') : CacheInv cfg s' := by
  unfold cacheStep at hstep
  dsimp only at hstep
  split at hstep
  · next hcommand =>
    obtain ⟨semantic, hsem, rfl⟩ := Option.map_eq_some_iff.mp hstep
    exact hinv.command hcommand hsem
  · cases hstep

theorem CacheInv.step_loseExact {key : String} (hinv : CacheInv cfg s)
    (hstep : cacheStep cfg s (.loseExact key) = some s') : CacheInv cfg s' := by
  cases hstep
  exact hinv.loseExact

theorem cacheStep_inv {a : CacheAction} (hinv : CacheInv cfg s) (hstep : cacheStep cfg s a = some s') :
    CacheInv cfg s' := by
  cases a with
  | arrive gatewayKey request options requestId => exact hinv.step_arrive hstep
  | getExact i => exact hinv.step_getExact hstep
  | getExactFails i => exact hinv.step_getExactFails hstep
  | getText i => exact hinv.step_getText hstep
  | getTextFails i => exact hinv.step_getTextFails hstep
  | search i vector docs => exact hinv.step_search hstep
  | skipSearch i => exact hinv.step_skipSearch hstep
  | answer i outcome didFallback conversationId cachedAt => exact hinv.step_answer hstep
  | answerFails i => exact hinv.step_answerFails hstep
  | setExact i => exact hinv.step_setExact hstep
  | setExactFails i => exact hinv.step_setExactFails hstep
  | upsert i vector => exact hinv.step_upsert hstep
  | skipUpsert i => exact hinv.step_skipUpsert hstep
  | command b => exact hinv.step_command hstep
  | loseExact key => exact hinv.step_loseExact hstep

/-! ## Identities of different clients -/

theorem semanticIdentity_tags {c : ExecuteInput} {i : EntryIdentity} (h : semanticIdentity cfg c = some i) :
    i.tags = semanticTags cfg c := by
  unfold semanticIdentity at h
  split at h
  · obtain ⟨text, -, rfl⟩ := Option.map_eq_some_iff.mp h
    rfl
  · cases h

/-- The texts that the exact keys of the run hash. -/
def identityTexts (cfg : CacheConfig) (s : CacheSystem) : Set String :=
  {t | ∃ c ∈ s.calls, t = Json.stringify (identityPayload cfg.identity
    (toChatCacheIdentity c.input.request c.input.clientId c.input.options))}

/-- The texts that its entry keys hash. -/
def joinedTexts (cfg : CacheConfig) (s : CacheSystem) : Set String :=
  {t | ∃ c ∈ s.calls, ∃ i, semanticIdentity cfg c.input = some i ∧ t = i.joined}

theorem joined_eq_of_entryKey {c d : CacheCall} {i j : EntryIdentity} (hc : c ∈ s.calls) (hd : d ∈ s.calls)
    (hi : semanticIdentity cfg c.input = some i) (hj : semanticIdentity cfg d.input = some j)
    (hdigest : Set.InjOn cfg.store.digest (joinedTexts cfg s))
    (hkey : entryKey cfg.store i = entryKey cfg.store j) : i.joined = j.joined := by
  have hmodel : i.tags.embeddingModel = j.tags.embeddingModel := by
    rw [semanticIdentity_tags hi, semanticIdentity_tags hj]
    rfl
  unfold entryKey at hkey
  rw [hmodel] at hkey
  exact hdigest ⟨c, hc, i, hi, rfl⟩ ⟨d, hd, j, hj, rfl⟩ (append_left_cancel hkey)

/-- Identities under different names differ in their joined texts, unless one name extends
the other with a `|`. -/
theorem joined_ne_of_names {i j : EntryIdentity} (hne : i.tags.clientId ≠ j.tags.clientId)
    (hij : ¬ (i.tags.clientId ++ "|").toList <+: j.tags.clientId.toList)
    (hji : ¬ (j.tags.clientId ++ "|").toList <+: i.tags.clientId.toList) : i.joined ≠ j.joined := by
  intro h
  have hfront : ∀ e : EntryIdentity, e.joined = e.tags.clientId ++ "|" ++ (e.tags.modelAlias ++ "|" ++
      e.tags.embeddingModel ++ "|" ++ e.tags.systemSignature ++ "|" ++ e.tags.callParams ++ "|" ++ e.text) := by
    intro e
    simp only [EntryIdentity.joined, String.append_assoc]
  rw [hfront, hfront] at h
  rcases JsString.append_bar_eq_iff.mp h with ⟨heq, -⟩ | ⟨x, heq, -⟩ | ⟨x, heq, -⟩
  · exact hne heq
  · apply hij
    rw [heq]
    exact ⟨x.toList, (String.toList_append).symm⟩
  · apply hji
    rw [heq]
    exact ⟨x.toList, (String.toList_append).symm⟩

/-! ## Isolation -/

/-- No reply that a request of one key has stored was returned to a request of another. -/
def Isolated (s : CacheSystem) : Prop :=
  ∀ c ∈ s.calls, ∀ d ∈ s.calls, c.input.gatewayKey ≠ d.input.gatewayKey →
    ∀ r, d.stored = some r → c.returned ≠ some r

/-- The request that has stored a reply is the one that the reply came from. -/
theorem CacheInv.stored_by {d : CacheCall} {x : ExecuteInput} {r : CachedChatResponse} (hinv : CacheInv cfg s)
    (hd : d ∈ s.calls) (hstored : d.stored = some r) (hx : s.Stored x r) : d.input = x := by
  obtain ⟨e, he, rfl, hestored⟩ := hx
  obtain ⟨m, hm⟩ := List.mem_iff_getElem?.mp hd
  obtain ⟨n, hn⟩ := List.mem_iff_getElem?.mp he
  have hmn := hinv.unique m n d e r r hm hn hstored hestored rfl
  subst hmn
  rw [hm] at hn
  cases hn
  rfl

theorem ExecuteInput.cacheable_clientId {c : ExecuteInput} {gateway : GatewayModels}
    (h : c.cacheable gateway = true) : c.clientId ≠ unknownClient := by
  simp only [ExecuteInput.cacheable, Bool.and_eq_true] at h
  simpa [unknownClient] using h.1.1.2

theorem caches_isolate (cfg : CacheConfig) (clients : List (String × GatewayClientConfig))
    (env : String → Option String) (haccepted : clientsAccepted clients = true)
    (hclients : cfg.clients = resolveClients clients env)
    (hkeys : (cfg.clients.map ResolvedGatewayClient.gatewayKey).Nodup)
    (a b : ResolvedGatewayClient) (ha : a ∈ cfg.clients) (hb : b ∈ cfg.clients)
    (acts : List CacheAction) (s : CacheSystem) (hrun : Runs.run (cacheStep cfg) .initial acts = some s)
    (hboth : ∀ c ∈ s.calls, c.input.gatewayKey = a.gatewayKey ∨ c.input.gatewayKey = b.gatewayKey)
    (hsha : Set.InjOn cfg.identity.sha256 (identityTexts cfg s))
    (hdigest : Set.InjOn cfg.store.digest (joinedTexts cfg s))
    (hexact : ∀ c ∈ s.calls, ∀ d ∈ s.calls, c.input.clientId ∈ cfg.store.tagValues d.input.clientId →
      d.input.clientId = c.input.clientId)
    (hnames : a.name = b.name → a.name = unknownClient)
    (hjoined : ∀ c ∈ s.calls, ∀ d ∈ s.calls, c.input.gatewayKey ≠ d.input.gatewayKey → ∀ i j,
      semanticIdentity cfg c.input = some i → semanticIdentity cfg d.input = some j → i.joined ≠ j.joined) :
    Isolated s := by
  have hinv : CacheInv cfg s := Runs.run_invariant (fun _ _ _ => cacheStep_inv) cacheInv_initial hrun
  have hname : ∀ x ∈ cfg.clients, resolveClientIdFromKey x.gatewayKey cfg.clients = x.name := by
    intro x hx
    exact resolveClientIdFromKey_of_mem hkeys hx (name_ne_of_accepted haccepted (hclients ▸ hx))
  -- a client id that two requests of different keys share is `unknown`
  have hids : ∀ c ∈ s.calls, ∀ d ∈ s.calls, c.input.gatewayKey ≠ d.input.gatewayKey →
      c.input.clientId = d.input.clientId → c.input.clientId = unknownClient := by
    intro c hc d hd hne heq
    have hc' := (hinv.calls c hc).auth
    have hd' := (hinv.calls d hd).auth
    rcases hboth c hc with hca | hcb
    · rcases hboth d hd with hda | hdb
      · exact absurd (hca.trans hda.symm) hne
      · rw [hca, hname a ha] at hc'
        rw [hdb, hname b hb] at hd'
        exact hc'.trans (hnames (hc'.symm.trans (heq.trans hd')))
    · rcases hboth d hd with hda | hdb
      · rw [hcb, hname b hb] at hc'
        rw [hda, hname a ha] at hd'
        exact heq.trans (hd'.trans (hnames (hd'.symm.trans (heq.symm.trans hc'))))
      · exact absurd (hcb.trans hdb.symm) hne
  intro c hc d hd hne r hstored hreturned
  have hknown : d.input.clientId ≠ unknownClient :=
    ExecuteInput.cacheable_clientId ((hinv.calls d hd).storer r hstored)
  cases (hinv.calls c hc).returned r hreturned with
  | exact x hx hkey =>
    obtain rfl := hinv.stored_by hd hstored hx
    have heq : d.input.clientId = c.input.clientId :=
      buildIdentityKey_clientId (fun h => hsha ⟨d, hd, rfl⟩ ⟨c, hc, rfl⟩ h) hkey
    exact hknown (hids d hd c hc (Ne.symm hne) heq)
  | text x hx i j hi hj hkey =>
    obtain rfl := hinv.stored_by hd hstored hx
    exact hjoined d hd c hc (Ne.symm hne) i j hi hj (joined_eq_of_entryKey hd hc hi hj hdigest hkey)
  | vector x v r' hx hv i j hi hj hkey htags =>
    obtain rfl := hinv.stored_by hd hstored hx
    obtain ⟨e, he, rfl, hestored⟩ := hv
    by_cases hec : e.input.gatewayKey = c.input.gatewayKey
    · -- the fields are the reader's own, the reply is not
      have hde : d.input.gatewayKey ≠ e.input.gatewayKey := by
        rw [hec]
        exact Ne.symm hne
      exact hjoined d hd e he hde i j hi hj (joined_eq_of_entryKey hd he hi hj hdigest hkey)
    · -- the fields are the other client's, under the reader's name
      have heq : e.input.clientId = c.input.clientId := by
        rw [semanticIdentity_tags hj] at htags
        simp only [SemanticTags.foundBy, Bool.and_eq_true, decide_eq_true_eq] at htags
        exact hexact c hc e he htags.1.1.1.2
      have hunknown := hids e he c hc hec heq
      exact ExecuteInput.cacheable_clientId ((hinv.calls e he).storer r' hestored) hunknown

/-! ## Two clients asking the same -/

/-- Two clients under the given names, with keys of their own. -/
def twoClients (name₁ name₂ : String) : List (String × GatewayClientConfig) :=
  [("web", { name := name₁, type := .webapp, gatewayKeyRef := "WEB_KEY" }),
    ("cli", { name := name₂, type := .cli, gatewayKeyRef := "CLI_KEY" })]

def twoKeys : String → Option String
  | "WEB_KEY" => some "gk-web"
  | "CLI_KEY" => some "gk-cli"
  | _ => none

/-- The texts stand for their digests. -/
def twoClientsConfig (name₁ name₂ : String) (semanticEnabled : Bool) : CacheConfig where
  identity := ⟨⟨"", none, .empty⟩, none, none, fun text => text⟩
  store := plainConfig
  gateway := openGateway
  clients := resolveClients (twoClients name₁ name₂) twoKeys
  semanticEnabled := semanticEnabled
  embeddingModel := "embed-3"
  minSimilarity := 9 / 10
  k := 3
  ttlSeconds := 60

def ask (gatewayKey : GatewayKey) (requestId : String) : CacheAction :=
  .arrive gatewayKey (askInput "").request (askInput "").options requestId

/-- `askInput` as the request of a client. -/
def askFrom (name : String) (gatewayKey : GatewayKey) (requestId : String) : ExecuteInput :=
  ⟨(askInput "").request, (askInput "").options, name, requestId, gatewayKey⟩

/-- The reply that the first client stores. -/
def storedReply (name : String) : CachedChatResponse :=
  toCachedChatResponse (missResponse (askFrom name "gk-web" "req_1") helloOutcome "conv_1") ""

/-- Under different names the second client does not get the reply, whatever its lookup
finds. -/
theorem caches_isolate_two_names :
    ∃ s, Runs.run (cacheStep (twoClientsConfig "team-a" "team-b" true)) .initial
        ([ask "gk-web" "req_1", .getExact 0, .getText 0, .skipSearch 0, .answer 0 helloOutcome false "conv_1" "",
          .setExact 0, .upsert 0 [1065353216], ask "gk-cli" "req_2"] ++ [.getExact 1]) = some s ∧ Isolated s := by
  obtain ⟨t, ht, hcalls⟩ : ∃ t, Runs.run (cacheStep (twoClientsConfig "team-a" "team-b" true)) .initial
      [ask "gk-web" "req_1", .getExact 0, .getText 0, .skipSearch 0, .answer 0 helloOutcome false "conv_1" "",
        .setExact 0, .upsert 0 [1065353216], ask "gk-cli" "req_2"] = some t ∧
      t.calls = [⟨askFrom "team-a" "gk-web" "req_1", .ended, none, some (storedReply "team-a")⟩,
        ⟨askFrom "team-b" "gk-cli" "req_2", .exactGet, none, none⟩] := ⟨_, rfl, rfl⟩
  obtain ⟨reply, hlast⟩ : ∃ reply, cacheStep (twoClientsConfig "team-a" "team-b" true) t (.getExact 1) =
      some (t.looked 1 ⟨askFrom "team-b" "gk-cli" "req_2", .exactGet, none, none⟩ reply .textGet) := by
    simp only [cacheStep, hcalls]
    exact ⟨_, rfl⟩
  have hrun := Runs.run_append.mpr ⟨t, ht, Runs.run_cons.mpr ⟨_, hlast, Runs.run_nil⟩⟩
  have hinputs : ∀ c ∈ (t.looked 1 ⟨askFrom "team-b" "gk-cli" "req_2", .exactGet, none, none⟩ reply .textGet).calls,
      c.input = askFrom "team-a" "gk-web" "req_1" ∨ c.input = askFrom "team-b" "gk-cli" "req_2" := by
    cases reply <;> simp [CacheSystem.looked, CacheSystem.setCall, hcalls]
  refine ⟨_, hrun, caches_isolate _ (twoClients "team-a" "team-b") twoKeys (by decide) rfl (by decide) _ _
    (List.mem_cons_self ..) (List.mem_cons_of_mem _ (List.mem_cons_self ..)) _ _ hrun ?_
    Function.injective_id.injOn Function.injective_id.injOn ?_ (by decide) ?_⟩
  · intro c hc
    rcases hinputs c hc with hc | hc
    · exact .inl (hc ▸ rfl)
    · exact .inr (hc ▸ rfl)
  · intro c hc d hd htag
    rcases hinputs c hc with hc | hc <;> rcases hinputs d hd with hd | hd <;> rw [hc, hd] at htag ⊢
    · exact absurd htag (by decide)
    · exact absurd htag (by decide)
  · intro c hc d hd hne i j hi hj
    -- neither name goes on where the other has its `|`
    rcases hinputs c hc with hc | hc <;> rcases hinputs d hd with hd | hd <;> rw [hc] at hne hi <;>
      rw [hd] at hne hj
    · exact absurd rfl hne
    · apply joined_ne_of_names <;> rw [semanticIdentity_tags hi, semanticIdentity_tags hj] <;> decide
    · apply joined_ne_of_names <;> rw [semanticIdentity_tags hi, semanticIdentity_tags hj] <;> decide
    · exact absurd rfl hne

/-- The first client has stored its answer in the exact cache, the second has come with the
same question. -/
def secondAsks (cfg : CacheConfig) (name : String) : CacheSystem where
  exact := setNx (fun _ => none) ((askFrom name "gk-web" "req_1").key cfg.identity)
    (writeCachedReply (storedReply name))
  semantic := .initial
  calls := [⟨askFrom name "gk-web" "req_1", .upserting (storedReply name), none, some (storedReply name)⟩,
    ⟨askFrom name "gk-cli" "req_2", .exactGet, none, none⟩]

/-- The two clients have one name, and the second is answered with the stored reply of the
first. -/
theorem shared_name_shares_cache :
    ¬ ∀ (cfg : CacheConfig) (clients : List (String × GatewayClientConfig)) (env : String → Option String),
      clientsAccepted clients = true → cfg.clients = resolveClients clients env →
      (cfg.clients.map ResolvedGatewayClient.gatewayKey).Nodup →
      ∀ a ∈ cfg.clients, ∀ b ∈ cfg.clients, a.instanceId ≠ b.instanceId →
      ∀ (acts : List CacheAction) (s : CacheSystem), Runs.run (cacheStep cfg) .initial acts = some s →
      (∀ c ∈ s.calls, c.input.gatewayKey = a.gatewayKey ∨ c.input.gatewayKey = b.gatewayKey) →
      Function.Injective cfg.identity.sha256 → Function.Injective cfg.store.digest →
      (∀ c ∈ s.calls, ∀ d ∈ s.calls, c.input.clientId ∈ cfg.store.tagValues d.input.clientId →
        d.input.clientId = c.input.clientId) → Isolated s := by
  intro h
  have hbefore : Runs.run (cacheStep (twoClientsConfig "team" "team" false)) .initial
      [ask "gk-web" "req_1", .getExact 0, .getText 0, .answer 0 helloOutcome false "conv_1" "", .setExact 0,
        ask "gk-cli" "req_2"] = some (secondAsks (twoClientsConfig "team" "team" false) "team") := rfl
  -- Nothing in the identity tells the two clients apart.
  have hkey : (askFrom "team" "gk-cli" "req_2").key (twoClientsConfig "team" "team" false).identity =
      (askFrom "team" "gk-web" "req_1").key (twoClientsConfig "team" "team" false).identity := rfl
  have hentry : (secondAsks (twoClientsConfig "team" "team" false) "team").exact
      ((askFrom "team" "gk-cli" "req_2").key (twoClientsConfig "team" "team" false).identity) =
      some (writeCachedReply (storedReply "team")) := by
    simp only [secondAsks, hkey]
    exact setNx_self rfl
  have hlast : cacheStep (twoClientsConfig "team" "team" false)
      (secondAsks (twoClientsConfig "team" "team" false) "team") (.getExact 1) =
      some ((secondAsks (twoClientsConfig "team" "team" false) "team").setCall 1
        ⟨askFrom "team" "gk-cli" "req_2", .ended, some (storedReply "team"), none⟩) :=
    getExact_hit rfl hentry (by decide)
  have hrun := Runs.run_append.mpr ⟨_, hbefore, Runs.run_cons.mpr ⟨_, hlast, Runs.run_nil⟩⟩
  have hisolated := h _ (twoClients "team" "team") twoKeys (by decide) rfl (by decide) _ (List.mem_cons_self ..)
    _ (List.mem_cons_of_mem _ (List.mem_cons_self ..)) (by decide) _ _ hrun ?_ Function.injective_id
    Function.injective_id ?_
  · exact hisolated _ (List.mem_of_getElem? (i := 1) rfl) _ (List.mem_of_getElem? (i := 0) rfl) (by decide)
      (storedReply "team") rfl rfl
  · intro c hc
    rcases List.mem_cons.mp hc with rfl | hc
    · exact .inl rfl
    · exact .inr (List.mem_singleton.mp hc ▸ rfl)
  · intro c hc d hd _
    rcases List.mem_cons.mp hc with rfl | hc <;> rcases List.mem_cons.mp hd with rfl | hd
    · rfl
    · rw [List.mem_singleton.mp hd]
      rfl
    · rw [List.mem_singleton.mp hc]
      rfl
    · rw [List.mem_singleton.mp hc, List.mem_singleton.mp hd]

end AiGateway
