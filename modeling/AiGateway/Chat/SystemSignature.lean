import AiGateway.Chat.CachePipeline
import AiGateway.Chat.Isolation
import AiGateway.Chat.ProviderInput

/- `computeSystemSignature` as what keeps the replies of two system prompts apart. The
   signature hashes the three prompt texts joined by `|`, while the prompt that is sent trims
   them and joins them by blank lines.

   * `signature_separates_iff`: of two configurations with different prompts, the signatures
     differ, and with them the exact keys, the entry keys and the partitions of the semantic
     cache, unless a `|` inside a prompt of the one stands where the other has its separator,
     or the name of a client goes on, after a `|`, like the semantic identity of another.
   * `signature_misses_moved_separator`: such a pair, which shares its signature whatever the
     hash. -/
namespace AiGateway

/-- The three texts under the signature; a prompt that is absent is empty. -/
structure PromptTexts where
  master : String
  main : String
  perModel : String
  deriving DecidableEq, Repr

def SystemPrompts.texts (p : SystemPrompts) (modelAlias : String) : PromptTexts where
  master := p.master
  main := p.main.getD ""
  perModel := (p.perModelByAlias.get? modelAlias).getD ""

def PromptTexts.joined (t : PromptTexts) : String := t.master ++ "|" ++ (t.main ++ "|" ++ t.perModel)

/-- The texts read the same once they are joined, with a separator of one of them inside a
text of the other. -/
def SeparatorMoved (t u : PromptTexts) : Prop :=
  (∃ x, u.master = t.master ++ "|" ++ x ∧
    t.main ++ "|" ++ t.perModel = x ++ "|" ++ (u.main ++ "|" ++ u.perModel)) ∨
  (∃ x, t.master = u.master ++ "|" ++ x ∧
    u.main ++ "|" ++ u.perModel = x ++ "|" ++ (t.main ++ "|" ++ t.perModel)) ∨
  (t.master = u.master ∧
    ((∃ x, u.main = t.main ++ "|" ++ x ∧ t.perModel = x ++ "|" ++ u.perModel) ∨
      ∃ x, t.main = u.main ++ "|" ++ x ∧ u.perModel = x ++ "|" ++ t.perModel))

theorem joined_eq_iff {t u : PromptTexts} : t.joined = u.joined ↔ t = u ∨ SeparatorMoved t u := by
  obtain ⟨master, main, perModel⟩ := t
  obtain ⟨master', main', perModel'⟩ := u
  simp only [PromptTexts.joined, SeparatorMoved, PromptTexts.mk.injEq]
  rw [JsString.append_bar_eq_iff, JsString.append_bar_eq_iff]
  constructor
  · rintro (⟨hmaster, ⟨hmain, hper⟩ | hmoved⟩ | hleft | hright)
    · exact .inl ⟨hmaster, hmain, hper⟩
    · exact .inr (.inr (.inr ⟨hmaster, hmoved⟩))
    · exact .inr (.inl hleft)
    · exact .inr (.inr (.inl hright))
  · rintro (⟨hmaster, hmain, hper⟩ | hleft | hright | ⟨hmaster, hmoved⟩)
    · exact .inl ⟨hmaster, .inl ⟨hmain, hper⟩⟩
    · exact .inr (.inl hleft)
    · exact .inr (.inr hright)
    · exact .inl ⟨hmaster, .inr hmoved⟩

def hasBar (s : String) : Bool := '|' ∈ s.toList

theorem hasBar_append_bar (a x : String) : hasBar (a ++ "|" ++ x) = true := by
  simp [hasBar, String.toList_append]

/-- Prompts without a `|` are never confused. -/
theorem SeparatorMoved.hasBar {t u : PromptTexts} (h : SeparatorMoved t u) :
    (hasBar t.master || hasBar t.main || hasBar u.master || hasBar u.main) = true := by
  rcases h with ⟨x, h, -⟩ | ⟨x, h, -⟩ | ⟨-, ⟨x, h, -⟩ | ⟨x, h, -⟩⟩ <;>
    rw [h, hasBar_append_bar] <;> simp

/-! ## Signatures and prompts -/

/-- The same deployment under other prompts. -/
def CacheConfig.withPrompts (cfg : CacheConfig) (prompts : SystemPrompts) : CacheConfig :=
  { cfg with identity := { cfg.identity with prompts := prompts } }

theorem systemSignature_eq (cfg : CacheConfig) (p : SystemPrompts) (modelAlias : String) :
    systemSignature (cfg.withPrompts p).identity modelAlias = cfg.identity.sha256 (p.texts modelAlias).joined := by
  simp only [systemSignature, PromptTexts.joined, SystemPrompts.texts, String.append_assoc]
  rfl

theorem computeSystemSignature_of_reads {p : SystemPrompts} {modelAlias : String} (h : p.reads modelAlias = true)
    (cfg : CacheConfig) : computeSystemSignature (cfg.withPrompts p).identity modelAlias =
      some (systemSignature (cfg.withPrompts p).identity modelAlias) := if_pos h

theorem truthy_getD (s : Option String) : JsString.truthy (some (s.getD "")) = JsString.truthy s := by
  cases s <;> rfl

/-- The prompt that is sent is a function of the three texts. -/
theorem composeSystemPrompt_congr {p q : SystemPrompts} {modelAlias sent sent' : String}
    (hp : composeSystemPrompt p modelAlias = .ok sent) (hq : composeSystemPrompt q modelAlias = .ok sent')
    (h : p.texts modelAlias = q.texts modelAlias) : sent = sent' := by
  simp only [SystemPrompts.texts, PromptTexts.mk.injEq] at h
  obtain ⟨hmaster, hmain, hper⟩ := h
  rw [(composeSystemPrompt_ok hp).2, (composeSystemPrompt_ok hq).2]
  unfold promptSections
  rw [hmaster, ← truthy_getD p.main, hmain, truthy_getD, ← truthy_getD (p.perModelByAlias.get? modelAlias), hper,
    truthy_getD]

/-! ## Keys and partitions -/

/-- What is joined behind the client id. -/
def EntryIdentity.afterClient (i : EntryIdentity) : String :=
  i.tags.modelAlias ++ "|" ++ i.tags.embeddingModel ++ "|" ++ i.tags.systemSignature ++ "|" ++
    i.tags.callParams ++ "|" ++ i.text

theorem joined_eq_client (i : EntryIdentity) : i.joined = i.tags.clientId ++ "|" ++ i.afterClient := by
  simp only [EntryIdentity.joined, EntryIdentity.afterClient, String.append_assoc]

/-- The request comes from a client of the deployment. -/
def CacheConfig.Authenticates (cfg : CacheConfig) (c : ExecuteInput) : Prop :=
  c.clientId = resolveClientIdFromKey c.gatewayKey cfg.clients

/-- Two requests for the alias, one under each of the prompts, whose semantic identities read
the same once they are joined: the name of one client goes on, after a `|`, like the identity
of the other. -/
def NameMoved (cfg : CacheConfig) (old new : SystemPrompts) (modelAlias : String) : Prop :=
  ∃ (c d : ExecuteInput) (i j : EntryIdentity), cfg.Authenticates c ∧ cfg.Authenticates d ∧
    c.request.modelAlias = modelAlias ∧ d.request.modelAlias = modelAlias ∧
    semanticIdentity (cfg.withPrompts old) c = some i ∧ semanticIdentity (cfg.withPrompts new) d = some j ∧
    ((∃ x, d.clientId = c.clientId ++ "|" ++ x ∧ i.afterClient = x ++ "|" ++ j.afterClient) ∨
      ∃ x, c.clientId = d.clientId ++ "|" ++ x ∧ j.afterClient = x ++ "|" ++ i.afterClient)

/-- Nothing that was stored for the alias under the old prompts is found under the new ones:
`GET` and `HMGET` read other keys, and the filter of `FT.SEARCH` another partition. -/
structure PromptsSeparated (cfg : CacheConfig) (old new : SystemPrompts) (modelAlias : String) : Prop where
  signature : computeSystemSignature (cfg.withPrompts old).identity modelAlias ≠
    computeSystemSignature (cfg.withPrompts new).identity modelAlias
  exactKey : ∀ c d : ExecuteInput, c.request.modelAlias = modelAlias → d.request.modelAlias = modelAlias →
    c.key (cfg.withPrompts old).identity ≠ d.key (cfg.withPrompts new).identity
  textKey : ∀ (c d : ExecuteInput) (i j : EntryIdentity), cfg.Authenticates c → cfg.Authenticates d →
    c.request.modelAlias = modelAlias → d.request.modelAlias = modelAlias →
    semanticIdentity (cfg.withPrompts old) c = some i → semanticIdentity (cfg.withPrompts new) d = some j →
    entryKey cfg.store i ≠ entryKey cfg.store j
  partition : ∀ c d : ExecuteInput, c.request.modelAlias = modelAlias → d.request.modelAlias = modelAlias →
    (semanticTags (cfg.withPrompts old) c).foundBy cfg.store (semanticTags (cfg.withPrompts new) d) = false

/-- What is granted of the digests: they are injective, and SHA-256 is written in hex, so
without a `|` and as one tag. -/
structure DigestsHex (cfg : CacheConfig) : Prop where
  sha256 : Function.Injective cfg.identity.sha256
  digest : Function.Injective cfg.store.digest
  noBar : ∀ t, '|' ∉ (cfg.identity.sha256 t).toList
  oneTag : ∀ t, cfg.store.tagValues (cfg.identity.sha256 t) = [cfg.identity.sha256 t]

section Separation
variable {cfg : CacheConfig} {old new : SystemPrompts} {modelAlias : String} {c d : ExecuteInput}

theorem partition_ne (hhex : DigestsHex cfg) (hsig : systemSignature (cfg.withPrompts old).identity modelAlias ≠
      systemSignature (cfg.withPrompts new).identity modelAlias)
    (hc : c.request.modelAlias = modelAlias) (hd : d.request.modelAlias = modelAlias) :
    (semanticTags (cfg.withPrompts old) c).foundBy cfg.store (semanticTags (cfg.withPrompts new) d) = false := by
  apply Bool.eq_false_iff.mpr
  intro h
  apply hsig
  simp only [SemanticTags.foundBy, Bool.and_eq_true, decide_eq_true_eq, semanticTags, hc, hd] at h
  have htag := h.1.2
  rw [systemSignature_eq cfg old, hhex.oneTag, List.mem_singleton] at htag
  rw [htag, systemSignature_eq]

theorem exactKey_ne (hsha : Function.Injective cfg.identity.sha256)
    (hsig : systemSignature (cfg.withPrompts old).identity modelAlias ≠
      systemSignature (cfg.withPrompts new).identity modelAlias)
    (hc : c.request.modelAlias = modelAlias) (hd : d.request.modelAlias = modelAlias) :
    c.key (cfg.withPrompts old).identity ≠ d.key (cfg.withPrompts new).identity := by
  intro h
  apply hsig
  -- the key prefix is the same, so the payloads are
  have hpayload := Json.stringify_injective (hsha (append_left_cancel h))
  simp only [identityPayload, toChatCacheIdentity, Json.Value.obj.injEq, List.cons.injEq, Prod.mk.injEq,
    true_and, Json.Value.str.injEq, hc, hd] at hpayload
  exact hpayload.2.2.1

/-- The entry keys of one deployment are as fine as the joined identities. -/
theorem entryKey_eq_iff (hdigest : Function.Injective cfg.store.digest) {i j : EntryIdentity}
    (hi : semanticIdentity (cfg.withPrompts old) c = some i) (hj : semanticIdentity (cfg.withPrompts new) d = some j) :
    entryKey cfg.store i = entryKey cfg.store j ↔ i.joined = j.joined := by
  have hmodel : i.tags.embeddingModel = j.tags.embeddingModel := by
    rw [semanticIdentity_tags hi, semanticIdentity_tags hj]
    rfl
  unfold entryKey
  rw [hmodel]
  constructor
  · intro h
    exact hdigest (append_left_cancel h)
  · intro h
    rw [h]

/-- Requests of one client: a signature without `|` is read back from the joined identity. -/
theorem afterClient_ne (hhex : DigestsHex cfg)
    (hsig : systemSignature (cfg.withPrompts old).identity modelAlias ≠
      systemSignature (cfg.withPrompts new).identity modelAlias)
    (hc : c.request.modelAlias = modelAlias) (hd : d.request.modelAlias = modelAlias) {i j : EntryIdentity}
    (hi : semanticIdentity (cfg.withPrompts old) c = some i) (hj : semanticIdentity (cfg.withPrompts new) d = some j) :
    i.afterClient ≠ j.afterClient := by
  intro h
  -- alias and embedding model agree, and what follows them are the signatures
  have hfront : ∀ e : EntryIdentity, e.afterClient = (e.tags.modelAlias ++ "|" ++ e.tags.embeddingModel ++ "|") ++
      (e.tags.systemSignature ++ "|" ++ (e.tags.callParams ++ "|" ++ e.text)) := by
    intro e
    simp only [EntryIdentity.afterClient, String.append_assoc]
  rw [hfront, hfront, semanticIdentity_tags hi, semanticIdentity_tags hj] at h
  simp only [semanticTags, hc, hd] at h
  have hafter := append_left_cancel h
  have hnone : ∀ p, hasBar (systemSignature (cfg.withPrompts p).identity modelAlias) = false := by
    intro p
    rw [systemSignature_eq]
    simpa [hasBar] using hhex.noBar (p.texts modelAlias).joined
  have hold := hnone old
  have hnew := hnone new
  obtain ⟨heq, -⟩ | ⟨x, heq, -⟩ | ⟨x, heq, -⟩ := JsString.append_bar_eq_iff.mp hafter
  · exact hsig heq
  · rw [heq, hasBar_append_bar] at hnew
    cases hnew
  · rw [heq, hasBar_append_bar] at hold
    cases hold

/-- So the identities of two requests are joined alike only by a name that goes on. -/
theorem joined_eq_iff_moved (hhex : DigestsHex cfg)
    (hsig : systemSignature (cfg.withPrompts old).identity modelAlias ≠
      systemSignature (cfg.withPrompts new).identity modelAlias)
    (hc : c.request.modelAlias = modelAlias) (hd : d.request.modelAlias = modelAlias) {i j : EntryIdentity}
    (hi : semanticIdentity (cfg.withPrompts old) c = some i) (hj : semanticIdentity (cfg.withPrompts new) d = some j) :
    i.joined = j.joined ↔
      (∃ x, d.clientId = c.clientId ++ "|" ++ x ∧ i.afterClient = x ++ "|" ++ j.afterClient) ∨
        ∃ x, c.clientId = d.clientId ++ "|" ++ x ∧ j.afterClient = x ++ "|" ++ i.afterClient := by
  have hci : i.tags.clientId = c.clientId := by
    rw [semanticIdentity_tags hi]
    rfl
  have hdj : j.tags.clientId = d.clientId := by
    rw [semanticIdentity_tags hj]
    rfl
  rw [joined_eq_client, joined_eq_client, JsString.append_bar_eq_iff, hci, hdj]
  constructor
  · rintro (⟨-, hafter⟩ | hmoved)
    · exact absurd hafter (afterClient_ne hhex hsig hc hd hi hj)
    · exact hmoved
  · exact .inr

end Separation

/-- A name only goes on like the identity of another client where it starts with that client's
name and a `|`. -/
theorem NameMoved.names {cfg : CacheConfig} {old new : SystemPrompts} {modelAlias : String}
    (h : NameMoved cfg old new modelAlias) : ∃ c d : ExecuteInput, cfg.Authenticates c ∧ cfg.Authenticates d ∧
      (c.clientId ++ "|").toList <+: d.clientId.toList := by
  obtain ⟨c, d, -, -, hc, hd, -, -, -, -, ⟨x, hname, -⟩ | ⟨x, hname, -⟩⟩ := h
  · exact ⟨c, d, hc, hd, x.toList, by simp only [hname, String.toList_append]⟩
  · exact ⟨d, c, hd, hc, x.toList, by simp only [hname, String.toList_append]⟩

/-- Of two configurations that send different prompts for the alias. -/
theorem signature_separates_iff (cfg : CacheConfig) (old new : SystemPrompts) (modelAlias sent sent' : String)
    (hhex : DigestsHex cfg) (hold : composeSystemPrompt old modelAlias = .ok sent)
    (hnew : composeSystemPrompt new modelAlias = .ok sent') (hne : sent ≠ sent') :
    PromptsSeparated cfg old new modelAlias ↔
      ¬ SeparatorMoved (old.texts modelAlias) (new.texts modelAlias) ∧ ¬ NameMoved cfg old new modelAlias := by
  have holdSig := computeSystemSignature_of_reads (composeSystemPrompt_ok hold).1 cfg
  have hnewSig := computeSystemSignature_of_reads (composeSystemPrompt_ok hnew).1 cfg
  constructor
  · intro h
    have hsig : systemSignature (cfg.withPrompts old).identity modelAlias ≠
        systemSignature (cfg.withPrompts new).identity modelAlias := by
      intro heq
      apply h.signature
      rw [holdSig, hnewSig, heq]
    refine ⟨?_, ?_⟩
    · intro hmoved
      apply hsig
      rw [systemSignature_eq, systemSignature_eq, joined_eq_iff.mpr (.inr hmoved)]
    -- Identities that read alike once joined have one key, whatever their signatures.
    · rintro ⟨c, d, i, j, hauth, hauth', hc, hd, hi, hj, hmoved⟩
      apply h.textKey c d i j hauth hauth' hc hd hi hj
      rw [entryKey_eq_iff hhex.digest hi hj]
      exact (joined_eq_iff_moved hhex hsig hc hd hi hj).mpr hmoved
  · rintro ⟨hmoved, hname⟩
    have hsig : systemSignature (cfg.withPrompts old).identity modelAlias ≠
        systemSignature (cfg.withPrompts new).identity modelAlias := by
      rw [systemSignature_eq, systemSignature_eq]
      intro heq
      -- Equal digests are equal texts, and these differ in the place of a separator at most.
      obtain htexts | hmoved' := joined_eq_iff.mp (hhex.sha256 heq)
      · exact hne (composeSystemPrompt_congr hold hnew htexts)
      · exact hmoved hmoved'
    refine ⟨?_, ?_, ?_, ?_⟩
    · rw [holdSig, hnewSig]
      exact fun heq => hsig (Option.some.inj heq)
    · intro c d hc hd
      exact exactKey_ne hhex.sha256 hsig hc hd
    · intro c d i j hauth hauth' hc hd hi hj hkey
      have hjoined := (entryKey_eq_iff hhex.digest hi hj).mp hkey
      exact hname ⟨c, d, i, j, hauth, hauth', hc, hd, hi, hj, (joined_eq_iff_moved hhex hsig hc hd hi hj).mp hjoined⟩
    · intro c d hc hd
      exact partition_ne hhex hsig hc hd

/-! ## Two pairs of prompts -/

/-- An injective digest in the two letters `a` and `b`, for the pair below. -/
def unaryDigest (text : String) : String :=
  String.ofList (text.toList.flatMap fun c => List.replicate c.toNat 'a' ++ ['b'])

theorem replicate_block_inj {m n : ℕ} {us vs : List Char}
    (h : List.replicate m 'a' ++ 'b' :: us = List.replicate n 'a' ++ 'b' :: vs) : m = n ∧ us = vs := by
  induction m generalizing n with
  | zero =>
    cases n with
    | zero => simpa using h
    | succ n => simp [List.replicate_succ] at h
  | succ m ih =>
    cases n with
    | zero => simp [List.replicate_succ] at h
    | succ n =>
      simp only [List.replicate_succ, List.cons_append, List.cons.injEq, true_and] at h
      obtain ⟨hmn, huv⟩ := ih h
      exact ⟨by omega, huv⟩

theorem unaryDigest_injective : Function.Injective unaryDigest := by
  have key : ∀ l m : List Char, (l.flatMap fun c => List.replicate c.toNat 'a' ++ ['b']) =
      (m.flatMap fun c => List.replicate c.toNat 'a' ++ ['b']) → l = m := by
    intro l
    induction l with
    | nil => intro m h; cases m <;> simp at h ⊢
    | cons c l ih =>
      intro m h
      cases m with
      | nil => simp at h
      | cons d m =>
        simp only [List.flatMap_cons, List.append_assoc, List.singleton_append] at h
        obtain ⟨hcd, hrest⟩ := replicate_block_inj h
        rw [Char.toNat_inj.mp hcd, ih m hrest]
  intro s t h
  exact String.toList_inj.mp (key _ _ (String.ofList_injective h))

theorem unaryDigest_bar (text : String) : '|' ∉ (unaryDigest text).toList := by
  unfold unaryDigest
  simp [List.mem_flatMap]

def terse : SystemPrompts := ⟨"Be terse.", some "Cite sources.", .empty⟩

def kind : SystemPrompts := ⟨"Be kind.", some "Cite sources.", .empty⟩

/-- A deployment with these digests. -/
def unaryConfig : CacheConfig :=
  { twoClientsConfig "team" "other" true with
    identity := ⟨terse, none, none, unaryDigest⟩
    store := ⟨fun m => m, unaryDigest, fun field => [field]⟩ }

/-- The clients of the two configurations: no name is another with a `|` behind it. -/
theorem unaryConfig_names {c : ExecuteInput} (h : unaryConfig.Authenticates c) :
    c.clientId = "team" ∨ c.clientId = "other" ∨ c.clientId = "unknown" := by
  rw [h]
  simp only [resolveClientIdFromKey, unaryConfig, twoClientsConfig, twoClients, resolveClients, List.map_cons, List.map_nil,
    List.find?_cons, List.find?_nil]
  split
  · next client hfind =>
    split at hfind
    · cases hfind
      exact .inl rfl
    · split at hfind
      · cases hfind
        exact .inr (.inl rfl)
      · cases hfind
  · exact .inr (.inr rfl)

theorem signature_separates_terse_kind : PromptsSeparated unaryConfig terse kind "chat-default" := by
  have hhex : DigestsHex unaryConfig :=
    ⟨unaryDigest_injective, unaryDigest_injective, unaryDigest_bar, fun _ => rfl⟩
  refine (signature_separates_iff unaryConfig terse kind "chat-default" _ _ hhex rfl rfl (by decide)).mpr ⟨?_, ?_⟩
  · intro hmoved
    exact absurd hmoved.hasBar (by decide)
  · intro hmoved
    obtain ⟨c, d, hc, hd, hprefix⟩ := hmoved.names
    obtain h | h | h := unaryConfig_names hc <;> obtain h' | h' | h' := unaryConfig_names hd <;>
      rw [h, h'] at hprefix <;> exact absurd hprefix (by decide)

/-- The master prompt ends one word earlier, and what it loses stands in the main prompt. -/
theorem signature_misses_moved_separator :
    ∃ (old new : SystemPrompts) (modelAlias sent sent' : String), composeSystemPrompt old modelAlias = .ok sent ∧
      composeSystemPrompt new modelAlias = .ok sent' ∧ sent ≠ sent' ∧
      ∀ cfg : CacheConfig, computeSystemSignature (cfg.withPrompts old).identity modelAlias =
        computeSystemSignature (cfg.withPrompts new).identity modelAlias := by
  refine ⟨⟨"Answer as a|b", some "c", .empty⟩, ⟨"Answer as a", some "b|c", .empty⟩, "chat-default", _, _, rfl, rfl,
    by decide, ?_⟩
  intro cfg
  rw [computeSystemSignature_of_reads rfl, computeSystemSignature_of_reads rfl, systemSignature_eq, systemSignature_eq]
  rfl

end AiGateway
