import AiGateway.Config.GatewayConfig
import AiGateway.Lib.Json
import AiGateway.Lib.JsString

/- What a chat request is to the caches: `toChatCacheIdentity`, the exact key of
   `ResponseCacheService.buildIdentityKey`, and the signatures and texts that the semantic
   cache uses. SHA-256 (hex) is a parameter.

   * `buildIdentityKey_eq_iff`: two identities have one exact key when they agree in alias,
     client, messages and the twelve call parameters, and only then, as far as the hash
     separates their payloads.
   * `buildIdentityKey_clientId`: requests of different client ids have different exact keys. -/
namespace AiGateway

/-! ## Requests -/

inductive ChatRole where
  | user | assistant | tool
  deriving DecidableEq, Repr

def ChatRole.text : ChatRole → String
  | .user => "user"
  | .assistant => "assistant"
  | .tool => "tool"

structure GatewayToolCall where
  id : String
  name : String
  arguments : String
  deriving DecidableEq, Repr

/-- A message of `ChatRequestDto`, and of `ChatCacheIdentity`: the mapping copies it. -/
structure ChatMessage where
  role : ChatRole
  content : String
  toolCallId : Option String
  toolCalls : Option (List GatewayToolCall)
  deriving DecidableEq, Repr

/-- `stop?: string | string[]`. -/
inductive StopParam where
  | one (s : String)
  | many (ss : List String)
  deriving DecidableEq, Repr

/-- `thinkingBudget?`: an effort word or a number. -/
inductive ThinkingBudget where
  | effort (word : String)
  | tokens (n : Json.Number)
  deriving DecidableEq

/-- `ProviderCallOptions` without the abort signal; `responseFormat` is the object as sent. -/
structure ProviderCallOptions where
  temperature : Option Json.Number
  maxOutputTokens : Option Json.Number
  topP : Option Json.Number
  topK : Option Json.Number
  stop : Option StopParam
  frequencyPenalty : Option Json.Number
  presencePenalty : Option Json.Number
  seed : Option Json.Number
  responseFormat : Option Json.Value
  thinkingEnabled : Option Bool
  thinkingBudget : Option ThinkingBudget
  parallelToolCalls : Option Bool

/-- The fields of `ChatRequestDto` that executing it reads; `toolDefinitions` is the length
of `tooling.definitions`. -/
structure ChatRequest where
  modelAlias : String
  messages : List ChatMessage
  toolDefinitions : ℕ
  conversationId : Option String

def isToolingRequest (request : ChatRequest) : Bool :=
  request.toolDefinitions > 0 ||
    request.messages.any fun m => m.role = .tool || !(m.toolCalls.getD []).isEmpty

structure ChatCacheIdentity where
  modelAlias : String
  clientId : String
  messages : List ChatMessage
  callParams : ProviderCallOptions

def toChatCacheIdentity (request : ChatRequest) (clientId : String) (callParams : ProviderCallOptions) :
    ChatCacheIdentity :=
  { modelAlias := request.modelAlias, clientId := clientId, messages := request.messages
    callParams := callParams }

/-! ## The exact key -/

def optionalJson {α : Type} (toJson : α → Json.Value) : Option α → Json.Value
  | none => .null
  | some a => toJson a

def StopParam.toJson : StopParam → Json.Value
  | .one s => .str s
  | .many ss => .arr (ss.map .str)

def ThinkingBudget.toJson : ThinkingBudget → Json.Value
  | .effort word => .str word
  | .tokens n => .num n

def serializeCallParamsForCache (p : ProviderCallOptions) : Json.Value :=
  .obj [("temperature", optionalJson .num p.temperature),
    ("maxOutputTokens", optionalJson .num p.maxOutputTokens),
    ("topP", optionalJson .num p.topP),
    ("topK", optionalJson .num p.topK),
    ("stop", optionalJson StopParam.toJson p.stop),
    ("frequencyPenalty", optionalJson .num p.frequencyPenalty),
    ("presencePenalty", optionalJson .num p.presencePenalty),
    ("seed", optionalJson .num p.seed),
    ("responseFormat", p.responseFormat.getD .null),
    ("thinkingEnabled", optionalJson .bool p.thinkingEnabled),
    ("thinkingBudget", optionalJson ThinkingBudget.toJson p.thinkingBudget),
    ("parallelToolCalls", optionalJson .bool p.parallelToolCalls)]

def GatewayToolCall.toJson (c : GatewayToolCall) : Json.Value :=
  .obj [("id", .str c.id), ("name", .str c.name), ("arguments", .str c.arguments)]

def ChatMessage.toJson (m : ChatMessage) : Json.Value :=
  .obj ([("role", .str m.role.text), ("content", .str m.content)] ++
    (m.toolCallId.elim [] fun id => [("toolCallId", .str id)]) ++
    (m.toolCalls.elim [] fun calls => [("toolCalls", .arr (calls.map GatewayToolCall.toJson))]))

/-- `ResolvedSystemPrompts`. -/
structure SystemPrompts where
  master : String
  main : Option String
  perModelByAlias : JsMap String String

/-- `perModelByAlias[modelAlias]` is a text or is missing: not a member that every object
inherits, on which its readers throw. -/
def SystemPrompts.reads (p : SystemPrompts) (modelAlias : String) : Bool :=
  match property p.perModelByAlias modelAlias with
  | .own _ | .missing => true
  | .inherited => false

/-- What the identities read of the configuration, and hex SHA-256. -/
structure IdentityConfig where
  prompts : SystemPrompts
  cacheKeyPrefix : Option String
  redisKeyPrefix : Option String
  sha256 : String → String

/-- The signature in the keys and in the partitions, which are made only of an alias that is read. -/
def systemSignature (cfg : IdentityConfig) (modelAlias : String) : String :=
  cfg.sha256 (cfg.prompts.master ++ "|" ++ cfg.prompts.main.getD "" ++ "|" ++
    (cfg.prompts.perModelByAlias.get? modelAlias).getD "")

/-- `update` throws on what is no text. -/
def computeSystemSignature (cfg : IdentityConfig) (modelAlias : String) : Option String :=
  if cfg.prompts.reads modelAlias then some (systemSignature cfg modelAlias) else none

def hashCallParams (cfg : IdentityConfig) (callParams : ProviderCallOptions) : String :=
  cfg.sha256 (Json.stringify (serializeCallParamsForCache callParams))

def identityPayload (cfg : IdentityConfig) (identity : ChatCacheIdentity) : Json.Value :=
  .obj [("modelAlias", .str identity.modelAlias), ("clientId", .str identity.clientId),
    ("messages", .arr (identity.messages.map ChatMessage.toJson)),
    ("systemSignature", .str (systemSignature cfg identity.modelAlias)),
    ("callParams", serializeCallParamsForCache identity.callParams)]

/-- `cache.keyPrefix || redis.keyPrefix || 'aigw:'`. -/
def cacheKeyPrefix (cfg : IdentityConfig) : String :=
  ((cfg.cacheKeyPrefix.filter (· ≠ "")).or (cfg.redisKeyPrefix.filter (· ≠ ""))).getD "aigw:"

def buildIdentityKey (cfg : IdentityConfig) (identity : ChatCacheIdentity) : String :=
  cacheKeyPrefix cfg ++ "cache:chat:" ++ cfg.sha256 (Json.stringify (identityPayload cfg identity))

theorem append_left_cancel {a b c : String} (h : a ++ b = a ++ c) : b = c := by
  have hl := congrArg String.toList h
  rw [String.toList_append, String.toList_append] at hl
  exact String.toList_inj.mp (List.append_cancel_left hl)

/-- Equal keys are equal payloads once the hash separates the two payload texts. -/
theorem identityPayload_eq {cfg : IdentityConfig} {i j : ChatCacheIdentity}
    (hsha : cfg.sha256 (Json.stringify (identityPayload cfg i)) =
        cfg.sha256 (Json.stringify (identityPayload cfg j)) →
      Json.stringify (identityPayload cfg i) = Json.stringify (identityPayload cfg j))
    (h : buildIdentityKey cfg i = buildIdentityKey cfg j) :
    identityPayload cfg i = identityPayload cfg j :=
  Json.stringify_injective (hsha (append_left_cancel h))

theorem buildIdentityKey_clientId {cfg : IdentityConfig} {i j : ChatCacheIdentity}
    (hsha : cfg.sha256 (Json.stringify (identityPayload cfg i)) =
        cfg.sha256 (Json.stringify (identityPayload cfg j)) →
      Json.stringify (identityPayload cfg i) = Json.stringify (identityPayload cfg j))
    (h : buildIdentityKey cfg i = buildIdentityKey cfg j) : i.clientId = j.clientId := by
  have hpayload := identityPayload_eq hsha h
  simp only [identityPayload, Json.Value.obj.injEq, List.cons.injEq, Prod.mk.injEq,
    Json.Value.str.injEq, true_and] at hpayload
  exact hpayload.2.1

/-! ## What the exact key tells apart -/

/-- The twelve parameters agree; one that is absent is one that is `null`. -/
structure SameCallParams (p q : ProviderCallOptions) : Prop where
  temperature : p.temperature = q.temperature
  maxOutputTokens : p.maxOutputTokens = q.maxOutputTokens
  topP : p.topP = q.topP
  topK : p.topK = q.topK
  stop : p.stop = q.stop
  frequencyPenalty : p.frequencyPenalty = q.frequencyPenalty
  presencePenalty : p.presencePenalty = q.presencePenalty
  seed : p.seed = q.seed
  responseFormat : p.responseFormat.getD .null = q.responseFormat.getD .null
  thinkingEnabled : p.thinkingEnabled = q.thinkingEnabled
  thinkingBudget : p.thinkingBudget = q.thinkingBudget
  parallelToolCalls : p.parallelToolCalls = q.parallelToolCalls

theorem optionalJson_inj {α : Type} {toJson : α → Json.Value} (hinj : ∀ a b, toJson a = toJson b → a = b)
    (hnull : ∀ a, toJson a ≠ .null) {x y : Option α} :
    optionalJson toJson x = optionalJson toJson y ↔ x = y := by
  constructor
  · intro h
    cases x with
    | none =>
      cases y with
      | none => rfl
      | some b => exact absurd h.symm (hnull b)
    | some a =>
      cases y with
      | none => exact absurd h (hnull a)
      | some b => rw [hinj a b h]
  · intro h
    rw [h]

theorem optionalJson_num_inj {x y : Option Json.Number} :
    optionalJson .num x = optionalJson .num y ↔ x = y :=
  optionalJson_inj (fun _ _ h => Json.Value.num.inj h) (fun _ h => by cases h)

theorem optionalJson_bool_inj {x y : Option Bool} :
    optionalJson .bool x = optionalJson .bool y ↔ x = y :=
  optionalJson_inj (fun _ _ h => Json.Value.bool.inj h) (fun _ h => by cases h)

theorem map_str_inj {xs ys : List String} (h : xs.map Json.Value.str = ys.map Json.Value.str) : xs = ys :=
  List.map_injective_iff.mpr (fun _ _ h => Json.Value.str.inj h) h

theorem optionalJson_stop_inj {x y : Option StopParam} :
    optionalJson StopParam.toJson x = optionalJson StopParam.toJson y ↔ x = y := by
  apply optionalJson_inj
  · -- a string and a list of strings never meet
    intro a b h
    cases a with
    | one s =>
      cases b with
      | one t => rw [Json.Value.str.inj h]
      | many ts => cases h
    | many ss =>
      cases b with
      | one t => cases h
      | many ts => rw [map_str_inj (Json.Value.arr.inj h)]
  · intro a h
    cases a <;> cases h

theorem optionalJson_budget_inj {x y : Option ThinkingBudget} :
    optionalJson ThinkingBudget.toJson x = optionalJson ThinkingBudget.toJson y ↔ x = y := by
  apply optionalJson_inj
  · intro a b h
    cases a with
    | effort w =>
      cases b with
      | effort v => rw [Json.Value.str.inj h]
      | tokens n => cases h
    | tokens m =>
      cases b with
      | effort v => cases h
      | tokens n => rw [Json.Value.num.inj h]
  · intro a h
    cases a <;> cases h

theorem serializeCallParams_eq_iff {p q : ProviderCallOptions} :
    serializeCallParamsForCache p = serializeCallParamsForCache q ↔ SameCallParams p q := by
  simp only [serializeCallParamsForCache, Json.Value.obj.injEq, List.cons.injEq, Prod.mk.injEq, true_and,
    and_true, optionalJson_num_inj, optionalJson_bool_inj, optionalJson_stop_inj, optionalJson_budget_inj]
  constructor
  · rintro ⟨h1, h2, h3, h4, h5, h6, h7, h8, h9, h10, h11, h12⟩
    exact ⟨h1, h2, h3, h4, h5, h6, h7, h8, h9, h10, h11, h12⟩
  · rintro ⟨h1, h2, h3, h4, h5, h6, h7, h8, h9, h10, h11, h12⟩
    exact ⟨h1, h2, h3, h4, h5, h6, h7, h8, h9, h10, h11, h12⟩

theorem ChatRole.text_inj {r r' : ChatRole} (h : r.text = r'.text) : r = r' := by
  cases r <;> cases r' <;> first | rfl | exact absurd h (by decide)

theorem GatewayToolCall.toJson_inj {c d : GatewayToolCall} (h : c.toJson = d.toJson) : c = d := by
  simp only [GatewayToolCall.toJson, Json.Value.obj.injEq, List.cons.injEq, Prod.mk.injEq, true_and,
    Json.Value.str.injEq, and_true] at h
  cases c
  cases d
  simpa using h

/-- An absent property and an empty one are written differently. -/
theorem ChatMessage.toJson_inj {m n : ChatMessage} (h : m.toJson = n.toJson) : m = n := by
  have hcalls : ∀ cs ds : List GatewayToolCall,
      cs.map GatewayToolCall.toJson = ds.map GatewayToolCall.toJson → cs = ds := fun cs ds h =>
    List.map_injective_iff.mpr (fun _ _ h => GatewayToolCall.toJson_inj h) h
  obtain ⟨role, content, toolCallId, toolCalls⟩ := m
  obtain ⟨role', content', toolCallId', toolCalls'⟩ := n
  simp only [ChatMessage.toJson, Json.Value.obj.injEq, List.cons_append, List.nil_append, List.cons.injEq,
    Prod.mk.injEq, true_and, Json.Value.str.injEq] at h
  obtain ⟨hrole, hcontent, hrest⟩ := h
  have hid : toolCallId = toolCallId' ∧ toolCalls = toolCalls' := by
    cases toolCallId <;> cases toolCallId' <;> cases toolCalls <;> cases toolCalls' <;> simp at hrest ⊢
    all_goals grind
  rw [ChatRole.text_inj hrole, hcontent, hid.1, hid.2]

theorem messagesJson_inj {ms ns : List ChatMessage}
    (h : ms.map ChatMessage.toJson = ns.map ChatMessage.toJson) : ms = ns :=
  List.map_injective_iff.mpr (fun _ _ h => ChatMessage.toJson_inj h) h

/-- The exact key is as fine as the identity, and no finer. -/
theorem buildIdentityKey_eq_iff {cfg : IdentityConfig} {i j : ChatCacheIdentity}
    (hsha : cfg.sha256 (Json.stringify (identityPayload cfg i)) =
        cfg.sha256 (Json.stringify (identityPayload cfg j)) →
      Json.stringify (identityPayload cfg i) = Json.stringify (identityPayload cfg j)) :
    buildIdentityKey cfg i = buildIdentityKey cfg j ↔
      i.modelAlias = j.modelAlias ∧ i.clientId = j.clientId ∧ i.messages = j.messages ∧
        SameCallParams i.callParams j.callParams := by
  constructor
  · intro h
    have hpayload := identityPayload_eq hsha h
    simp only [identityPayload, Json.Value.obj.injEq, List.cons.injEq, Prod.mk.injEq, true_and, and_true,
      Json.Value.str.injEq, Json.Value.arr.injEq] at hpayload
    obtain ⟨halias, hclient, hmessages, -, hparams⟩ := hpayload
    exact ⟨halias, hclient, messagesJson_inj hmessages, serializeCallParams_eq_iff.mp hparams⟩
  · rintro ⟨halias, hclient, hmessages, hparams⟩
    have hpayload : identityPayload cfg i = identityPayload cfg j := by
      unfold identityPayload
      rw [halias, hclient, hmessages, serializeCallParams_eq_iff.mpr hparams]
    rw [buildIdentityKey, buildIdentityKey, hpayload]

/-! ## The semantic text -/

/-- The last user message that is not blank, trimmed. -/
def lastUserMessageText (messages : List ChatMessage) : Option String :=
  (messages.reverse.find? fun m => m.role = .user && (JsString.trim m.content).length > 0).map
    fun m => JsString.trim m.content

/-- Exactly one user message and neither assistant nor tool messages. -/
def isSingleTurnUserRequest (messages : List ChatMessage) : Bool :=
  messages.all (fun m => m.role = .user) && messages.countP (fun m => m.role = .user) = 1

end AiGateway
