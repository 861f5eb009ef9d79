import AiGateway.Chat.Resilience
import AiGateway.Config.Clients
import AiGateway.Lib.Fallible

/- Who is calling: the key readers of the three surfaces, their key guards, and the client id
   that an accepted request carries from there on.

   `keyGuard_ok`: a request that passes a key guard carries the key it was read with, which is
   on the allow list, and the client id that key resolves to. -/
namespace AiGateway

/-- A header as Node hands it over. -/
inductive HeaderValue where
  | one (s : String)
  | many (ss : List String)
  deriving DecidableEq, Repr

/-- What the guards and handlers read of a request; the guards set the last two fields. -/
structure HttpRequest where
  url : String
  xGatewayKey : Option HeaderValue := none
  authorization : Option HeaderValue := none
  xApiKey : Option String := none
  gatewayKey : Option GatewayKey := none
  clientId : Option ClientId := none
  deriving DecidableEq, Repr

/-- The `gatewayKey` section of the configuration and `RATE_LIMIT_SMART_ENABLED`. -/
structure GuardConfig where
  allowList : List GatewayKey
  clients : List ResolvedGatewayClient
  smartEnabled : Bool

/-! ## Reading keys -/

def readGatewayKeyHeader (req : HttpRequest) : Option GatewayKey :=
  let raw := match req.xGatewayKey with
    | some (.one s) => some s
    | some (.many ss) => ss.head?
    | none => none
  JsString.truthy (raw.map JsString.trim)

def readClientGatewayKey (req : HttpRequest) : Option GatewayKey :=
  (JsString.truthy (req.gatewayKey.map JsString.trim)).or (readGatewayKeyHeader req)

/-- `requireClientGatewayKey`, and `SmartRateLimitGuard.requireGatewayKey` likewise. -/
def requireClientGatewayKey (req : HttpRequest) : Except ThrownError GatewayKey :=
  match readClientGatewayKey req with
  | some key => .ok key
  | none => .error (.http 401 (some "GATEWAY_KEY_MISSING") "Missing client gateway key." none)

def readAuthorizationHeader (req : HttpRequest) : Option String :=
  match req.authorization with
  | some (.one s) => some (JsString.trim s)
  | some (.many ss) => (ss.find? (· ≠ "")).map JsString.trim
  | none => none

def isLineTerminator (c : Char) : Bool := c.toNat ∈ [0xA, 0xD, 0x2028, 0x2029]

/-- `/^Bearer\s+(.+)$/i` on a trimmed value: what follows the word and the blanks after it. -/
def bearerMatch (value : String) : Option String :=
  let rest := value.toList.drop 6
  let token := rest.dropWhile JsString.isWhiteSpace
  if (value.toList.take 6).map Char.toLower = "bearer".toList && rest.head?.any JsString.isWhiteSpace &&
      !token.isEmpty && !token.any isLineTerminator then
    some (String.ofList token)
  else none

def readBearerToken (req : HttpRequest) : Option String :=
  ((JsString.truthy (readAuthorizationHeader req)).bind bearerMatch).map JsString.trim

def readAnthropicApiKey (req : HttpRequest) : Option String :=
  (JsString.truthy (req.xApiKey.map JsString.trim)).or (readBearerToken req)

/-! ## The key guards -/

def enrichRequestWithClientId (cfg : GuardConfig) (req : HttpRequest) (gatewayKey : GatewayKey) : HttpRequest :=
  { req with gatewayKey := some gatewayKey, clientId := some (resolveClientIdFromKey gatewayKey cfg.clients) }

/-- The body of the three key guards; they differ in where the key is read and in two texts. -/
def keyGuard (cfg : GuardConfig) (missing invalid : String) (key : Option GatewayKey) (req : HttpRequest) :
    Except ThrownError HttpRequest :=
  if cfg.allowList.length = 0 then
    .error (.http 500 (some "GATEWAY_KEY_NOT_CONFIGURED") "Gateway key allowlist is not configured." none)
  else match JsString.truthy key with
    | none => .error (.http 401 (some "GATEWAY_KEY_MISSING") missing none)
    | some key =>
      if key ∈ cfg.allowList then .ok (enrichRequestWithClientId cfg req key)
      else .error (.http 403 (some "GATEWAY_KEY_INVALID") invalid none)

def gatewayKeyGuard (cfg : GuardConfig) (req : HttpRequest) : Except ThrownError HttpRequest :=
  keyGuard cfg "Missing X-Gateway-Key header value." "Invalid X-Gateway-Key header value."
    (readGatewayKeyHeader req) req

def openAiBearerAuthGuard (cfg : GuardConfig) (req : HttpRequest) : Except ThrownError HttpRequest :=
  keyGuard cfg "Missing Authorization: Bearer token." "Invalid Authorization: Bearer token."
    (readBearerToken req) req

def anthropicApiKeyGuard (cfg : GuardConfig) (req : HttpRequest) : Except ThrownError HttpRequest :=
  keyGuard cfg "Missing x-api-key or Authorization header." "Invalid API key." (readAnthropicApiKey req) req

/-! ## What an accepted request carries -/

/-- The key is present and on the allow list. -/
def keyAllowed (cfg : GuardConfig) (key : Option GatewayKey) : Bool :=
  (JsString.truthy key).any fun k => k ∈ cfg.allowList

theorem keyGuard_ok {cfg : GuardConfig} {missing invalid : String} {key : Option GatewayKey}
    {req req' : HttpRequest} (h : keyGuard cfg missing invalid key req = .ok req') :
    ∃ k, key = some k ∧ k ≠ "" ∧ k ∈ cfg.allowList ∧ req' = enrichRequestWithClientId cfg req k := by
  unfold keyGuard at h
  split at h
  · cases h
  · split at h
    · cases h
    · next k hk =>
      split at h
      · next hmem =>
        have hkey := Option.filter_eq_some_iff.mp hk
        refine ⟨k, hkey.1, by simpa using hkey.2, hmem, ?_⟩
        exact (Except.ok.inj h).symm
      · cases h

theorem keyGuard_succeeds {cfg : GuardConfig} {missing invalid : String} {key : Option GatewayKey}
    (req : HttpRequest) :
    Fallible.Succeeds (keyGuard cfg missing invalid key req) ↔ keyAllowed cfg key = true := by
  unfold keyGuard keyAllowed
  by_cases hempty : cfg.allowList.length = 0
  · -- an empty list allows nobody
    have hnil : cfg.allowList = [] := List.length_eq_zero_iff.mp hempty
    cases JsString.truthy key <;> simp [hnil, Fallible.not_succeeds_error]
  · cases JsString.truthy key with
    | none => simp [hempty, Fallible.not_succeeds_error]
    | some k =>
      by_cases hmem : k ∈ cfg.allowList
      · simp [hempty, hmem, Fallible.succeeds_ok]
      · simp [hempty, hmem, Fallible.not_succeeds_error]

/-- A request that a guard throws out has no key of the list. -/
theorem keyGuard_denied {cfg : GuardConfig} {missing invalid : String} {key : Option GatewayKey} {req : HttpRequest}
    {e : ThrownError} (h : keyGuard cfg missing invalid key req = .error e) : ¬ keyAllowed cfg key = true := by
  rw [← keyGuard_succeeds req, h]
  exact Fallible.not_succeeds_error e

/-- Every reader returns a trimmed key. -/
theorem trim_of_truthy_map {raw : Option String} {k : String}
    (h : JsString.truthy (raw.map JsString.trim) = some k) : JsString.trim k = k := by
  have hmap := (Option.filter_eq_some_iff.mp h).1
  obtain ⟨s, -, rfl⟩ := Option.map_eq_some_iff.mp hmap
  exact JsString.trim_trim s

theorem trim_gatewayKeyHeader {req : HttpRequest} {k : GatewayKey}
    (h : readGatewayKeyHeader req = some k) : JsString.trim k = k := trim_of_truthy_map h

theorem trim_bearerToken {req : HttpRequest} {k : GatewayKey} (h : readBearerToken req = some k) :
    JsString.trim k = k := by
  obtain ⟨s, -, rfl⟩ := Option.map_eq_some_iff.mp h
  exact JsString.trim_trim s

theorem trim_anthropicApiKey {req : HttpRequest} {k : GatewayKey} (h : readAnthropicApiKey req = some k) :
    JsString.trim k = k := by
  rcases Option.or_eq_some_iff.mp h with h | ⟨-, h⟩
  · exact trim_of_truthy_map h
  · exact trim_bearerToken h

/-- Behind a key guard the request's key is read back as it is. -/
theorem readClientGatewayKey_enrich (cfg : GuardConfig) (req : HttpRequest) {k : GatewayKey}
    (htrim : JsString.trim k = k) (hne : k ≠ "") :
    readClientGatewayKey (enrichRequestWithClientId cfg req k) = some k := by
  simp [readClientGatewayKey, enrichRequestWithClientId, JsString.truthy, htrim, hne]

end AiGateway
