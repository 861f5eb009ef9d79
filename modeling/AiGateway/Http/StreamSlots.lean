import AiGateway.Http.Guards
import AiGateway.Integrations.AnthropicRequest
import AiGateway.Integrations.OpenAiRequest
import AiGateway.Lib.Logged
import AiGateway.RateLimit.TokenBucket

/- The slot of a streamed request, from its acquisition to its release. On the native endpoint
   `SmartRateLimitGuard` acquires it and `StreamCleanupInterceptor` releases it; each decides
   from the URL whether the request is a stream, and the guard also reads the flag. On the
   facades the handler does both, with the mapping of the body between the two.

   A request is run with every answer of the limiter and every throw of a step given; what is
   observed are the calls of the limiter. `slot_released_iff` says for which requests the slot
   is released exactly as it was acquired. -/
namespace AiGateway

/-- A call of `SmartRateLimiterService`, with the key it is for. -/
inductive LimiterCall where
  | checkRateLimit (gatewayKey : GatewayKey)
  | checkConcurrentStreams (gatewayKey : GatewayKey) (clientId : ClientId) (allowed : Bool)
  | releaseStream (gatewayKey : GatewayKey)
  deriving DecidableEq, Repr

/-- The answers of the limiter, where it is asked. -/
structure LimiterAnswers where
  rateLimit : RateLimitResult
  streams : RateLimitResult

/-- What each step of a handler throws, if it throws. -/
structure HandlerSteps where
  validationPipe : Option ThrownError := none
  validateForStreaming : Option ThrownError := none
  resolveStreamCache : Option ThrownError := none
  writeHead : Option ThrownError := none
  answer : Option ThrownError := none        -- `replayStreamCacheHit` or `executeStreamMiss`
  endResponse : Option ThrownError := none

abbrev Handled := Logged LimiterCall ThrownError Unit

open Logged (attempt mayThrow throws call finally_)

/-- The 429 of a denied check; `fallback` is its text when the limiter gives no reason. -/
def rateLimited (result : RateLimitResult) (fallback : String) : ThrownError :=
  .http 429 (some "RATE_LIMITED") ((JsString.truthy result.reason).getD fallback) none

/-! ## The native endpoint -/

/-- `req.url.split('?')[0]`. -/
def HttpRequest.path (req : HttpRequest) : String := JsString.beforeFirst '?' req.url

def smartRateLimitGuard (cfg : GuardConfig) (answers : LimiterAnswers) (req : HttpRequest) : Handled :=
  if req.path = "/api/v1/health" then pure ()
  else if !cfg.smartEnabled then pure ()
  else do
    let gatewayKey ← attempt (requireClientGatewayKey req)
    let rateLimitResult ← call (.checkRateLimit gatewayKey) answers.rateLimit
    if !rateLimitResult.allowed then throws (rateLimited rateLimitResult "Rate limit exceeded")
    else if JsString.endsWith req.path "/stream" then do
      let streamsResult ← call (.checkConcurrentStreams gatewayKey
        (resolveClientIdFromKey gatewayKey cfg.clients) answers.streams.allowed) answers.streams
      if !streamsResult.allowed then throws (rateLimited streamsResult "Concurrent streams limit exceeded")
      else pure ()
    else pure ()

/-- `StreamCleanupInterceptor`: `finalize` runs when the handler has completed or thrown. -/
def streamCleanup (req : HttpRequest) (handler : Handled) : Handled :=
  match readClientGatewayKey req, JsString.endsWith req.url "/stream" with
  | some gatewayKey, true => finally_ handler (call (.releaseStream gatewayKey) ())
  | _, _ => handler

/-- From the cache lookup to the end of the response, on all three surfaces. -/
def respond (steps : HandlerSteps) : Handled := do
  mayThrow steps.resolveStreamCache
  mayThrow steps.writeHead
  finally_ (mayThrow steps.answer) (mayThrow steps.endResponse)

/-- `ChatStreamController.streamChat`. -/
def streamChat (req : HttpRequest) (steps : HandlerSteps) : Handled := do
  let _ ← attempt (requireClientGatewayKey req)
  mayThrow steps.validateForStreaming
  respond steps

/-! ## The facades -/

/-- `handleStream` of the facades; they differ in the mapping and in the text of the denial. -/
def handleStream (req : HttpRequest) (gatewayKey : GatewayKey) (answers : LimiterAnswers)
    (steps : HandlerSteps) (denial : String) (mapping : Except ThrownError ChatRequestDto) : Handled := do
  mayThrow steps.validateForStreaming
  let streamsCheck ← call (.checkConcurrentStreams gatewayKey
    ((JsString.truthy req.clientId).getD unknownClient) answers.streams.allowed) answers.streams
  if !streamsCheck.allowed then throws (rateLimited streamsCheck denial)
  else do
    -- outside of the `try`
    let _ ← attempt mapping
    finally_ (respond steps) (call (.releaseStream gatewayKey) ())

/-- The handler of a facade's route; without `stream: true` no stream is counted. -/
def facadeHandler (req : HttpRequest) (answers : LimiterAnswers) (steps : HandlerSteps)
    (stream : Option Bool) (denial : String) (mapping : Except ThrownError ChatRequestDto) : Handled := do
  let gatewayKey ← attempt (requireClientGatewayKey req)
  if stream = some true then handleStream req gatewayKey answers steps denial mapping
  else mayThrow steps.answer

/-! ## A request -/

inductive StreamEndpoint where
  | native
  | openAi (body : OpenAiChatBody)
  | anthropic (body : AnthropicMessagesBody)

namespace StreamEndpoint

def route : StreamEndpoint → String
  | .native => "/api/v1/chat/stream"
  | .openAi _ => "/api/v1/openai/chat/completions"
  | .anthropic _ => "/api/v1/anthropic/messages"

def authKey (req : HttpRequest) : StreamEndpoint → Option GatewayKey
  | .native => readGatewayKeyHeader req
  | .openAi _ => readBearerToken req
  | .anthropic _ => readAnthropicApiKey req

/-- The route streams: always on the native one, with `stream: true` on the facades. -/
def streams : StreamEndpoint → Prop
  | .native => True
  | .openAi body => body.stream = some true
  | .anthropic body => body.stream = some true

end StreamEndpoint

/-- The path of the URL is the route, in any case and with or without a last slash. -/
def routesTo (route : String) (req : HttpRequest) : Bool :=
  let path := req.path.toList.map Char.toLower
  path = route.toList || path = route.toList ++ ['/']

def serveStream (cfg : GuardConfig) (answers : LimiterAnswers) (steps : HandlerSteps) (req : HttpRequest) :
    StreamEndpoint → Handled
  | .native => do
    let req ← attempt (gatewayKeyGuard cfg req)
    smartRateLimitGuard cfg answers req
    streamCleanup req do
      mayThrow steps.validationPipe
      streamChat req steps
  | .openAi body => do
    let req ← attempt (openAiBearerAuthGuard cfg req)
    smartRateLimitGuard cfg answers req
    mayThrow steps.validationPipe
    facadeHandler req answers steps body.stream "Concurrent stream limit exceeded"
      (mapOpenAiChatRequestToGateway body)
  | .anthropic body => do
    let req ← attempt (anthropicApiKeyGuard cfg req)
    smartRateLimitGuard cfg answers req
    mayThrow steps.validationPipe
    facadeHandler req answers steps body.stream "Concurrent streams limit exceeded"
      (mapAnthropicRequestToGateway body)

/-! ## Acquired and released -/

def LimiterCall.isRelease : LimiterCall → Bool
  | .releaseStream _ => true
  | _ => false

/-- A stream check that was allowed. -/
def LimiterCall.isGrant : LimiterCall → Bool
  | .checkConcurrentStreams _ _ allowed => allowed
  | _ => false

/-- Released exactly once if a check was allowed, and not at all otherwise. -/
def SlotReleased (calls : List LimiterCall) : Prop :=
  calls.countP LimiterCall.isRelease = if calls.any LimiterCall.isGrant then 1 else 0

instance (calls : List LimiterCall) : Decidable (SlotReleased calls) := inferInstanceAs (Decidable (_ = _))

/-- The guard on the native route asks for a slot. -/
def guardAcquires (cfg : GuardConfig) (req : HttpRequest) : Bool :=
  cfg.smartEnabled && JsString.endsWith req.path "/stream"

/-- For a request that its key and the rate limit let through: on the native route the guard
and the interceptor take it alike, unless the guard's check denies it; on a facade that gets
as far as an allowed check, the body can be mapped. -/
def SlotKept (cfg : GuardConfig) (answers : LimiterAnswers) (steps : HandlerSteps) (req : HttpRequest)
    (endpoint : StreamEndpoint) : Prop :=
  keyAllowed cfg (endpoint.authKey req) = true → (cfg.smartEnabled = true → answers.rateLimit.allowed = true) →
    match endpoint with
    | .native =>
      (guardAcquires cfg req = true → answers.streams.allowed = true) →
        guardAcquires cfg req = JsString.endsWith req.url "/stream"
    | .openAi body =>
      steps.validationPipe = none → steps.validateForStreaming = none → answers.streams.allowed = true →
        body.Mappable
    | .anthropic body =>
      steps.validationPipe = none → steps.validateForStreaming = none → answers.streams.allowed = true →
        body.Mappable

/-! ## What is called -/

section Guard
variable {cfg : GuardConfig} {answers : LimiterAnswers} {steps : HandlerSteps} {req : HttpRequest}
  {k : GatewayKey}

theorem requireClientGatewayKey_ok (hkey : readClientGatewayKey req = some k) :
    requireClientGatewayKey req = .ok k := by
  simp [requireClientGatewayKey, hkey]

theorem smartRateLimitGuard_off (hsmart : cfg.smartEnabled = false) :
    smartRateLimitGuard cfg answers req = ⟨[], .ok ()⟩ := by
  unfold smartRateLimitGuard
  split
  · rfl
  · simp [hsmart]

theorem smartRateLimitGuard_denied (hpath : req.path ≠ "/api/v1/health") (hsmart : cfg.smartEnabled = true)
    (hkey : readClientGatewayKey req = some k) (hrate : answers.rateLimit.allowed = false) :
    ∃ e, smartRateLimitGuard cfg answers req = ⟨[.checkRateLimit k], .error e⟩ := by
  refine ⟨rateLimited answers.rateLimit "Rate limit exceeded", ?_⟩
  simp [smartRateLimitGuard, hpath, hsmart, requireClientGatewayKey_ok hkey, hrate, attempt, call, throws]

theorem smartRateLimitGuard_plain (hpath : req.path ≠ "/api/v1/health") (hsmart : cfg.smartEnabled = true)
    (hkey : readClientGatewayKey req = some k) (hrate : answers.rateLimit.allowed = true)
    (hstream : JsString.endsWith req.path "/stream" = false) :
    smartRateLimitGuard cfg answers req = ⟨[.checkRateLimit k], .ok ()⟩ := by
  simp [smartRateLimitGuard, hpath, hsmart, requireClientGatewayKey_ok hkey, hrate, hstream, attempt, call]

theorem smartRateLimitGuard_stream (hpath : req.path ≠ "/api/v1/health") (hsmart : cfg.smartEnabled = true)
    (hkey : readClientGatewayKey req = some k) (hrate : answers.rateLimit.allowed = true)
    (hstream : JsString.endsWith req.path "/stream" = true) :
    ∃ e, smartRateLimitGuard cfg answers req =
      ⟨[.checkRateLimit k, .checkConcurrentStreams k (resolveClientIdFromKey k cfg.clients)
          answers.streams.allowed],
        if answers.streams.allowed then .ok () else .error e⟩ := by
  refine ⟨rateLimited answers.streams "Concurrent streams limit exceeded", ?_⟩
  cases hallowed : answers.streams.allowed with
  | true =>
    simp [smartRateLimitGuard, hpath, hsmart, requireClientGatewayKey_ok hkey, hrate, hstream, hallowed,
      attempt, call]
  | false =>
    simp [smartRateLimitGuard, hpath, hsmart, requireClientGatewayKey_ok hkey, hrate, hstream, hallowed,
      attempt, call, throws]

theorem respond_silent : (respond steps).calls = [] := by
  unfold respond
  apply Logged.silent_bind (Logged.calls_mayThrow _)
  intro _
  apply Logged.silent_bind (Logged.calls_mayThrow _)
  intro _
  simp

theorem streamChat_silent : (streamChat req steps).calls = [] := by
  unfold streamChat
  apply Logged.silent_bind (Logged.calls_attempt _)
  intro _
  apply Logged.silent_bind (Logged.calls_mayThrow _)
  intro _
  exact respond_silent

/-- The calls behind the key guard of a facade whose URL is not taken for a stream. -/
theorem facade_calls {stream : Option Bool} {denial : String} {mapping : Except ThrownError ChatRequestDto}
    (hstream : stream = some true) (hkey : readClientGatewayKey req = some k) :
    (facadeHandler req answers steps stream denial mapping).calls =
      if steps.validateForStreaming = none then
        .checkConcurrentStreams k ((JsString.truthy req.clientId).getD unknownClient) answers.streams.allowed ::
          if answers.streams.allowed = true ∧ mapping.isOk then [.releaseStream k] else []
      else [] := by
  cases hvalidate : steps.validateForStreaming with
  | some e =>
    simp [facadeHandler, handleStream, requireClientGatewayKey_ok hkey, hstream, hvalidate, attempt, mayThrow]
  | none =>
    cases hallowed : answers.streams.allowed with
    | false =>
      simp [facadeHandler, handleStream, requireClientGatewayKey_ok hkey, hstream, hvalidate, hallowed,
        attempt, mayThrow, call, throws]
    | true =>
      cases mapping with
      | error e =>
        simp [facadeHandler, handleStream, requireClientGatewayKey_ok hkey, hstream, hvalidate, hallowed,
          attempt, mayThrow, call, Except.isOk, Except.toBool]
      | ok dto =>
        simp [facadeHandler, handleStream, requireClientGatewayKey_ok hkey, hstream, hvalidate, hallowed,
          attempt, mayThrow, call, respond_silent, Except.isOk, Except.toBool]

theorem slotReleased_nil : SlotReleased [] := rfl

theorem slotReleased_checkRateLimit {calls : List LimiterCall} :
    SlotReleased (.checkRateLimit k :: calls) ↔ SlotReleased calls := by
  simp [SlotReleased, LimiterCall.isRelease, LimiterCall.isGrant]

/-- Behind the two guards of a facade. -/
theorem facade_tail (answers : LimiterAnswers) (steps : HandlerSteps) (denial : String) {stream : Option Bool}
    (mapping : Except ThrownError ChatRequestDto) (hstream : stream = some true) (hkey : readClientGatewayKey req = some k) :
    SlotReleased (do
      mayThrow steps.validationPipe
      facadeHandler req answers steps stream denial mapping : Handled).calls ↔
      (steps.validationPipe = none → steps.validateForStreaming = none → answers.streams.allowed = true →
        Fallible.Succeeds mapping) := by
  cases hpipe : steps.validationPipe with
  | some e => simp [mayThrow, slotReleased_nil]
  | none =>
    simp only [mayThrow, Logged.bind_ok, List.nil_append, facade_calls hstream hkey, true_implies]
    cases steps.validateForStreaming with
    | some e => simp [slotReleased_nil]
    | none =>
      cases answers.streams.allowed with
      | false => simp [SlotReleased, LimiterCall.isRelease, LimiterCall.isGrant]
      | true =>
        cases mapping with
        | error e =>
          simp [SlotReleased, LimiterCall.isRelease, LimiterCall.isGrant, Except.isOk, Except.toBool,
            Fallible.not_succeeds_error]
        | ok dto =>
          simp [SlotReleased, LimiterCall.isRelease, LimiterCall.isGrant, Except.isOk, Except.toBool,
            Fallible.succeeds_ok]

theorem facade_slot {missing invalid denial : String} {key : Option GatewayKey} {stream : Option Bool}
    {mapping : Except ThrownError ChatRequestDto} (htrim : ∀ k, key = some k → JsString.trim k = k)
    (hpath : req.path ≠ "/api/v1/health") (hnot : JsString.endsWith req.path "/stream" = false)
    (hstream : stream = some true) :
    SlotReleased (do
      let req ← attempt (keyGuard cfg missing invalid key req)
      smartRateLimitGuard cfg answers req
      mayThrow steps.validationPipe
      facadeHandler req answers steps stream denial mapping : Handled).calls ↔
      (keyAllowed cfg key = true → (cfg.smartEnabled = true → answers.rateLimit.allowed = true) →
        steps.validationPipe = none → steps.validateForStreaming = none → answers.streams.allowed = true →
        Fallible.Succeeds mapping) := by
  cases hguard : keyGuard cfg missing invalid key req with
  | error e =>
    have hdenied := keyGuard_denied hguard
    simp [attempt, slotReleased_nil, hdenied]
  | ok req' =>
    have hallowed : keyAllowed cfg key = true := (keyGuard_succeeds req).mp ⟨req', hguard⟩
    obtain ⟨k, rfl, hne, -, rfl⟩ := keyGuard_ok hguard
    have hkey := readClientGatewayKey_enrich cfg req (htrim k rfl) hne
    have htail := facade_tail answers steps denial mapping hstream hkey
    -- the guards leave the URL as it is
    have hpath' : (enrichRequestWithClientId cfg req k).path ≠ "/api/v1/health" := hpath
    simp only [attempt, Logged.bind_ok, List.nil_append, hallowed, true_implies]
    cases hsmart : cfg.smartEnabled with
    | false => simpa [smartRateLimitGuard_off hsmart] using htail
    | true =>
      cases hrate : answers.rateLimit.allowed with
      | false =>
        obtain ⟨e, he⟩ := smartRateLimitGuard_denied hpath' hsmart hkey hrate
        rw [he]
        simp [slotReleased_checkRateLimit, slotReleased_nil]
      | true =>
        rw [smartRateLimitGuard_plain hpath' hsmart hkey hrate hnot]
        simpa [slotReleased_checkRateLimit] using htail

theorem streamCleanup_calls {handler : Handled} (hkey : readClientGatewayKey req = some k)
    (hsilent : handler.calls = []) :
    (streamCleanup req handler).calls =
      if JsString.endsWith req.url "/stream" then [.releaseStream k] else [] := by
  cases hurl : JsString.endsWith req.url "/stream" with
  | false => simp [streamCleanup, hkey, hurl, hsilent]
  | true => simp [streamCleanup, hkey, hurl, hsilent, call]

theorem native_slot (hpath : req.path ≠ "/api/v1/health") :
    SlotReleased (serveStream cfg answers steps req .native).calls ↔
      SlotKept cfg answers steps req .native := by
  simp only [SlotKept, StreamEndpoint.authKey, serveStream]
  cases hguard : gatewayKeyGuard cfg req with
  | error e =>
    have hdenied : ¬ keyAllowed cfg (readGatewayKeyHeader req) = true := keyGuard_denied hguard
    simp [attempt, slotReleased_nil, hdenied]
  | ok req' =>
    have hallowed : keyAllowed cfg (readGatewayKeyHeader req) = true :=
      (keyGuard_succeeds req).mp ⟨req', hguard⟩
    obtain ⟨k, hheader, hne, -, rfl⟩ := keyGuard_ok hguard
    have hkey := readClientGatewayKey_enrich cfg req (trim_gatewayKeyHeader hheader) hne
    -- the guards leave the URL as it is
    have hpath' : (enrichRequestWithClientId cfg req k).path ≠ "/api/v1/health" := hpath
    have hsilent : (mayThrow steps.validationPipe >>= fun _ =>
        streamChat (enrichRequestWithClientId cfg req k) steps).calls = [] := by
      apply Logged.silent_bind (Logged.calls_mayThrow _)
      intro _
      exact streamChat_silent
    have hcleanup := streamCleanup_calls hkey hsilent
    have hurl : (enrichRequestWithClientId cfg req k).url = req.url := rfl
    simp only [attempt, Logged.bind_ok, List.nil_append, hallowed, true_implies]
    cases hsmart : cfg.smartEnabled with
    | false =>
      rw [smartRateLimitGuard_off hsmart, Logged.bind_ok, hcleanup, hurl]
      cases JsString.endsWith req.url "/stream" <;>
        simp [guardAcquires, hsmart, SlotReleased, LimiterCall.isRelease, LimiterCall.isGrant]
    | true =>
      cases hrate : answers.rateLimit.allowed with
      | false =>
        obtain ⟨e, he⟩ := smartRateLimitGuard_denied hpath' hsmart hkey hrate
        rw [he]
        simp [slotReleased_checkRateLimit, slotReleased_nil]
      | true =>
        cases hstream : JsString.endsWith req.path "/stream" with
        | false =>
          rw [smartRateLimitGuard_plain hpath' hsmart hkey hrate hstream, Logged.bind_ok, hcleanup, hurl]
          cases JsString.endsWith req.url "/stream" <;>
            simp [guardAcquires, hsmart, hstream, SlotReleased, LimiterCall.isRelease, LimiterCall.isGrant]
        | true =>
          obtain ⟨e, he⟩ := smartRateLimitGuard_stream hpath' hsmart hkey hrate hstream
          rw [he]
          cases answers.streams.allowed with
          | false => simp [guardAcquires, hsmart, hstream, SlotReleased, LimiterCall.isRelease, LimiterCall.isGrant]
          | true =>
            simp only [if_true, Logged.bind_ok, hcleanup, hurl]
            cases JsString.endsWith req.url "/stream" <;>
              simp [guardAcquires, hsmart, hstream, SlotReleased, LimiterCall.isRelease, LimiterCall.isGrant]

end Guard

/-! ## Routing -/

section Routing
variable {req : HttpRequest} {route : String}

/-- A path that routes somewhere is not the health path. -/
theorem path_ne_health (hroutes : routesTo route req = true)
    (hroute : "/api/v1/health".toList ≠ route.toList ∧ "/api/v1/health".toList ≠ route.toList ++ ['/']) :
    req.path ≠ "/api/v1/health" := by
  intro hpath
  have hlower : "/api/v1/health".toList.map Char.toLower = "/api/v1/health".toList := by decide
  simp only [routesTo, hpath, hlower, Bool.or_eq_true, decide_eq_true_eq] at hroutes
  rcases hroutes with h | h
  · exact hroute.1 h
  · exact hroute.2 h

/-- Nor does it end in `/stream` if the route does not. -/
theorem path_not_stream (hroutes : routesTo route req = true)
    (hroute : ¬ "/stream".toList <:+ route.toList ∧ ¬ "/stream".toList <:+ route.toList ++ ['/']) :
    JsString.endsWith req.path "/stream" = false := by
  apply Bool.eq_false_iff.mpr
  intro hends
  have hsuffix : "/stream".toList <:+ req.path.toList := of_decide_eq_true hends
  have hlower : "/stream".toList.map Char.toLower = "/stream".toList := by decide
  have hmap : "/stream".toList <:+ req.path.toList.map Char.toLower := by
    rw [← hlower]
    exact hsuffix.map Char.toLower
  simp only [routesTo, Bool.or_eq_true, decide_eq_true_eq] at hroutes
  rcases hroutes with h | h
  · rw [h] at hmap; exact hroute.1 hmap
  · rw [h] at hmap; exact hroute.2 hmap

end Routing

theorem slot_released_iff (cfg : GuardConfig) (answers : LimiterAnswers) (steps : HandlerSteps)
    (req : HttpRequest) (endpoint : StreamEndpoint) (hroutes : routesTo endpoint.route req = true)
    (hstreams : endpoint.streams) :
    SlotReleased (serveStream cfg answers steps req endpoint).calls ↔
      SlotKept cfg answers steps req endpoint := by
  cases endpoint with
  | native => exact native_slot (path_ne_health hroutes (by decide))
  | openAi body =>
    have hroutes' : routesTo "/api/v1/openai/chat/completions" req = true := hroutes
    simp only [SlotKept, ← mapOpenAiChatRequestToGateway_succeeds]
    apply facade_slot
    · intro k hk
      exact trim_bearerToken hk
    · exact path_ne_health hroutes' (by decide)
    · exact path_not_stream hroutes' (by decide)
    · exact hstreams
  | anthropic body =>
    have hroutes' : routesTo "/api/v1/anthropic/messages" req = true := hroutes
    simp only [SlotKept, ← mapAnthropicRequestToGateway_succeeds]
    apply facade_slot
    · intro k hk
      exact trim_anthropicApiKey hk
    · exact path_ne_health hroutes' (by decide)
    · exact path_not_stream hroutes' (by decide)
    · exact hstreams

/-- One client, its key on the allow list, smart limits on. -/
def oneClient : GuardConfig where
  allowList := ["gw_key"]
  clients := [⟨"ide", "ide", .ide, "IDE_KEY", "gw_key", none⟩]
  smartEnabled := true

def allAllowed : LimiterAnswers := ⟨⟨true, 1, 0, none⟩, ⟨true, 1, 0, none⟩⟩

def streamUrl (url : String) : HttpRequest := { url := url, xGatewayKey := some (.one "gw_key") }

/-- A plain stream whose provider call fails gives its slot back. -/
theorem failed_stream_released :
    SlotReleased (serveStream oneClient allAllowed { answer := some (.other "socket hang up") }
      (streamUrl "/api/v1/chat/stream") .native).calls := by
  refine (slot_released_iff oneClient allAllowed { answer := some (.other "socket hang up") }
    (streamUrl "/api/v1/chat/stream") .native (by decide) trivial).mpr ?_
  intro _ _ _
  decide

/-- With a query string the guard takes the slot and the interceptor does not see a stream. -/
theorem query_string_leaks_slot :
    ¬ ∀ (cfg : GuardConfig) (answers : LimiterAnswers) (steps : HandlerSteps) (req : HttpRequest)
      (endpoint : StreamEndpoint), routesTo endpoint.route req = true → endpoint.streams →
        SlotReleased (serveStream cfg answers steps req endpoint).calls := by
  intro hall
  have hleak := hall oneClient allAllowed {} (streamUrl "/api/v1/chat/stream?x=1") .native (by decide) trivial
  revert hleak
  decide

end AiGateway
