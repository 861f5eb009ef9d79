import AiGateway.Chat.ErrorTable
import AiGateway.Http.StreamSlots

/- What a client is told of a failed chat request: `GlobalExceptionFilter` answers on the native
   routes, `OpenAiExceptionFilter` and `AnthropicExceptionFilter` on the facades. Each reads the
   exception for itself and names the kind of error in its own words, by the code, by the code
   before the status, or by the status before anything else is left.

   On arbitrary exceptions the three disagree: a 422 is an `api_error` to an Anthropic client and
   an `invalid_request_error` to an OpenAI one. `errors_told_alike`: of an error that the guards,
   the validation or the handler of a chat request end in they tell the same, and nothing of one
   that is no `HttpException`. (Where the head of a streamed response is out, the answer is too
   late and the stream just ends.) -/
namespace AiGateway

/-! ## The filters -/

/-- The `message` of the body of an `HttpException`. -/
inductive MessageField where
  | text (message : String)
  | texts (messages : List String)
  | mixed (joined : String)   -- an array with something else in it; `joined` is its `join('; ')`
  | missing                   -- neither a text nor an array
  deriving DecidableEq, Repr

/-- What is read of the body; `code` and `requestId` where they are texts, `details` where they
are an array. -/
structure ExceptionBody where
  message : MessageField
  code : Option String
  requestId : Option String
  details : Option (List Json.Value)

/-- `getResponse()`. -/
inductive ExceptionResponse where
  | text (message : String)
  | object (body : ExceptionBody)
  | other                     -- `null` or an array

inductive RaisedException where
  | http (status : ℕ) (response : ExceptionResponse)
  | tooLarge                  -- the `entity.too.large` of the body parser
  | other

/-- `DEFAULT_HTTP_STATUS_TO_CODE[status] ?? INTERNAL_SERVER_ERROR`. -/
def mapHttpStatusToCode (status : ℕ) : String :=
  match status with
  | 400 | 413 => "VALIDATION_FAILED"
  | 401 => "PROVIDER_AUTH_FAILED"
  | 403 => "GATEWAY_KEY_INVALID"
  | 404 => "MODEL_ALIAS_NOT_FOUND"
  | 429 => "RATE_LIMITED"
  | 502 | 503 => "PROVIDER_UNAVAILABLE"
  | 504 => "PROVIDER_TIMEOUT"
  | _ => "INTERNAL_SERVER_ERROR"

/-- The body that `GlobalExceptionFilter` sends, and its status. -/
structure ErrorEnvelope where
  statusCode : ℕ
  code : String
  message : String
  requestId : String
  details : List Json.Value

/-- `normalizeMessage`, joined. -/
def MessageField.normalized : MessageField → String
  | .text message => message
  | .texts messages => "; ".intercalate messages
  | .mixed _ | .missing => "An unexpected error occurred"

/-- `requestId` is that of the request. -/
def globalExceptionFilter (requestId : Option String) (exception : RaisedException) : ErrorEnvelope :=
  let known := (JsString.truthy requestId).getD "unknown"
  match exception with
  | .http status (.text message) => ⟨status, mapHttpStatusToCode status, message, known, []⟩
  | .http status (.object body) =>
    { statusCode := status
      code := body.code.getD (mapHttpStatusToCode status)
      message := body.message.normalized
      requestId := (JsString.truthy (body.requestId.map JsString.trim)).getD known
      details := body.details.getD [] }
  | .http status .other => ⟨status, mapHttpStatusToCode status, "An unexpected error occurred", known, []⟩
  | .tooLarge => ⟨413, "VALIDATION_FAILED", "request entity too large", known, []⟩
  | .other => ⟨500, "INTERNAL_SERVER_ERROR", "An unexpected error occurred", known, []⟩

/-- What the facades read of a message; `fallback` stands where there is none. -/
def MessageField.joined (fallback : String) : MessageField → String
  | .text message => message
  | .texts messages => "; ".intercalate messages
  | .mixed joined => joined
  | .missing => fallback

/-- Message and code that both facades take from a response. -/
def readResponse (fallback : String) : ExceptionResponse → String × Option String
  | .text message => (message, none)
  | .object body => (body.message.joined fallback, body.code)
  | .other => (fallback, none)

def isRateLimitCode (code : Option String) : Bool := code = some "RATE_LIMITED" || code = some "PROVIDER_RATE_LIMITED"

def isUnsupportedCode (code : Option String) : Bool :=
  code = some "TOOLS_NOT_SUPPORTED" || code = some "THINKING_NOT_SUPPORTED"

/-- `param` is always `null`. -/
structure OpenAiErrorAnswer where
  status : ℕ
  message : String
  type : String
  code : Option String
  requestIdHeader : Option String

def openAiErrorType (status : ℕ) (code : Option String) : String :=
  if isRateLimitCode code then "rate_limit_error"
  else if isUnsupportedCode code then "invalid_request_error"
  else if status = 401 || status = 403 then "authentication_error"
  else if status = 400 then "invalid_request_error"
  else if 500 ≤ status && status ≤ 599 then "server_error"
  else "invalid_request_error"

def openAiExceptionFilter (requestId : Option String) (exception : RaisedException) : OpenAiErrorAnswer :=
  let header := JsString.truthy requestId
  match exception with
  | .http status response =>
    let (message, code) := readResponse "An unexpected error occurred" response
    ⟨status, message, openAiErrorType status code, code, header⟩
  | .tooLarge | .other => ⟨500, "An unexpected error occurred", "server_error", none, header⟩

structure AnthropicErrorAnswer where
  status : ℕ
  type : String
  message : String

def anthropicErrorType (status : ℕ) (code : Option String) : String :=
  if isRateLimitCode code then "rate_limit_error"
  else if isUnsupportedCode code then "invalid_request_error"
  else if status = 401 || status = 403 then "authentication_error"
  else if status = 429 then "rate_limit_error"
  else if status = 400 then "invalid_request_error"
  else if 500 ≤ status && status ≤ 599 then "api_error"
  else "api_error"

def anthropicExceptionFilter (exception : RaisedException) : AnthropicErrorAnswer :=
  match exception with
  | .http status response =>
    let (message, code) := readResponse "An unexpected error occurred." response
    ⟨status, anthropicErrorType status code, message⟩
  | .tooLarge | .other => ⟨500, "api_error", "An unexpected error occurred."⟩

/-! ## What an answer says -/

inductive ErrorKind where
  | rateLimit | authentication | invalidRequest | server
  deriving DecidableEq, Repr

/-- The kind, by the status. -/
def kindOf (status : ℕ) : ErrorKind :=
  if status = 429 then .rateLimit
  else if status = 401 || status = 403 then .authentication
  else if status < 500 then .invalidRequest
  else .server

/-- A native client goes by the code. -/
def nativeKind (code : String) : Option ErrorKind :=
  if code ∈ ["RATE_LIMITED", "PROVIDER_RATE_LIMITED"] then some .rateLimit
  else if code ∈ ["PROVIDER_AUTH_FAILED", "GATEWAY_KEY_MISSING", "GATEWAY_KEY_INVALID"] then some .authentication
  else if code ∈ ["VALIDATION_FAILED", "MODEL_ALIAS_NOT_FOUND", "MODEL_NOT_ALLOWED", "STREAMING_NOT_SUPPORTED",
      "TOOLS_NOT_SUPPORTED", "THINKING_NOT_SUPPORTED"] then some .invalidRequest
  else if code ∈ ["INTERNAL_SERVER_ERROR", "GATEWAY_KEY_NOT_CONFIGURED", "PROVIDER_UNSUPPORTED", "PROVIDER_TIMEOUT",
      "PROVIDER_UNAVAILABLE"] then some .server
  else none

/-- The client of a facade goes by the type; the server's own errors have another one on each. -/
def facadeKind (server : String) (type : String) : Option ErrorKind :=
  if type = "rate_limit_error" then some .rateLimit
  else if type = "authentication_error" then some .authentication
  else if type = "invalid_request_error" then some .invalidRequest
  else if type = server then some .server
  else none

/-- The exception of an error, as it reaches a filter. -/
inductive Raised : ThrownError → RaisedException → Prop where
  | text (status : ℕ) (code : Option String) (message : String) (summary : Option ExhaustedDetails)
      (requestId : Option String) (details : Option (List Json.Value)) :
      Raised (.http status code message summary) (.http status (.object ⟨.text message, code, requestId, details⟩))
  | texts (status : ℕ) (code : Option String) (messages : List String) (summary : Option ExhaustedDetails)
      (requestId : Option String) (details : Option (List Json.Value)) :
      Raised (.http status code ("; ".intercalate messages) summary)
        (.http status (.object ⟨.texts messages, code, requestId, details⟩))
  | other (message : String) : Raised (.other message) .other

/-- The three answers say the same, and of an error of the server's own nothing but that. -/
structure ToldAlike (requestId : Option String) (e : ThrownError) (x : RaisedException) : Prop where
  status : (openAiExceptionFilter requestId x).status = (globalExceptionFilter requestId x).statusCode ∧
    (anthropicExceptionFilter x).status = (globalExceptionFilter requestId x).statusCode
  kind : nativeKind (globalExceptionFilter requestId x).code = some (kindOf (globalExceptionFilter requestId x).statusCode) ∧
    facadeKind "server_error" (openAiExceptionFilter requestId x).type =
      some (kindOf (globalExceptionFilter requestId x).statusCode) ∧
    facadeKind "api_error" (anthropicExceptionFilter x).type =
      some (kindOf (globalExceptionFilter requestId x).statusCode)
  message : ∀ status code message summary, e = .http status code message summary →
    (globalExceptionFilter requestId x).message = message ∧ (openAiExceptionFilter requestId x).message = message ∧
      (anthropicExceptionFilter x).message = message
  untold : ∀ text, e = .other text →
    (globalExceptionFilter requestId x).message = "An unexpected error occurred" ∧
      (openAiExceptionFilter requestId x).message = "An unexpected error occurred" ∧
      (anthropicExceptionFilter x).message = "An unexpected error occurred."

/-- Every entry of the table is of one kind to all clients. -/
theorem errorTable_kinds : ∀ entry ∈ errorTable,
    nativeKind (entry.2.getD (mapHttpStatusToCode entry.1)) = some (kindOf entry.1) ∧
      facadeKind "server_error" (openAiErrorType entry.1 entry.2) = some (kindOf entry.1) ∧
      facadeKind "api_error" (anthropicErrorType entry.1 entry.2) = some (kindOf entry.1) := by
  decide

theorem told_alike {requestId : Option String} {e : ThrownError} {x : RaisedException} (hlisted : e.Listed)
    (hraised : Raised e x) : ToldAlike requestId e x := by
  cases hraised with
  | text status code message summary bodyId details =>
    refine ⟨⟨rfl, rfl⟩, errorTable_kinds (status, code) hlisted, ?_, nofun⟩
    intro _ _ _ _ h
    cases h
    exact ⟨rfl, rfl, rfl⟩
  | texts status code messages summary bodyId details =>
    refine ⟨⟨rfl, rfl⟩, errorTable_kinds (status, code) hlisted, ?_, nofun⟩
    intro _ _ _ _ h
    cases h
    exact ⟨rfl, rfl, rfl⟩
  | other message =>
    refine ⟨⟨rfl, rfl⟩, ?_, nofun, fun _ _ => ⟨rfl, rfl, rfl⟩⟩
    show nativeKind "INTERNAL_SERVER_ERROR" = some (kindOf 500) ∧ facadeKind "server_error" "server_error" = some (kindOf 500) ∧
      facadeKind "api_error" "api_error" = some (kindOf 500)
    decide

/-! ## What a request ends in -/

/-- What a step of a handler throws, and the pipe before it: each error comes from a check, a
mapper or an execution, or is no `HttpException`. -/
inductive ChatFails : ThrownError → Prop where
  | own (message : String) : ChatFails (.other message)
  -- the `BadRequestException` of `ValidationPipe`
  | invalidBody (messages : List String) : ChatFails (.http 400 none ("; ".intercalate messages) none)
  | ingress (e : NativeIngress.IngressError) : ChatFails e.thrown
  | openAiBody {body : OpenAiChatBody} {e : ThrownError} (h : mapOpenAiChatRequestToGateway body = .error e) : ChatFails e
  | anthropicBody {body : AnthropicMessagesBody} {e : ThrownError} (h : mapAnthropicRequestToGateway body = .error e) :
      ChatFails e
  | notStreamed {reg : ProviderRegistry} {modelAlias : String} {e : ThrownError}
      (h : validateForStreaming reg modelAlias = .error e) : ChatFails e
  | cooldown (reason : String) : ChatFails (cooldownRejection reason)
  | notPrepared {ctx : CallContext} {c : ChatCall} {early cooldown : Option ThrownError} {e : ThrownError}
      (hearly : ∀ e ∈ early, ChatFails e) (hcooldown : ∀ e ∈ cooldown, ChatFails e)
      (h : prepareRequestForExecution ctx c early cooldown = .error e) : ChatFails e
  | notAnswered {α : Type} {ctx : CallContext} {mode : CallMode} {c : ChatCall} {w : CallWorld α} {o : ExecutionOptions}
      {e : ThrownError} (hadapters : AdaptersMap w)
      (h : (executeWithRetryAndFallback o (runOnce ctx mode c w o.retry.timeoutMs)).outcome = .error e) : ChatFails e

theorem ChatFails.listed {e : ThrownError} (h : ChatFails e) : e.Listed := by
  induction h with
  | own message => trivial
  | invalidBody messages =>
    show (400, none) ∈ errorTable
    decide
  | ingress e => exact ingress_listed e
  | openAiBody h => exact mapOpenAi_listed _ _ h
  | anthropicBody h => exact mapAnthropic_listed _ _ h
  | notStreamed h => exact validateForStreaming_listed _ _ _ h
  | cooldown reason => exact cooldown_listed reason
  | notPrepared _ _ h ihearly ihcooldown => exact prepareRequest_listed ihearly ihcooldown _ h
  | notAnswered hadapters h => exact execute_listed (runOnce_listed hadapters _) _ h

/-- What the steps throw. -/
def HandlerSteps.thrown (steps : HandlerSteps) : List ThrownError :=
  [steps.validationPipe, steps.validateForStreaming, steps.resolveStreamCache, steps.writeHead, steps.answer,
    steps.endResponse].reduceOption

/-- `POST /api/v1/chat`; `answer` is `executeChat`. -/
def serveChat (cfg : GuardConfig) (answers : LimiterAnswers) (steps : HandlerSteps) (req : HttpRequest) : Handled := do
  let req ← Logged.attempt (gatewayKeyGuard cfg req)
  smartRateLimitGuard cfg answers req
  Logged.mayThrow steps.validationPipe
  let _ ← Logged.attempt (requireClientGatewayKey req)
  Logged.mayThrow steps.answer

section Served
variable {cfg : GuardConfig} {answers : LimiterAnswers} {steps : HandlerSteps} {req : HttpRequest}

theorem requireClientGatewayKey_listed : FailsIn ThrownError.Listed (requireClientGatewayKey req) := by
  have hmissing : (401, some "GATEWAY_KEY_MISSING") ∈ errorTable := by decide
  unfold requireClientGatewayKey
  split
  · exact FailsIn.ok _
  · exact FailsIn.error hmissing

theorem keyGuard_listed (missing invalid : String) (key : Option GatewayKey) :
    FailsIn ThrownError.Listed (keyGuard cfg missing invalid key req) := by
  have hunconfigured : (500, some "GATEWAY_KEY_NOT_CONFIGURED") ∈ errorTable := by decide
  have hmissing : (401, some "GATEWAY_KEY_MISSING") ∈ errorTable := by decide
  have hinvalid : (403, some "GATEWAY_KEY_INVALID") ∈ errorTable := by decide
  refine FailsIn.ite (fun _ => FailsIn.error hunconfigured) fun _ => ?_
  split
  · exact FailsIn.error hmissing
  · exact FailsIn.ite (fun _ => FailsIn.ok _) fun _ => FailsIn.error hinvalid

theorem rateLimited_listed (result : RateLimitResult) (fallback : String) : (rateLimited result fallback).Listed := by
  show (429, some "RATE_LIMITED") ∈ errorTable
  decide

theorem smartRateLimitGuard_listed : FailsIn ThrownError.Listed (smartRateLimitGuard cfg answers req).outcome := by
  unfold smartRateLimitGuard
  split
  · exact FailsIn.ok _
  split
  · exact FailsIn.ok _
  refine FailsIn.andThen requireClientGatewayKey_listed fun _ => FailsIn.andThen (FailsIn.ok _) fun _ => ?_
  split
  · exact FailsIn.error (rateLimited_listed _ _)
  split
  · refine FailsIn.andThen (FailsIn.ok _) fun _ => ?_
    split
    · exact FailsIn.error (rateLimited_listed _ _)
    · exact FailsIn.ok _
  · exact FailsIn.ok _

theorem streamCleanup_listed {handler : Handled} (hhandler : FailsIn ThrownError.Listed handler.outcome) :
    FailsIn ThrownError.Listed (streamCleanup req handler).outcome := by
  unfold streamCleanup
  split
  · exact FailsIn.finally_ hhandler (FailsIn.ok _)
  · exact hhandler

variable (hsteps : ∀ e ∈ steps.thrown, ChatFails e)
include hsteps

/-- A step throws what is listed. -/
theorem step_listed {step : Option ThrownError} (hstep : step ∈ [steps.validationPipe, steps.validateForStreaming,
      steps.resolveStreamCache, steps.writeHead, steps.answer, steps.endResponse]) :
    FailsIn ThrownError.Listed (Logged.mayThrow step : Handled).outcome := by
  apply FailsIn.mayThrow
  rintro e rfl
  exact (hsteps e (List.reduceOption_mem_iff.mpr hstep)).listed

theorem respond_listed : FailsIn ThrownError.Listed (respond steps).outcome :=
  FailsIn.andThen (step_listed hsteps (by simp)) fun _ => FailsIn.andThen (step_listed hsteps (by simp)) fun _ =>
    FailsIn.finally_ (step_listed hsteps (by simp)) (step_listed hsteps (by simp))

theorem facadeHandler_listed {stream : Option Bool} {denial : String} {mapping : Except ThrownError ChatRequestDto}
    (hmapping : FailsIn ThrownError.Listed mapping) :
    FailsIn ThrownError.Listed (facadeHandler req answers steps stream denial mapping).outcome := by
  refine FailsIn.andThen requireClientGatewayKey_listed fun _ => ?_
  split
  · refine FailsIn.andThen (step_listed hsteps (by simp)) fun _ => FailsIn.andThen (FailsIn.ok _) fun _ => ?_
    split
    · exact FailsIn.error (rateLimited_listed _ _)
    · exact FailsIn.andThen hmapping fun _ => FailsIn.finally_ (respond_listed hsteps) (FailsIn.ok _)
  · exact step_listed hsteps (by simp)

theorem serveChat_listed : FailsIn ThrownError.Listed (serveChat cfg answers steps req).outcome :=
  FailsIn.andThen (keyGuard_listed _ _ _) fun _ => FailsIn.andThen smartRateLimitGuard_listed fun _ =>
    FailsIn.andThen (step_listed hsteps (by simp)) fun _ => FailsIn.andThen requireClientGatewayKey_listed fun _ =>
      step_listed hsteps (by simp)

theorem serveStream_listed (endpoint : StreamEndpoint) :
    FailsIn ThrownError.Listed (serveStream cfg answers steps req endpoint).outcome := by
  cases endpoint with
  | native =>
    refine FailsIn.andThen (keyGuard_listed _ _ _) fun _ => FailsIn.andThen smartRateLimitGuard_listed fun _ => ?_
    refine streamCleanup_listed (FailsIn.andThen (step_listed hsteps (by simp)) fun _ => ?_)
    exact FailsIn.andThen requireClientGatewayKey_listed fun _ => FailsIn.andThen (step_listed hsteps (by simp)) fun _ =>
      respond_listed hsteps
  | openAi body =>
    refine FailsIn.andThen (keyGuard_listed _ _ _) fun _ => FailsIn.andThen smartRateLimitGuard_listed fun _ => ?_
    exact FailsIn.andThen (step_listed hsteps (by simp)) fun _ => facadeHandler_listed hsteps (mapOpenAi_listed body)
  | anthropic body =>
    refine FailsIn.andThen (keyGuard_listed _ _ _) fun _ => FailsIn.andThen smartRateLimitGuard_listed fun _ => ?_
    exact FailsIn.andThen (step_listed hsteps (by simp)) fun _ => facadeHandler_listed hsteps (mapAnthropic_listed body)

end Served

/-- **An error of a chat request is told alike on every surface.** -/
theorem errors_told_alike (cfg : GuardConfig) (answers : LimiterAnswers) (steps : HandlerSteps) (req : HttpRequest)
    (requestId : Option String) (e : ThrownError) (x : RaisedException) (hsteps : ∀ thrown ∈ steps.thrown, ChatFails thrown)
    (hended : (serveChat cfg answers steps req).outcome = .error e ∨
      ∃ endpoint, (serveStream cfg answers steps req endpoint).outcome = .error e)
    (hraised : Raised e x) : ToldAlike requestId e x := by
  obtain hended | ⟨endpoint, hended⟩ := hended
  · exact told_alike (serveChat_listed hsteps e hended) hraised
  · exact told_alike (serveStream_listed hsteps endpoint e hended) hraised

/-- What two rules say of a body is told in one line. -/
theorem errors_told_alike_invalid :
    (anthropicExceptionFilter (.http 400 (.object
        ⟨.texts ["modelAlias must be a string", "messages should not be empty"], none, none, none⟩))).message =
      "modelAlias must be a string; messages should not be empty" := by
  have hthrown : ∀ e ∈ HandlerSteps.thrown
      { validationPipe := some (.http 400 none "modelAlias must be a string; messages should not be empty" none) },
      ChatFails e := by
    intro e he
    obtain rfl := List.mem_singleton.mp he
    exact .invalidBody ["modelAlias must be a string", "messages should not be empty"]
  exact ((errors_told_alike oneClient allAllowed _ (streamUrl "/api/v1/chat") (some "req_1") _ _ hthrown (.inl rfl)
    (.texts 400 none ["modelAlias must be a string", "messages should not be empty"] none none none)).message
      400 none _ none rfl).2.2

end AiGateway
