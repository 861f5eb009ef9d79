import AiGateway.Chat.Resilience
import AiGateway.Lib.JsString

/- What a provider adapter throws for an error of its SDK: `mapAnthropicSdkError`,
   `mapGoogleGenAiError` and `mapOpenAiSdkError`, each followed by `toHttpException`. The three
   chains of status predicates are compared status by status, and with the statuses that the
   default policy retries. -/
namespace AiGateway

/-! ## Upstream errors -/

/-- A `status` property: a finite number, NaN or an infinity, or anything else. -/
inductive StatusField where
  | integer (status : ℤ)
  | notFinite
  | notNumber
  deriving DecidableEq, Repr

/-- Which of the classes that the mappers test for an error is an instance of. -/
inductive ErrorClass where
  | anthropicRateLimitError
  | anthropicAuthenticationError
  | anthropicBadRequestError
  | anthropicApiError
  | openAiApiError
  | error
  | plainObject
  deriving DecidableEq, Repr

/-- The status that the SDK's declaration of the class fixes. -/
def ErrorClass.fixedStatus : ErrorClass → Option ℤ
  | .anthropicRateLimitError => some 429
  | .anthropicAuthenticationError => some 401
  | .anthropicBadRequestError => some 400
  | .anthropicApiError | .openAiApiError | .error | .plainObject => none

/-- `error instanceof Anthropic.APIError`. -/
def ErrorClass.isAnthropicApiError : ErrorClass → Bool
  | .anthropicRateLimitError | .anthropicAuthenticationError | .anthropicBadRequestError | .anthropicApiError => true
  | .openAiApiError | .error | .plainObject => false

/-- A thrown object; `message` is `none` where it is not a string. A thrown value that is not an
object reads like an object that has none of the properties. -/
structure SdkError where
  cls : ErrorClass
  name : String
  message : Option String
  status : StatusField
  responseStatus : StatusField
  status_of_class : ∀ s, cls.fixedStatus = some s → status = .integer s

/-! ## Helpers -/

def readNumericStatus (error : SdkError) : Option ℤ :=
  match error.status with
  | .integer s => some s
  | .notFinite | .notNumber =>
    match error.responseStatus with
    | .integer s => some s
    | .notFinite | .notNumber => none

def readErrorMessage (error : SdkError) (fallback : String) : String :=
  match error.message with
  | some message => if JsString.trim message ≠ "" then message else fallback
  | none => fallback

def nameLooksLikeTimeout (error : SdkError) : Bool :=
  error.cls ≠ .plainObject && (error.name = "AbortError" || error.name = "TimeoutError")

/-- `typeof error.status === 'number' ? error.status : 502`. A number that is not finite is
`none`: like `undefined`, it fails every predicate below. -/
def apiErrorStatus (error : SdkError) : Option ℤ :=
  match error.status with
  | .integer s => some s
  | .notFinite => none
  | .notNumber => some 502

/-- `!!status && ...`. -/
def truthyStatus (status : Option ℤ) (test : ℤ → Bool) : Bool :=
  status.any fun s => s ≠ 0 && test s

def isRateLimitStatus (status : Option ℤ) : Bool := truthyStatus status fun s => s = 429
def isClientError (status : Option ℤ) : Bool := truthyStatus status fun s => 400 ≤ s && s ≤ 499
def isAuthError (status : Option ℤ) : Bool := truthyStatus status fun s => s = 401 || s = 403
def isTimeoutStatus (status : Option ℤ) : Bool := truthyStatus status fun s => s = 408 || s = 504
def isServerError (status : Option ℤ) : Bool := truthyStatus status fun s => 500 ≤ s && s ≤ 599
def isInvalidRequestStatus (status : Option ℤ) : Bool := truthyStatus status fun s => s = 400

/-! ## The mappers -/

/-- The codes that the mappers give. -/
inductive ApiErrorCode where
  | validationFailed | providerAuthFailed | providerRateLimited | providerTimeout | providerUnavailable
  deriving DecidableEq, Repr

def ApiErrorCode.text : ApiErrorCode → String
  | .validationFailed => "VALIDATION_FAILED"
  | .providerAuthFailed => "PROVIDER_AUTH_FAILED"
  | .providerRateLimited => "PROVIDER_RATE_LIMITED"
  | .providerTimeout => "PROVIDER_TIMEOUT"
  | .providerUnavailable => "PROVIDER_UNAVAILABLE"

/-- `details` of the payload is always empty. -/
structure MappedProviderError where
  httpStatus : ℕ
  code : ApiErrorCode
  message : String
  deriving DecidableEq, Repr

def mapAnthropicSdkError (error : SdkError) : MappedProviderError :=
  let fallbackMsg := readErrorMessage error "Anthropic request failed."
  if error.cls = .anthropicRateLimitError then ⟨429, .providerRateLimited, fallbackMsg⟩
  else if error.cls = .anthropicAuthenticationError then ⟨401, .providerAuthFailed, fallbackMsg⟩
  else if error.cls = .anthropicBadRequestError then ⟨400, .validationFailed, fallbackMsg⟩
  else if error.cls.isAnthropicApiError then
    let status := apiErrorStatus error
    if isRateLimitStatus status then ⟨429, .providerRateLimited, fallbackMsg⟩
    else if isAuthError status then ⟨401, .providerAuthFailed, fallbackMsg⟩
    else if isTimeoutStatus status then ⟨504, .providerTimeout, fallbackMsg⟩
    else if isServerError status then ⟨502, .providerUnavailable, fallbackMsg⟩
    else if isClientError status then ⟨400, .validationFailed, fallbackMsg⟩
    else ⟨502, .providerUnavailable, fallbackMsg⟩
  else if nameLooksLikeTimeout error then ⟨504, .providerTimeout, fallbackMsg⟩
  else ⟨502, .providerUnavailable, fallbackMsg⟩

def mapGoogleGenAiError (error : SdkError) : MappedProviderError :=
  let fallbackMsg := readErrorMessage error "Google GenAI request failed."
  let status := readNumericStatus error
  if nameLooksLikeTimeout error then ⟨504, .providerTimeout, fallbackMsg⟩
  else if isRateLimitStatus status then ⟨429, .providerRateLimited, fallbackMsg⟩
  else if isAuthError status then ⟨401, .providerAuthFailed, fallbackMsg⟩
  else if isTimeoutStatus status then ⟨504, .providerTimeout, fallbackMsg⟩
  else if isServerError status then ⟨502, .providerUnavailable, fallbackMsg⟩
  else if isClientError status then ⟨400, .validationFailed, fallbackMsg⟩
  else ⟨502, .providerUnavailable, fallbackMsg⟩

/-- What `mapOpenAiSdkError` makes of an error that none of its status branches takes. -/
def mapOpenAiOtherError (error : SdkError) (fallbackMsg : String) : MappedProviderError :=
  let status := readNumericStatus error
  if nameLooksLikeTimeout error || isTimeoutStatus status then ⟨504, .providerTimeout, fallbackMsg⟩
  else ⟨502, .providerUnavailable, fallbackMsg⟩

def mapOpenAiSdkError (error : SdkError) : MappedProviderError :=
  let fallbackMsg := readErrorMessage error "OpenAI request failed."
  if error.cls = .openAiApiError then
    let status := apiErrorStatus error
    if isRateLimitStatus status then ⟨429, .providerRateLimited, fallbackMsg⟩
    else if isAuthError status then ⟨401, .providerAuthFailed, fallbackMsg⟩
    else if isTimeoutStatus status then ⟨504, .providerTimeout, fallbackMsg⟩
    else if isServerError status then ⟨502, .providerUnavailable, fallbackMsg⟩
    -- Here the other mappers take every status from 400 to 499.
    else if isInvalidRequestStatus status then ⟨400, .validationFailed, fallbackMsg⟩
    else mapOpenAiOtherError error fallbackMsg
  else mapOpenAiOtherError error fallbackMsg

def toHttpException (mapped : MappedProviderError) : ThrownError :=
  .http mapped.httpStatus (some mapped.code.text) mapped.message none

/-! ## Status by status -/

/-- What a mapped error says to the client, its message apart. -/
def MappedProviderError.answer (mapped : MappedProviderError) : ℕ × ApiErrorCode :=
  (mapped.httpStatus, mapped.code)

/-- The status and code for an upstream status. -/
def answerFor (s : ℤ) : ℕ × ApiErrorCode :=
  if s = 429 then (429, .providerRateLimited)
  else if s = 401 ∨ s = 403 then (401, .providerAuthFailed)
  else if s = 408 ∨ s = 504 then (504, .providerTimeout)
  else if 500 ≤ s ∧ s ≤ 599 then (502, .providerUnavailable)
  else if 400 ≤ s ∧ s ≤ 499 then (400, .validationFailed)
  else (502, .providerUnavailable)

section Predicates
variable (s : ℤ)

@[simp] theorem isRateLimitStatus_some : isRateLimitStatus (some s) = true ↔ s = 429 := by
  simp [isRateLimitStatus, truthyStatus]
  omega

@[simp] theorem isAuthError_some : isAuthError (some s) = true ↔ s = 401 ∨ s = 403 := by
  simp [isAuthError, truthyStatus]
  omega

@[simp] theorem isTimeoutStatus_some : isTimeoutStatus (some s) = true ↔ s = 408 ∨ s = 504 := by
  simp [isTimeoutStatus, truthyStatus]
  omega

@[simp] theorem isServerError_some : isServerError (some s) = true ↔ 500 ≤ s ∧ s ≤ 599 := by
  simp [isServerError, truthyStatus]
  omega

@[simp] theorem isClientError_some : isClientError (some s) = true ↔ 400 ≤ s ∧ s ≤ 499 := by
  simp [isClientError, truthyStatus]
  omega

@[simp] theorem isInvalidRequestStatus_some : isInvalidRequestStatus (some s) = true ↔ s = 400 := by
  simp [isInvalidRequestStatus, truthyStatus]
  omega

end Predicates

section Answers
variable {error : SdkError} {s : ℤ}

theorem apiErrorStatus_integer (h : error.status = .integer s) : apiErrorStatus error = some s := by
  rw [apiErrorStatus, h]

theorem readNumericStatus_integer (h : error.status = .integer s) : readNumericStatus error = some s := by
  rw [readNumericStatus, h]

/-- The status of an error of one of the fixed classes. -/
theorem SdkError.status_eq {k : ℤ} (h : error.status = .integer s) (hcls : error.cls.fixedStatus = some k) :
    s = k := by
  have hk := error.status_of_class k hcls
  rw [h] at hk
  exact StatusField.integer.inj hk

theorem answer_anthropic (hcls : error.cls.isAnthropicApiError = true) (h : error.status = .integer s) :
    (mapAnthropicSdkError error).answer = answerFor s := by
  have hstatus := @SdkError.status_eq error s
  cases hclass : error.cls with
  | anthropicRateLimitError =>
    obtain rfl := hstatus h (by rw [hclass]; rfl)
    simp [mapAnthropicSdkError, hclass, MappedProviderError.answer, answerFor]
  | anthropicAuthenticationError =>
    obtain rfl := hstatus h (by rw [hclass]; rfl)
    simp [mapAnthropicSdkError, hclass, MappedProviderError.answer, answerFor]
  | anthropicBadRequestError =>
    obtain rfl := hstatus h (by rw [hclass]; rfl)
    simp [mapAnthropicSdkError, hclass, MappedProviderError.answer, answerFor]
  | anthropicApiError =>
    rw [mapAnthropicSdkError, answerFor, hclass, apiErrorStatus_integer h]
    simp only [reduceCtorEq, if_false, ErrorClass.isAnthropicApiError, if_true, isRateLimitStatus_some,
      isAuthError_some, isTimeoutStatus_some, isServerError_some, isClientError_some]
    split_ifs <;> rfl
  | openAiApiError | error | plainObject =>
    rw [hclass] at hcls
    cases hcls

theorem answer_google (h : readNumericStatus error = some s) :
    (mapGoogleGenAiError error).answer =
      if nameLooksLikeTimeout error then (504, .providerTimeout) else answerFor s := by
  rw [mapGoogleGenAiError, answerFor, h]
  simp only [isRateLimitStatus_some, isAuthError_some, isTimeoutStatus_some, isServerError_some, isClientError_some]
  split_ifs <;> rfl

/-- The statuses that `mapOpenAiSdkError` has a branch for. -/
def openAiHandles (s : ℤ) : Prop :=
  s = 400 ∨ s = 401 ∨ s = 403 ∨ s = 408 ∨ s = 429 ∨ (500 ≤ s ∧ s ≤ 599)

theorem answer_openAi_handled (hcls : error.cls = .openAiApiError) (h : error.status = .integer s)
    (hs : openAiHandles s) : (mapOpenAiSdkError error).answer = answerFor s := by
  unfold openAiHandles at hs
  rw [mapOpenAiSdkError, answerFor, hcls, apiErrorStatus_integer h]
  simp only [if_true, isRateLimitStatus_some, isAuthError_some, isTimeoutStatus_some, isServerError_some,
    isInvalidRequestStatus_some]
  split_ifs <;> first | rfl | omega

theorem answer_openAi_unhandled (hcls : error.cls = .openAiApiError) (h : error.status = .integer s)
    (hs : ¬ openAiHandles s) :
    (mapOpenAiSdkError error).answer =
      if nameLooksLikeTimeout error then (504, .providerTimeout) else (502, .providerUnavailable) := by
  unfold openAiHandles at hs
  have htimeout : isTimeoutStatus (some s) = false := by
    rw [Bool.eq_false_iff, ne_eq, isTimeoutStatus_some]
    omega
  rw [mapOpenAiSdkError, hcls, apiErrorStatus_integer h]
  simp only [if_true, isRateLimitStatus_some, isAuthError_some, isTimeoutStatus_some, isServerError_some,
    isInvalidRequestStatus_some]
  rw [if_neg (by omega), if_neg (by omega), if_neg (by omega), if_neg (by omega), if_neg (by omega),
    mapOpenAiOtherError, readNumericStatus_integer h, htimeout, Bool.or_false]
  split_ifs <;> rfl

end Answers

/-! ## Agreement -/

/-- A client error that the same request would get again. -/
def PermanentClientError (s : ℤ) : Prop := 400 ≤ s ∧ s ≤ 499 ∧ s ≠ 408 ∧ s ≠ 429

/-- `RETRY_POLICY_DEFAULTS.onStatus` has the status of the mapped error. -/
def retriedByDefault (mapped : MappedProviderError) : Bool :=
  isRetryableHttpError (toHttpException mapped) defaultRetryPolicy.onStatus

/-- Three errors that carry the upstream status `s`, one from each SDK, get one answer, which
does not make of a permanent error one to retry or an unavailable provider. -/
structure ClassifiedUniformly (s : ℤ) (anthropic google openAi : SdkError) : Prop where
  google_eq : (mapGoogleGenAiError google).answer = (mapAnthropicSdkError anthropic).answer
  openAi_eq : (mapOpenAiSdkError openAi).answer = (mapAnthropicSdkError anthropic).answer
  permanent : ∀ mapped ∈ [mapAnthropicSdkError anthropic, mapGoogleGenAiError google, mapOpenAiSdkError openAi],
    PermanentClientError s → retriedByDefault mapped = false ∧ mapped.code ≠ .providerUnavailable

theorem retriedByDefault_eq (mapped : MappedProviderError) :
    retriedByDefault mapped = [429, 500, 502, 503, 504].contains mapped.answer.1 := rfl

theorem answerFor_eq_timeout_iff (s : ℤ) : answerFor s = (504, .providerTimeout) ↔ s = 408 ∨ s = 504 := by
  unfold answerFor
  split_ifs <;> simp <;> omega

/-- A permanent error is answered with 401 or 400, neither of which is retried. -/
theorem answerFor_permanent {s : ℤ} (h : PermanentClientError s) :
    answerFor s = (401, .providerAuthFailed) ∨ answerFor s = (400, .validationFailed) := by
  unfold PermanentClientError at h
  unfold answerFor
  split_ifs <;> first | omega | simp

theorem permanent_of_answerFor {s : ℤ} {mapped : MappedProviderError} (h : mapped.answer = answerFor s)
    (hs : PermanentClientError s) : retriedByDefault mapped = false ∧ mapped.code ≠ .providerUnavailable := by
  have hcode : mapped.code = mapped.answer.2 := rfl
  rw [retriedByDefault_eq, hcode, h]
  obtain hauth | hinvalid := answerFor_permanent hs
  · rw [hauth]
    exact ⟨rfl, by decide⟩
  · rw [hinvalid]
    exact ⟨rfl, by decide⟩

/-- The branch that `mapOpenAiSdkError` lacks: the other client errors. -/
theorem answerFor_unhandled {s : ℤ} (h : ¬ openAiHandles s) :
    answerFor s = if 400 ≤ s ∧ s ≤ 499 then (400, .validationFailed) else (502, .providerUnavailable) := by
  unfold openAiHandles at h
  unfold answerFor
  rw [if_neg (by omega), if_neg (by omega), if_neg (by omega), if_neg (by omega)]

/-- The answer of `mapOpenAiSdkError` is that of the other two exactly on the statuses it has a
branch for and on those outside 400..599, there for an error not named like a timeout. -/
theorem answer_openAi_iff {error : SdkError} {s : ℤ} (hcls : error.cls = .openAiApiError)
    (h : error.status = .integer s) :
    (mapOpenAiSdkError error).answer = answerFor s ↔
      openAiHandles s ∨ ((s < 400 ∨ 599 < s) ∧ nameLooksLikeTimeout error = false) := by
  by_cases hs : openAiHandles s
  · simp [hs, answer_openAi_handled hcls h hs]
  · rw [answer_openAi_unhandled hcls h hs, answerFor_unhandled hs]
    cases nameLooksLikeTimeout error with
    | true =>
      have hne : ((504, .providerTimeout) : ℕ × ApiErrorCode) ≠
          if 400 ≤ s ∧ s ≤ 499 then (400, .validationFailed) else (502, .providerUnavailable) := by
        split_ifs <;> simp
      simp only [if_true, hs, false_or, reduceCtorEq, and_false, iff_false]
      exact hne
    | false =>
      unfold openAiHandles at hs
      by_cases hclient : 400 ≤ s ∧ s ≤ 499
      · simp [hclient, openAiHandles]
        omega
      · simp [hclient, openAiHandles]
        omega

/-- Upstream errors with status `s` are classified alike exactly where `mapOpenAiSdkError` has a
branch for `s` or `s` is outside 400..599: any 4xx but 400, 401, 403, 408 and 429 is to it an
unavailable provider. An error named like a timeout is taken for one before its status is read,
by `mapGoogleGenAiError` always and by `mapOpenAiSdkError` where no status branch applies. -/
theorem classifiedUniformly_iff (s : ℤ) (anthropic google openAi : SdkError)
    (hanthropic : anthropic.cls.isAnthropicApiError = true) (ha : anthropic.status = .integer s)
    (hg : readNumericStatus google = some s)
    (hopenAi : openAi.cls = .openAiApiError) (ho : openAi.status = .integer s) :
    ClassifiedUniformly s anthropic google openAi ↔
      (openAiHandles s ∨ ((s < 400 ∨ 599 < s) ∧ nameLooksLikeTimeout openAi = false)) ∧
      (nameLooksLikeTimeout google = true → s = 408 ∨ s = 504) := by
  have hanswer := answer_anthropic hanthropic ha
  have hgoogle := answer_google hg
  have hiff := answer_openAi_iff hopenAi ho
  constructor
  · intro h
    refine ⟨hiff.mp (h.openAi_eq.trans hanswer), ?_⟩
    intro hname
    have hsame := h.google_eq
    rw [hgoogle, hname, if_pos rfl, hanswer] at hsame
    exact (answerFor_eq_timeout_iff s).mp hsame.symm
  · intro h
    obtain ⟨hhandled, hname⟩ := h
    -- The name of an error of Google is looked at before its status.
    have hgoogle' : (mapGoogleGenAiError google).answer = answerFor s := by
      rw [hgoogle]
      split_ifs with hn
      · exact ((answerFor_eq_timeout_iff s).mpr (hname hn)).symm
      · rfl
    have hopenAi' := hiff.mpr hhandled
    refine ⟨by rw [hgoogle', hanswer], by rw [hopenAi', hanswer], ?_⟩
    intro mapped hmem hs
    simp only [List.mem_cons, List.not_mem_nil, or_false] at hmem
    rcases hmem with rfl | rfl | rfl
    · exact permanent_of_answerFor hanswer hs
    · exact permanent_of_answerFor hgoogle' hs
    · exact permanent_of_answerFor hopenAi' hs

theorem noFixedStatus {cls : ErrorClass} {status : StatusField} (h : cls.fixedStatus = none) :
    ∀ s, cls.fixedStatus = some s → status = .integer s := by
  intro s hs
  rw [h] at hs
  cases hs

/-- An error as the SDKs throw it for an answer with `status`. -/
def sdkErrorOf (cls : ErrorClass) (name : String) (status : ℤ) (h : cls.fixedStatus = none) : SdkError :=
  ⟨cls, name, some "Not Found", .integer status, .notNumber, noFixedStatus h⟩

theorem classifiedUniformly_503 :
    ClassifiedUniformly 503 (sdkErrorOf .anthropicApiError "Error" 503 rfl) (sdkErrorOf .error "ApiError" 503 rfl)
      (sdkErrorOf .openAiApiError "Error" 503 rfl) :=
  (classifiedUniformly_iff 503 _ _ _ rfl rfl rfl rfl rfl).mpr
    ⟨.inl (by unfold openAiHandles; omega), fun h => absurd h (by decide)⟩

/-- An unknown model is a validation error to Anthropic and Google, and with OpenAI an
unavailable provider, asked again. -/
theorem classified_404 :
    (mapAnthropicSdkError (sdkErrorOf .anthropicApiError "Error" 404 rfl)).answer = (400, .validationFailed) ∧
      (mapGoogleGenAiError (sdkErrorOf .error "ApiError" 404 rfl)).answer = (400, .validationFailed) ∧
      (mapOpenAiSdkError (sdkErrorOf .openAiApiError "Error" 404 rfl)).answer = (502, .providerUnavailable) ∧
      retriedByDefault (mapOpenAiSdkError (sdkErrorOf .openAiApiError "Error" 404 rfl)) = true := by
  decide

end AiGateway
