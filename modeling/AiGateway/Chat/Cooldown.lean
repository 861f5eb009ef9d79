import AiGateway.Chat.AliasChecks
import AiGateway.Chat.AttemptCount
import AiGateway.Chat.CacheGates
import AiGateway.Providers.SdkErrors

/- The cooldown of a provider instance for a gateway key: `prepareRequestForExecution` refuses a
   request under an active cooldown, and `handleProviderError` sets one when the error that the
   request ends in is a 429. The error that decides is the executor's, a new exception with the
   status of the primary alias's last error when the fallback alias has failed too.

   A request is followed through all of its calls, on both paths; the calls of the caches are
   those of `ChatService` (`cacheCalls_executeChat`). -/
namespace AiGateway

/-! ## What an attempt throws -/

def ThrownError.status : ThrownError → Option ℕ
  | .http status _ _ _ => some status
  | .other _ => none

/-- What a provider adapter throws: the error of its SDK as its mapper has it, or an error of
the adapter's own that is no `HttpException`. -/
inductive AdapterError where
  | anthropic (error : SdkError)
  | google (error : SdkError)
  | openAi (error : SdkError)
  | own (message : String)

def AdapterError.thrown : AdapterError → ThrownError
  | .anthropic error => toHttpException (mapAnthropicSdkError error)
  | .google error => toHttpException (mapGoogleGenAiError error)
  | .openAi error => toHttpException (mapOpenAiSdkError error)
  | .own message => .other message

/-- An error with status 429 has a code. -/
def ThrownError.codedRateLimit (e : ThrownError) : Prop := e.status = some 429 → e.hasCode = true

/-- So it is with every error of every attempt. -/
def CodedRateLimits {α : Type} {timeoutMs : Option ℕ} (runOnce : String → ℕ → RunOutcome timeoutMs α) : Prop :=
  ∀ modelAlias attempt e, runWithTimeout (runOnce modelAlias attempt) = .error e → e.codedRateLimit

theorem AdapterError.coded (e : AdapterError) : e.thrown.codedRateLimit := by
  intro hstatus
  cases e with
  | anthropic error => rfl
  | google error => rfl
  | openAi error => rfl
  | own message => cases hstatus

theorem timeoutError_coded (ms : ℕ) : (timeoutError ms).codedRateLimit := fun _ => rfl

/-! ### Errors before the call of the provider -/

section BeforeCall
variable {ctx : CallContext} {mode : CallMode} {c : ChatCall} {modelAlias : String} {e : ThrownError}

/-- The status is not 429, so nothing is asked of the code. -/
def NotRateLimited {α : Type} (x : Except ThrownError α) : Prop := ∀ e, x = .error e → e.status ≠ some 429

theorem notRateLimited_ok {α : Type} (a : α) : NotRateLimited (.ok a : Except ThrownError α) := by
  intro e he
  cases he

theorem notRateLimited_error {α : Type} (h : e.status ≠ some 429) :
    NotRateLimited (.error e : Except ThrownError α) := by
  intro e' he
  cases he
  exact h

theorem notRateLimited_bind {α β : Type} {x : Except ThrownError α} {f : α → Except ThrownError β}
    (hx : NotRateLimited x) (hf : ∀ a, NotRateLimited (f a)) : NotRateLimited (x >>= f) := by
  intro e he
  cases x with
  | error e' =>
    cases he
    exact hx e rfl
  | ok a => exact hf a e he

theorem notRateLimited_resolve (reg : ProviderRegistry) : NotRateLimited (reg.resolve modelAlias) := by
  have h429 : ∀ (status : ℕ) code message details, status ≠ 429 →
      (ThrownError.http status code message details).status ≠ some 429 := by
    intro status _ _ _ hne h
    exact hne (Option.some.inj h)
  -- An alias that is named like an inherited member gets as far as the provider.
  have hundefined : reg.undefinedInstanceError.status ≠ some 429 := by
    unfold ProviderRegistry.undefinedInstanceError
    split
    · exact h429 500 _ _ _ (by omega)
    · exact h429 400 _ _ _ (by omega)
  unfold ProviderRegistry.resolve
  refine notRateLimited_bind ?_ ?_
  · unfold ProviderRegistry.resolveModelAlias
    split
    · exact notRateLimited_ok _
    · exact notRateLimited_ok _
    · exact notRateLimited_error (h429 400 _ _ _ (by omega))
  · intro found
    cases found with
    | none => exact notRateLimited_error hundefined
    | some model =>
      refine notRateLimited_bind ?_ fun _ => notRateLimited_ok _
      unfold ProviderRegistry.resolveProviderEntry
      split
      · exact notRateLimited_error (h429 400 _ _ _ (by omega))
      · split
        · exact notRateLimited_error (h429 500 _ _ _ (by omega))
        · exact notRateLimited_error (h429 500 _ _ _ (by omega))
      · split
        · exact notRateLimited_error (h429 500 _ _ _ (by omega))
        · split
          · exact notRateLimited_error (h429 500 _ _ _ (by omega))
          · exact notRateLimited_ok _

theorem notRateLimited_toProviderTurns (messages : List ChatMessage) : NotRateLimited (toProviderTurns messages) := by
  unfold toProviderTurns
  induction messages with
  | nil => exact notRateLimited_ok _
  | cons m messages ih =>
    rw [List.mapM_cons]
    refine notRateLimited_bind ?_ fun _ => notRateLimited_bind ih fun _ => notRateLimited_ok _
    unfold toProviderTurn
    split
    · exact notRateLimited_ok _
    · exact notRateLimited_ok _
    · split
      · exact notRateLimited_ok _
      · exact notRateLimited_error (by simp [missingToolCallIdError, ThrownError.status])

theorem notRateLimited_composeSystemPrompt (prompts : SystemPrompts) :
    NotRateLimited (composeSystemPrompt prompts modelAlias) := by
  unfold composeSystemPrompt
  split
  · exact notRateLimited_ok _
  · exact notRateLimited_ok _
  · exact notRateLimited_error (by simp [promptNotText, ThrownError.status])

theorem notRateLimited_prepareCall : NotRateLimited (prepareCall ctx mode c modelAlias) := by
  unfold prepareCall
  refine notRateLimited_bind (notRateLimited_resolve _) ?_
  intro resolved
  refine notRateLimited_bind ?_ ?_
  · intro e he
    unfold callOptions at he
    cases hoptions : resolveProviderCallOptions ctx.numberText resolved.params c.params with
    | ok options => simp [hoptions, Except.mapError] at he
    | error refusal =>
      simp only [hoptions, Except.mapError, Except.error.injEq] at he
      subst he
      simp [OptionsError.thrown, ThrownError.status]
  · intro options
    refine notRateLimited_bind ?_ ?_
    · refine notRateLimited_bind (notRateLimited_composeSystemPrompt _) ?_
      intro system
      exact notRateLimited_bind (notRateLimited_toProviderTurns _) fun _ => notRateLimited_ok _
    · intro input
      split
      · exact notRateLimited_error (by simp [notAFunction, ThrownError.status])
      · exact notRateLimited_ok _

/-- The attempts of `completeOnce` and `streamOnce`, when the adapters throw what they do. -/
theorem codedRateLimits_runOnce {α : Type} {w : CallWorld α} {timeoutMs : Option ℕ}
    (hadapter : ∀ modelAlias attempt e, w.provider timeoutMs modelAlias attempt = .error e →
      ∃ error : AdapterError, e = error.thrown) :
    CodedRateLimits (runOnce ctx mode c w timeoutMs) := by
  intro modelAlias attempt e he
  unfold runOnce at he
  cases hprepared : prepareCall ctx mode c modelAlias with
  | error refusal =>
    simp only [hprepared, runWithTimeout, Except.error.injEq] at he
    subst he
    intro hstatus
    exact absurd hstatus (notRateLimited_prepareCall _ hprepared)
  | ok call =>
    simp only [hprepared] at he
    cases hended : w.provider timeoutMs modelAlias attempt with
    | value a => simp [hended, runWithTimeout] at he
    | deadline ms hset hpos =>
      simp only [hended, runWithTimeout, Except.error.injEq] at he
      subst he
      exact timeoutError_coded ms
    | error thrown =>
      simp only [hended, runWithTimeout, Except.error.injEq] at he
      subst he
      obtain ⟨error, rfl⟩ := hadapter modelAlias attempt thrown hended
      exact error.coded

end BeforeCall

/-! ## The calls of a request -/

inductive RequestCall where
  | checkCooldown (gatewayKey providerName : String)
  | cache (call : BackendCall)
  | provider (call : ExecutorCall)
  | setCooldown (gatewayKey providerName : String)

def isProviderRateLimitError : ThrownError → Bool
  | .http status _ _ _ => status = 429
  | .other _ => false

/-- `SmartRateLimiterService.checkCooldown`: the reason of a refusal. `ttl` is the rest of the
cooldown's key, `none` where the backend is not ready or rejects. -/
def checkCooldown (provider : String) (ttl : Option ℤ) : Option String :=
  match ttl with
  | some ttl =>
    if 0 < ttl then some ("Provider " ++ provider ++ " in cooldown after 429. " ++ toString ttl ++ " remaining.")
    else none
  | none => none

def cooldownRejection (reason : String) : ThrownError :=
  .http 429 (some "RATE_LIMITED") (if reason = "" then "Rate limit exceeded" else reason) none

/-- The parts of `ChatExecutionPrep` that the rest uses. -/
structure PreparedRequest where
  conversationId : String
  providerName : String           -- `primaryResolved.providerName`

/-- What `prepareRequestForExecution` ends in: `checks` is what comes before the cooldown. -/
def preparedOutcome (gatewayKey : String) (checks : Except ThrownError PreparedRequest) (ttl : Option ℤ) :
    Except ThrownError PreparedRequest :=
  match checks with
  | .error e => .error e
  | .ok prep =>
    match if gatewayKey ≠ "" then checkCooldown prep.providerName ttl else none with
    | some reason => .error (cooldownRejection reason)
    | none => .ok prep

/-- A request's surroundings, with the checks and the cooldown that its preparation meets. -/
structure CooldownWorld (gatewayKey : String) extends RequestWorld where
  checks : Except ThrownError PreparedRequest
  cooldownTtl : Option ℤ
  prepared_eq : prepared = (preparedOutcome gatewayKey checks cooldownTtl).map PreparedRequest.conversationId

namespace Cooldown

section Paths
variable (cfg : CacheConfig) (c : ExecuteInput) (w : CooldownWorld c.gatewayKey)

def assertNotInCooldown (gatewayKey providerName : String) (ttl : Option ℤ) :
    Logged RequestCall ThrownError Unit := do
  Logged.call (.checkCooldown gatewayKey providerName) ()
  Logged.mayThrow ((checkCooldown providerName ttl).map cooldownRejection)

def prepareRequestForExecution : Logged RequestCall ThrownError PreparedRequest := do
  let prep ← Logged.attempt w.checks
  if c.gatewayKey ≠ "" then assertNotInCooldown c.gatewayKey prep.providerName w.cooldownTtl else pure ()
  pure prep

/-- Its logging apart, which `handlerError` stands for. -/
def handleProviderError (error : ThrownError) (providerName gatewayKey : String) (handlerError : Option ThrownError) :
    Logged RequestCall ThrownError Unit := do
  if gatewayKey ≠ "" && isProviderRateLimitError error then
    Logged.call (.setCooldown gatewayKey providerName) ()
  else pure ()
  Logged.mayThrow handlerError

/-- The `try` block of both paths up to the cache write. -/
def executeAndStore (prep : PreparedRequest) (embedState : Option SemanticCache.EmbedState) :
    Logged RequestCall ThrownError ChatResponseData := do
  let execution := executeWithRetryAndFallback (ChatService.executionOptions c w.toRequestWorld) w.runOnce
  let result ← execution.mapCalls .provider
  let response := ChatService.chatResponse c w.toRequestWorld prep.conversationId result
  if !result.didFallback then
    (ChatCachePipeline.setCachedIfAllowed cfg c w.toRequestWorld response embedState).mapCalls .cache
  else pure ()
  pure response

/-- The `catch` block of both paths. -/
def handled {α : Type} (prep : PreparedRequest) (m : Logged RequestCall ThrownError α) :
    Logged RequestCall ThrownError α := do
  let settled ← m.settle
  match settled with
  | .ok a => pure a
  | .error e => do
    handleProviderError e prep.providerName c.gatewayKey w.handlerError
    Logged.throws e

def completeChatAndStore (prep : PreparedRequest) (embedState : Option SemanticCache.EmbedState) :
    Logged RequestCall ThrownError ChatResult :=
  handled c w prep (do
    let response ← executeAndStore cfg c w prep embedState
    pure (.live response))

def executeLookup : Logged RequestCall ThrownError (PreparedRequest × ChatCacheLookupResult) := do
  let prep ← prepareRequestForExecution c w
  if c.gatewayKey ≠ "" then do
    let lookup ← (ChatCachePipeline.getCachedIfAllowed cfg c w.toRequestWorld).mapCalls .cache
    pure (prep, lookup)
  else pure (prep, .miss none)

/-- The end of the work in flight that the request joins, if it does. -/
def joined : Option (Except ThrownError ChatResult) := if c.cacheable cfg.gateway then w.shared else none

def executeChat : Logged RequestCall ThrownError ChatResult := do
  let (prep, lookup) ← executeLookup cfg c w
  match lookup with
  | .hit reply source => pure (.cached reply source prep.conversationId c.requestId)
  | .miss embedState =>
    match joined cfg c w with
    | some result => Logged.attempt result
    | none => completeChatAndStore cfg c w prep embedState

/-- What it emits apart; the response is the one that it stores. -/
def executeStreamMiss (prep : PreparedRequest) (embedState : Option SemanticCache.EmbedState) :
    Logged RequestCall ThrownError Unit :=
  handled c w prep (do
    let _ ← executeAndStore cfg c w prep embedState
    pure ())

/-- A streamed request: `resolveStreamCache`, whose steps are those of the JSON path, then the
replay of a hit or `executeStreamMiss`. -/
def executeStream : Logged RequestCall ThrownError Unit := do
  let (prep, lookup) ← executeLookup cfg c w
  match lookup with
  | .hit _ _ => pure ()
  | .miss embedState => executeStreamMiss cfg c w prep embedState

end Paths

end Cooldown

/-! ## Parts of a log -/

def RequestCall.cooldown? : RequestCall → Option (String × String)
  | .setCooldown gatewayKey providerName => some (gatewayKey, providerName)
  | _ => none

def RequestCall.cache? : RequestCall → Option BackendCall
  | .cache call => some call
  | _ => none

def RequestCall.provider? : RequestCall → Option ExecutorCall
  | .provider call => some call
  | _ => none

/-- The calls of `setCooldown`, with their arguments. -/
def setCooldowns (calls : List RequestCall) : List (String × String) := calls.filterMap RequestCall.cooldown?

def cacheCalls (calls : List RequestCall) : List BackendCall := calls.filterMap RequestCall.cache?

def executorCalls (calls : List RequestCall) : List ExecutorCall := calls.filterMap RequestCall.provider?

section Parts
variable (xs ys : List RequestCall) (bs : List BackendCall) (es : List ExecutorCall)

@[simp] theorem setCooldowns_append : setCooldowns (xs ++ ys) = setCooldowns xs ++ setCooldowns ys :=
  List.filterMap_append

@[simp] theorem cacheCalls_append : cacheCalls (xs ++ ys) = cacheCalls xs ++ cacheCalls ys :=
  List.filterMap_append

@[simp] theorem executorCalls_append : executorCalls (xs ++ ys) = executorCalls xs ++ executorCalls ys :=
  List.filterMap_append

@[simp] theorem setCooldowns_cache : setCooldowns (bs.map .cache) = [] := by
  rw [setCooldowns, List.filterMap_map]
  exact List.filterMap_eq_nil_iff.mpr fun _ _ => rfl

@[simp] theorem setCooldowns_provider : setCooldowns (es.map .provider) = [] := by
  rw [setCooldowns, List.filterMap_map]
  exact List.filterMap_eq_nil_iff.mpr fun _ _ => rfl

@[simp] theorem cacheCalls_cache : cacheCalls (bs.map .cache) = bs := by
  rw [cacheCalls, List.filterMap_map]
  exact List.filterMap_some

@[simp] theorem cacheCalls_provider : cacheCalls (es.map .provider) = [] := by
  rw [cacheCalls, List.filterMap_map]
  exact List.filterMap_eq_nil_iff.mpr fun _ _ => rfl

@[simp] theorem executorCalls_cache : executorCalls (bs.map .cache) = [] := by
  rw [executorCalls, List.filterMap_map]
  exact List.filterMap_eq_nil_iff.mpr fun _ _ => rfl

@[simp] theorem executorCalls_provider : executorCalls (es.map .provider) = es := by
  rw [executorCalls, List.filterMap_map]
  exact List.filterMap_some

end Parts

/-! ## The status that the executor ends in -/

section Status
variable {α : Type} {o : ExecutionOptions} {runOnce : String → ℕ → RunOutcome o.retry.timeoutMs α}

/-- The error of the last attempt on the primary alias among these calls. -/
def lastPrimaryError (o : ExecutionOptions) (runOnce : String → ℕ → RunOutcome o.retry.timeoutMs α)
    (calls : List ExecutorCall) : Option ThrownError :=
  ((invocations calls).filter fun attempt => attempt.1 = o.primaryAlias).getLast?.bind fun attempt =>
    match runWithTimeout (runOnce attempt.1 attempt.2) with
    | .ok _ => none
    | .error e => some e

theorem filter_attemptsOn_self (modelAlias : String) (first count : ℕ) :
    (attemptsOn modelAlias first count).filter (fun attempt => attempt.1 = modelAlias) =
      attemptsOn modelAlias first count := by
  rw [List.filter_eq_self]
  intro attempt hmem
  obtain ⟨k, -, rfl⟩ := List.mem_map.mp hmem
  exact decide_eq_true rfl

theorem filter_attemptsOn_other {modelAlias other : String} (hne : other ≠ modelAlias) (first count : ℕ) :
    (attemptsOn other first count).filter (fun attempt => attempt.1 = modelAlias) = [] := by
  rw [List.filter_eq_nil_iff]
  intro attempt hmem
  obtain ⟨k, -, rfl⟩ := List.mem_map.mp hmem
  simpa using hne

/-- An executor that has called the primary alias `n` times, and then another alias. -/
theorem lastPrimaryError_of_invoked {calls : List ExecutorCall} {n m : ℕ} {f : String} {e : ThrownError}
    (hpos : 1 ≤ n) (hf : f ≠ o.primaryAlias)
    (hinvoked : invocations calls = attemptsOn o.primaryAlias 1 n ++ attemptsOn f 1 m)
    (he : runWithTimeout (runOnce o.primaryAlias n) = .error e) : lastPrimaryError o runOnce calls = some e := by
  rw [lastPrimaryError, hinvoked, List.filter_append, filter_attemptsOn_self, filter_attemptsOn_other hf,
    List.append_nil, getLast_attemptsOn hpos, Option.bind_some, he]

theorem status_exhausted {primaryError : ThrownError} (hcoded : primaryError.codedRateLimit)
    (fallbackError : ThrownError) :
    isProviderRateLimitError (toExhaustedException o primaryError fallbackError) = true ↔
      primaryError.status = some 429 := by
  cases primaryError with
  | other message => simp [toExhaustedException, isProviderRateLimitError, ThrownError.status]
  | http status code message details =>
    cases code with
    | none =>
      have hne : status ≠ 429 := by
        intro h
        have := hcoded (by rw [ThrownError.status, h])
        cases this
      simp [toExhaustedException, isProviderRateLimitError, ThrownError.status, hne]
    | some code => simp [toExhaustedException, isProviderRateLimitError, ThrownError.status]

theorem isProviderRateLimitError_iff (e : ThrownError) :
    isProviderRateLimitError e = true ↔ e.status = some 429 := by
  cases e <;> simp [isProviderRateLimitError, ThrownError.status]

/-- The primary alias's last error was a 429. -/
def primaryRateLimited (o : ExecutionOptions) (runOnce : String → ℕ → RunOutcome o.retry.timeoutMs α)
    (calls : List ExecutorCall) : Prop :=
  (lastPrimaryError o runOnce calls).bind ThrownError.status = some 429

/-- The executor's error is a 429 exactly when the last error of the primary alias was one. -/
theorem execute_rateLimited_iff (hcoded : CodedRateLimits runOnce) {e : ThrownError}
    (hfail : (executeWithRetryAndFallback o runOnce).outcome = .error e) :
    isProviderRateLimitError e = true ↔
      primaryRateLimited o runOnce (executeWithRetryAndFallback o runOnce).calls := by
  unfold primaryRateLimited
  -- A circle of aliases is refused before the first attempt.
  by_cases hcycle : o.fallbackAlias = some o.primaryAlias
  · have hexec : executeWithRetryAndFallback o runOnce = Logged.throws
        (.http 400 (some "VALIDATION_FAILED") ("Circular fallback detected: alias \"" ++ o.primaryAlias ++
          "\" cannot fallback to itself") none) := by
      rw [executeWithRetryAndFallback, fallbackCycleError, if_pos hcycle]
    rw [hexec] at hfail ⊢
    cases hfail
    simp [isProviderRateLimitError, lastPrimaryError, Logged.throws, invocations]
  · obtain ⟨n, hprimary⟩ := @tryAlias_run _ o.retry runOnce o.primaryAlias
    have hpos := hprimary.law.pos
    cases hrun : runWithTimeout (runOnce o.primaryAlias n) with
    | ok v =>
      rw [execute_primary hcycle (by rw [hprimary.outcome, hrun])] at hfail
      cases hfail
    | error primaryError =>
      cases hf : JsString.truthy o.fallbackAlias with
      | none =>
        have hexec := execute_no_fallback hcycle (by rw [hprimary.outcome, hrun]) hf
        have hlast : lastPrimaryError o runOnce (tryAlias o.retry runOnce o.primaryAlias).calls =
            some primaryError := by
          rw [lastPrimaryError, hprimary.invoked, filter_attemptsOn_self, getLast_attemptsOn hpos,
            Option.bind_some, hrun]
        rw [hexec] at hfail ⊢
        cases hfail
        rw [hlast]
        exact isProviderRateLimitError_iff _
      | some f =>
        have hne : f ≠ o.primaryAlias := by
          rintro rfl
          exact hcycle (JsString.truthy_eq_some hf).1
        obtain ⟨m, hfallback⟩ := @tryAlias_run _ o.retry runOnce f
        have hexec := execute_fallback hcycle (by rw [hprimary.outcome, hrun]) hf hfallback.outcome
        -- The error that comes out of both aliases has the status of the primary one.
        have hlast : lastPrimaryError o runOnce (executeWithRetryAndFallback o runOnce).calls =
            some primaryError := by
          have hinvoked : invocations (executeWithRetryAndFallback o runOnce).calls =
              attemptsOn o.primaryAlias 1 n ++ attemptsOn f 1 m := by
            rw [hexec, invocations_append, hprimary.invoked, hfallback.invoked]
          exact lastPrimaryError_of_invoked hpos hne hinvoked hrun
        rw [hlast]
        rw [hexec] at hfail
        cases hrun' : runWithTimeout (runOnce f m) with
        | ok v =>
          rw [hrun'] at hfail
          cases hfail
        | error fallbackError =>
          rw [hrun'] at hfail
          cases hfail
          exact status_exhausted (hcoded _ _ _ hrun) fallbackError

end Status

/-! ## Both paths -/

namespace Cooldown

section Runs
variable {cfg : CacheConfig} {c : ExecuteInput} {w : CooldownWorld c.gatewayKey} {prep : PreparedRequest}
variable {embedState : Option SemanticCache.EmbedState}

/-- The run of the executor inside a request. -/
def executorRun (c : ExecuteInput) (w : CooldownWorld c.gatewayKey) :
    Logged ExecutorCall ThrownError (ResilientExecutionResult AttemptValue) :=
  executeWithRetryAndFallback (ChatService.executionOptions c w.toRequestWorld) w.runOnce

/-- The cache write does not throw, so the block fails as its executor does. -/
theorem executeAndStore_spec :
    (∀ e, (executorRun c w).outcome = .error e →
      executeAndStore cfg c w prep embedState = ⟨(executorRun c w).calls.map .provider, .error e⟩) ∧
    ∀ result, (executorRun c w).outcome = .ok result →
      ∃ stored, executeAndStore cfg c w prep embedState =
        ⟨(executorRun c w).calls.map .provider ++ stored.map .cache,
          .ok (ChatService.chatResponse c w.toRequestWorld prep.conversationId result)⟩ ∧
        stored = if result.didFallback then [] else
          (ChatCachePipeline.setCachedIfAllowed cfg c w.toRequestWorld
            (ChatService.chatResponse c w.toRequestWorld prep.conversationId result) embedState).calls := by
  unfold executorRun executeAndStore
  cases hexec : executeWithRetryAndFallback (ChatService.executionOptions c w.toRequestWorld) w.runOnce with
  | mk calls outcome =>
    constructor
    · intro e he
      cases he
      rfl
    · intro result hresult
      cases hresult
      cases hfell : result.didFallback with
      | true => exact ⟨[], by simp [Logged.mapCalls, hfell], rfl⟩
      | false =>
        have hset := @ChatCachePipeline.setCachedIfAllowed_outcome cfg c w.toRequestWorld
          (ChatService.chatResponse c w.toRequestWorld prep.conversationId result) embedState
        refine ⟨_, ?_, rfl⟩
        simp [Logged.mapCalls, hfell, hset]

theorem handled_ok {α : Type} {calls : List RequestCall} {a : α} :
    handled c w prep (⟨calls, .ok a⟩ : Logged RequestCall ThrownError α) = ⟨calls, .ok a⟩ := by
  simp [handled, Logged.settle]

theorem handleProviderError_eq (e : ThrownError) (providerName gatewayKey : String)
    (handlerError : Option ThrownError) (hkey : gatewayKey ≠ "") :
    handleProviderError e providerName gatewayKey handlerError =
      ⟨if isProviderRateLimitError e then [.setCooldown gatewayKey providerName] else [],
        match handlerError with
        | none => .ok ()
        | some e' => .error e'⟩ := by
  unfold handleProviderError
  cases hlimited : isProviderRateLimitError e <;> cases handlerError <;>
    simp [hkey, Logged.call, Logged.mayThrow]

/-- The `catch` block: one call of `setCooldown` for a 429, and the request fails. -/
theorem handled_error {α : Type} {calls : List RequestCall} {e : ThrownError} (hkey : c.gatewayKey ≠ "") :
    handled c w prep (⟨calls, .error e⟩ : Logged RequestCall ThrownError α) =
      ⟨calls ++ if isProviderRateLimitError e then [.setCooldown c.gatewayKey prep.providerName] else [],
        .error (w.handlerError.getD e)⟩ := by
  have hhandler := handleProviderError_eq e prep.providerName c.gatewayKey w.handlerError hkey
  unfold handled
  simp only [Logged.settle, Logged.bind_ok, hhandler]
  cases w.handlerError <;> simp [Logged.throws]

/-- A `try` block that ends in what it has stored, with its `catch` block: the executor's calls,
and a call of `setCooldown` when the executor ends in a 429. -/
theorem work_spec {α : Type} (g : ChatResponseData → α) (hkey : c.gatewayKey ≠ "") :
    let work := handled c w prep (do
      let response ← executeAndStore cfg c w prep embedState
      pure (g response))
    executorCalls work.calls = (executorRun c w).calls ∧
      (∀ e, (executorRun c w).outcome = .error e → work.outcome = .error (w.handlerError.getD e) ∧
        setCooldowns work.calls = if isProviderRateLimitError e then [(c.gatewayKey, prep.providerName)] else []) ∧
      ∀ result, (executorRun c w).outcome = .ok result →
        (∃ a, work.outcome = .ok a) ∧ setCooldowns work.calls = [] := by
  intro work
  obtain ⟨herror, hvalue⟩ := @executeAndStore_spec cfg c w prep embedState
  -- The cooldown is set where the error is handled, and only there.
  cases houtcome : (executorRun c w).outcome with
  | error e =>
    have hwork : work = ⟨(executorRun c w).calls.map .provider ++
        if isProviderRateLimitError e then [.setCooldown c.gatewayKey prep.providerName] else [],
        .error (w.handlerError.getD e)⟩ := by
      rw [← handled_error hkey]
      show handled c w prep (executeAndStore cfg c w prep embedState >>= _) = _
      rw [herror e houtcome, Logged.bind_error]
    rw [hwork]
    refine ⟨?_, ?_, ?_⟩
    · rw [executorCalls_append, executorCalls_provider]
      split_ifs <;> simp [executorCalls, RequestCall.provider?]
    · intro e' he'
      cases he'
      refine ⟨rfl, ?_⟩
      rw [setCooldowns_append, setCooldowns_provider, List.nil_append]
      split_ifs <;> simp [setCooldowns, RequestCall.cooldown?]
    · intro result hresult
      cases hresult
  | ok result =>
    obtain ⟨stored, hrun, -⟩ := hvalue result houtcome
    have hwork : work = ⟨(executorRun c w).calls.map .provider ++ stored.map .cache,
        .ok (g (ChatService.chatResponse c w.toRequestWorld prep.conversationId result))⟩ := by
      rw [← @handled_ok c w prep]
      show handled c w prep (executeAndStore cfg c w prep embedState >>= _) = _
      rw [hrun, Logged.bind_ok]
      simp
    rw [hwork]
    refine ⟨by simp, ?_, ?_⟩
    · intro e he
      cases he
    · intro _ _
      exact ⟨⟨_, rfl⟩, by simp⟩

/-- The calls of `prepareRequestForExecution`. -/
def preparationCalls (c : ExecuteInput) (w : CooldownWorld c.gatewayKey) : List RequestCall :=
  match w.checks with
  | .error _ => []
  | .ok prep => [.checkCooldown c.gatewayKey prep.providerName]

theorem prepare_eq (hkey : c.gatewayKey ≠ "") : prepareRequestForExecution c w =
    ⟨preparationCalls c w, preparedOutcome c.gatewayKey w.checks w.cooldownTtl⟩ := by
  unfold prepareRequestForExecution preparationCalls preparedOutcome assertNotInCooldown
  cases w.checks with
  | error e => rfl
  | ok prep =>
    simp only [Logged.attempt, Logged.bind_ok, if_pos hkey]
    cases checkCooldown prep.providerName w.cooldownTtl <;> rfl

theorem preparationCalls_silent : setCooldowns (preparationCalls c w) = [] ∧
    executorCalls (preparationCalls c w) = [] ∧ cacheCalls (preparationCalls c w) = [] := by
  unfold preparationCalls
  split
  · exact ⟨rfl, rfl, rfl⟩
  · exact ⟨rfl, rfl, rfl⟩

theorem checks_of_prepared {gatewayKey : String} {checks : Except ThrownError PreparedRequest} {ttl : Option ℤ}
    (h : preparedOutcome gatewayKey checks ttl = .ok prep) : checks = .ok prep := by
  unfold preparedOutcome at h
  cases checks with
  | error e => cases h
  | ok found =>
    simp only at h
    split at h
    · cases h
    · exact h

/-- The lookup of a prepared request. -/
theorem executeLookup_eq (hkey : c.gatewayKey ≠ "") : executeLookup cfg c w =
    match preparedOutcome c.gatewayKey w.checks w.cooldownTtl with
    | .error e => ⟨preparationCalls c w, .error e⟩
    | .ok prep =>
      ⟨preparationCalls c w ++ (ChatCachePipeline.getCachedIfAllowed cfg c w.toRequestWorld).calls.map .cache,
        (ChatCachePipeline.getCachedIfAllowed cfg c w.toRequestWorld).outcome.map fun lookup => (prep, lookup)⟩ := by
  unfold executeLookup
  rw [prepare_eq hkey]
  cases preparedOutcome c.gatewayKey w.checks w.cooldownTtl with
  | error e => rfl
  | ok prep =>
    cases hlookup : ChatCachePipeline.getCachedIfAllowed cfg c w.toRequestWorld with
    | mk calls outcome => cases outcome <;> simp [hkey, Logged.mapCalls, Except.map]

/-- A request up to the result of its lookup calls neither `setCooldown` nor a provider. -/
theorem executeLookup_spec (hkey : c.gatewayKey ≠ "") :
    setCooldowns (executeLookup cfg c w).calls = [] ∧ executorCalls (executeLookup cfg c w).calls = [] ∧
      ∀ prep lookup, (executeLookup cfg c w).outcome = .ok (prep, lookup) → w.checks = .ok prep := by
  obtain ⟨hcooldowns, hexecutor, -⟩ := @preparationCalls_silent c w
  rw [executeLookup_eq hkey]
  cases hprepared : preparedOutcome c.gatewayKey w.checks w.cooldownTtl with
  | error e => exact ⟨hcooldowns, hexecutor, by simp⟩
  | ok prep =>
    refine ⟨by simp [hcooldowns], by simp [hexecutor], ?_⟩
    intro prep' lookup h
    cases houtcome : (ChatCachePipeline.getCachedIfAllowed cfg c w.toRequestWorld).outcome with
    | error e => simp [houtcome, Except.map] at h
    | ok found =>
      simp only [houtcome, Except.map, Except.ok.injEq, Prod.mk.injEq] at h
      rw [← h.1]
      exact checks_of_prepared hprepared

/-- Under an active cooldown nothing follows its check. -/
theorem executeLookup_rejected {reason : String} (hkey : c.gatewayKey ≠ "") (hchecks : w.checks = .ok prep)
    (hcooldown : checkCooldown prep.providerName w.cooldownTtl = some reason) :
    executeLookup cfg c w =
      ⟨[.checkCooldown c.gatewayKey prep.providerName], .error (cooldownRejection reason)⟩ := by
  have hprepared : preparedOutcome c.gatewayKey w.checks w.cooldownTtl = .error (cooldownRejection reason) := by
    simp [preparedOutcome, hchecks, hkey, hcooldown]
  rw [executeLookup_eq hkey, hprepared, preparationCalls, hchecks]

/-! ## The law -/

/-- A run of a request: `setCooldown` is called when the request has failed and the last error
of its primary alias was a 429, once, for the caller's key and the primary alias's instance, and
not otherwise; under an active cooldown nothing is called but the check. -/
structure CooldownLaw {α : Type} (c : ExecuteInput) (w : CooldownWorld c.gatewayKey)
    (run : Logged RequestCall ThrownError α) : Prop where
  set : (∃ e, run.outcome = .error e) →
    primaryRateLimited (ChatService.executionOptions c w.toRequestWorld) w.runOnce (executorCalls run.calls) →
    ∃ prep, w.checks = .ok prep ∧ setCooldowns run.calls = [(c.gatewayKey, prep.providerName)]
  unset : ¬ ((∃ e, run.outcome = .error e) ∧
      primaryRateLimited (ChatService.executionOptions c w.toRequestWorld) w.runOnce (executorCalls run.calls)) →
    setCooldowns run.calls = []
  rejected : ∀ prep reason, w.checks = .ok prep → checkCooldown prep.providerName w.cooldownTtl = some reason →
    run.calls = [.checkCooldown c.gatewayKey prep.providerName] ∧ run.outcome = .error (cooldownRejection reason)

/-- A request that is not refused and makes no attempt, and calls `setCooldown` as little. -/
theorem law_of_no_attempt {α : Type} {run : Logged RequestCall ThrownError α} (hchecks : w.checks = .ok prep)
    (hfree : checkCooldown prep.providerName w.cooldownTtl = none) (hcooldowns : setCooldowns run.calls = [])
    (hexecutor : executorCalls run.calls = []) : CooldownLaw c w run := by
  refine ⟨?_, fun _ => hcooldowns, ?_⟩
  · intro _ hlimited
    rw [hexecutor] at hlimited
    cases hlimited
  · intro prep' reason hchecks' hcooldown
    rw [hchecks] at hchecks'
    cases hchecks'
    rw [hfree] at hcooldown
    cases hcooldown

/-- A request that goes on to a work of its own after a miss. -/
theorem law_of_work {α : Type} {before : List RequestCall} {work : Logged RequestCall ThrownError α}
    (hcoded : CodedRateLimits w.runOnce) (hchecks : w.checks = .ok prep)
    (hfree : checkCooldown prep.providerName w.cooldownTtl = none)
    (hbefore : setCooldowns before = [] ∧ executorCalls before = [])
    (hexecutor : executorCalls work.calls = (executorRun c w).calls)
    (herror : ∀ e, (executorRun c w).outcome = .error e → work.outcome = .error (w.handlerError.getD e) ∧
      setCooldowns work.calls = if isProviderRateLimitError e then [(c.gatewayKey, prep.providerName)] else [])
    (hvalue : ∀ result, (executorRun c w).outcome = .ok result →
      (∃ a, work.outcome = .ok a) ∧ setCooldowns work.calls = []) :
    CooldownLaw c w ⟨before ++ work.calls, work.outcome⟩ := by
  -- What comes before the work neither asks a provider nor sets a cooldown.
  have hcalls : executorCalls (before ++ work.calls) = (executorRun c w).calls := by
    rw [executorCalls_append, hbefore.2, List.nil_append, hexecutor]
  have hcooldowns : setCooldowns (before ++ work.calls) = setCooldowns work.calls := by
    rw [setCooldowns_append, hbefore.1, List.nil_append]
  refine ⟨?_, ?_, ?_⟩
  · intro hfailed hlimited
    simp only [hcalls, hcooldowns] at hfailed hlimited ⊢
    refine ⟨prep, hchecks, ?_⟩
    cases houtcome : (executorRun c w).outcome with
    | ok result =>
      obtain ⟨⟨a, ha⟩, -⟩ := hvalue result houtcome
      obtain ⟨e, he⟩ := hfailed
      rw [ha] at he
      cases he
    | error e =>
      rw [(herror e houtcome).2, if_pos ((execute_rateLimited_iff hcoded houtcome).mpr hlimited)]
  · intro hnot
    simp only [hcalls, hcooldowns] at hnot ⊢
    cases houtcome : (executorRun c w).outcome with
    | ok result => exact (hvalue result houtcome).2
    | error e =>
      obtain ⟨hfailed, hset⟩ := herror e houtcome
      rw [hset, if_neg]
      intro h429
      exact hnot ⟨⟨_, hfailed⟩, (execute_rateLimited_iff hcoded houtcome).mp h429⟩
  · intro prep' reason hchecks' hcooldown
    rw [hchecks] at hchecks'
    cases hchecks'
    rw [hfree] at hcooldown
    cases hcooldown

/-- A lookup that has ended in a value was not refused. -/
theorem free_of_lookup {found : PreparedRequest × ChatCacheLookupResult} (hkey : c.gatewayKey ≠ "")
    (h : (executeLookup cfg c w).outcome = .ok found) :
    w.checks = .ok found.1 ∧ checkCooldown found.1.providerName w.cooldownTtl = none := by
  have hchecks := (@executeLookup_spec cfg c w hkey).2.2 found.1 found.2 h
  refine ⟨hchecks, ?_⟩
  cases hcooldown : checkCooldown found.1.providerName w.cooldownTtl with
  | none => rfl
  | some reason =>
    rw [executeLookup_rejected hkey hchecks hcooldown] at h
    cases h

/-- A path is its lookup, which may fail, and what follows on its result. -/
theorem law_of_lookup {α : Type} {next : PreparedRequest × ChatCacheLookupResult → Logged RequestCall ThrownError α}
    (hkey : c.gatewayKey ≠ "")
    (hnext : ∀ found before, w.checks = .ok found.1 → checkCooldown found.1.providerName w.cooldownTtl = none →
      setCooldowns before = [] ∧ executorCalls before = [] →
      CooldownLaw c w ⟨before ++ (next found).calls, (next found).outcome⟩) :
    CooldownLaw c w (executeLookup cfg c w >>= next) := by
  obtain ⟨hcooldowns, hexecutor, -⟩ := @executeLookup_spec cfg c w hkey
  cases hlookup : executeLookup cfg c w with
  | mk calls outcome =>
    rw [hlookup] at hcooldowns hexecutor
    cases outcome with
    | ok found =>
      obtain ⟨hchecks, hfree⟩ := free_of_lookup hkey (congrArg Logged.outcome hlookup)
      exact hnext found calls hchecks hfree ⟨hcooldowns, hexecutor⟩
    | error e =>
      refine ⟨?_, fun _ => hcooldowns, ?_⟩
      · intro _ hlimited
        rw [Logged.bind_error, hexecutor] at hlimited
        cases hlimited
      · intro prep reason hchecks hcooldown
        rw [executeLookup_rejected hkey hchecks hcooldown] at hlookup
        cases hlookup
        exact ⟨rfl, rfl⟩

theorem executeChat_law (hkey : c.gatewayKey ≠ "") (hcoded : CodedRateLimits w.runOnce) :
    CooldownLaw c w (executeChat cfg c w) := by
  apply law_of_lookup hkey
  intro found before hchecks hfree hbefore
  obtain ⟨prep, lookup⟩ := found
  cases lookup with
  | hit reply source => exact law_of_no_attempt hchecks hfree (by simpa using hbefore.1) (by simpa using hbefore.2)
  | miss embedState =>
    cases hjoined : joined cfg c w with
    | some result =>
      refine law_of_no_attempt hchecks hfree ?_ ?_
      · simpa [hjoined] using hbefore.1
      · simpa [hjoined] using hbefore.2
    | none =>
      obtain ⟨hwork, herror, hvalue⟩ := @work_spec cfg c w prep embedState _ ChatResult.live hkey
      exact law_of_work hcoded hchecks hfree hbefore hwork herror hvalue

theorem executeStream_law (hkey : c.gatewayKey ≠ "") (hcoded : CodedRateLimits w.runOnce) :
    CooldownLaw c w (executeStream cfg c w) := by
  apply law_of_lookup hkey
  intro found before hchecks hfree hbefore
  obtain ⟨prep, lookup⟩ := found
  cases lookup with
  | hit reply source => exact law_of_no_attempt hchecks hfree (by simpa using hbefore.1) (by simpa using hbefore.2)
  | miss embedState =>
    obtain ⟨hwork, herror, hvalue⟩ := @work_spec cfg c w prep embedState _ (fun _ => ()) hkey
    exact law_of_work hcoded hchecks hfree hbefore hwork herror hvalue

/-- A request that joins a work in flight: its lookup is all that it does itself. -/
theorem executeChat_joined {embedState : Option SemanticCache.EmbedState} {result : Except ThrownError ChatResult}
    (hmiss : (executeLookup cfg c w).outcome = .ok (prep, .miss embedState)) (hjoined : joined cfg c w = some result) :
    executeChat cfg c w = ⟨(executeLookup cfg c w).calls, result⟩ := by
  unfold executeChat
  cases hlookup : executeLookup cfg c w with
  | mk calls outcome =>
    rw [hlookup] at hmiss
    cases hmiss
    simp [hjoined, Logged.attempt]

/-- A request that does its own work. -/
theorem executeChat_own (hmiss : (executeLookup cfg c w).outcome = .ok (prep, .miss embedState))
    (hown : joined cfg c w = none) :
    executeChat cfg c w = ⟨(executeLookup cfg c w).calls ++ (completeChatAndStore cfg c w prep embedState).calls,
      (completeChatAndStore cfg c w prep embedState).outcome⟩ := by
  unfold executeChat
  cases hlookup : executeLookup cfg c w with
  | mk calls outcome =>
    rw [hlookup] at hmiss
    cases hmiss
    simp [hown]

theorem completeChatAndStore_failed {e : ThrownError} (hkey : c.gatewayKey ≠ "")
    (h : (executorRun c w).outcome = .error e) :
    completeChatAndStore cfg c w prep embedState = ⟨(executorRun c w).calls.map .provider ++
      if isProviderRateLimitError e then [.setCooldown c.gatewayKey prep.providerName] else [],
      .error (w.handlerError.getD e)⟩ := by
  unfold completeChatAndStore
  rw [(@executeAndStore_spec cfg c w prep embedState).1 e h, Logged.bind_error, handled_error hkey]

/-! ## The calls of the caches -/

theorem cacheCalls_completeChatAndStore (hkey : c.gatewayKey ≠ "") :
    cacheCalls (completeChatAndStore cfg c w prep embedState).calls =
        (ChatService.completeChatAndStore cfg c w.toRequestWorld prep.conversationId embedState).calls ∧
      (completeChatAndStore cfg c w prep embedState).outcome =
        (ChatService.completeChatAndStore cfg c w.toRequestWorld prep.conversationId embedState).outcome := by
  unfold ChatService.completeChatAndStore ChatService.execution
  cases houtcome : (executorRun c w).outcome with
  | error e =>
    have hexec : (executeWithRetryAndFallback (ChatService.executionOptions c w.toRequestWorld) w.runOnce).outcome =
      .error e := houtcome
    rw [completeChatAndStore_failed hkey houtcome, hexec]
    refine ⟨?_, rfl⟩
    rw [cacheCalls_append, cacheCalls_provider, List.nil_append]
    split_ifs <;> rfl
  | ok result =>
    have hexec : (executeWithRetryAndFallback (ChatService.executionOptions c w.toRequestWorld) w.runOnce).outcome =
      .ok result := houtcome
    obtain ⟨stored, hrun, hstored⟩ := (@executeAndStore_spec cfg c w prep embedState).2 result houtcome
    unfold completeChatAndStore
    have hset := @ChatCachePipeline.setCachedIfAllowed_outcome cfg c w.toRequestWorld
      (ChatService.chatResponse c w.toRequestWorld prep.conversationId result) embedState
    rw [hrun, Logged.bind_ok, Logged.pure_eq, handled_ok, hexec, hstored]
    -- What the fallback alias answered is not stored.
    cases hfell : result.didFallback with
    | true => simp [Logged.attempt, Logged.settle, hfell]
    | false =>
      cases hlog : ChatCachePipeline.setCachedIfAllowed cfg c w.toRequestWorld
          (ChatService.chatResponse c w.toRequestWorld prep.conversationId result) embedState with
      | mk calls outcome =>
        rw [hlog] at hset
        cases hset
        simp [Logged.attempt, Logged.settle, hfell, hlog]

/-- With the other calls forgotten, a request is one of `ChatService`. -/
theorem cacheCalls_executeChat (hkey : c.gatewayKey ≠ "") :
    cacheCalls (executeChat cfg c w).calls = (ChatService.executeChat cfg c w.toRequestWorld).calls ∧
      (executeChat cfg c w).outcome = (ChatService.executeChat cfg c w.toRequestWorld).outcome := by
  have hsilent := (@preparationCalls_silent c w).2.2
  have hprepared := w.prepared_eq
  unfold executeChat ChatService.executeChat
  rw [executeLookup_eq hkey, ChatService.executeLookup_eq]
  cases hprep : preparedOutcome c.gatewayKey w.checks w.cooldownTtl with
  | error e =>
    rw [hprep] at hprepared
    rw [hprepared]
    exact ⟨hsilent, rfl⟩
  | ok prep =>
    rw [hprep] at hprepared
    rw [hprepared]
    cases hlookup : ChatCachePipeline.getCachedIfAllowed cfg c w.toRequestWorld with
    | mk calls outcome =>
      cases outcome with
      | error e => simp [hsilent, Except.map, Logged.attempt]
      | ok lookup =>
        cases lookup with
        | hit reply source => simp [hsilent, Except.map, Logged.attempt]
        | miss embedState =>
          obtain ⟨hcalls, houtcome⟩ := @cacheCalls_completeChatAndStore cfg c w prep embedState hkey
          -- A call that joins another one of the same key runs no work of its own.
          cases hjoined : joined cfg c w with
          | some result =>
            rw [joined] at hjoined
            simp [hsilent, Except.map, Logged.attempt, hjoined]
          | none =>
            rw [joined] at hjoined
            simp [hsilent, Except.map, Logged.attempt, hjoined, hcalls, houtcome]

/-- The law of both paths, whatever the attempts end in, and what a request does that joins a
work in flight: nothing of its own after the lookup. -/
theorem cooldown_set_iff (cfg : CacheConfig) (c : ExecuteInput) (w : CooldownWorld c.gatewayKey)
    (hkey : c.gatewayKey ≠ "") (hcoded : CodedRateLimits w.runOnce) :
    CooldownLaw c w (executeChat cfg c w) ∧ CooldownLaw c w (executeStream cfg c w) ∧
      ∀ prep embedState result, (executeLookup cfg c w).outcome = .ok (prep, .miss embedState) →
        joined cfg c w = some result →
        (executeChat cfg c w).outcome = result ∧ setCooldowns (executeChat cfg c w).calls = [] ∧
          executorCalls (executeChat cfg c w).calls = [] := by
  refine ⟨executeChat_law hkey hcoded, executeStream_law hkey hcoded, ?_⟩
  intro prep embedState result hmiss hjoined
  obtain ⟨hcooldowns, hexecutor, -⟩ := @executeLookup_spec cfg c w hkey
  rw [executeChat_joined hmiss hjoined]
  exact ⟨rfl, hcooldowns, hexecutor⟩

end Runs

/-! ## Two clients of one name -/

/-- A policy without retries. -/
def singleAttempt : RetryPolicy where
  maxAttempts := 1
  onStatus := [429]
  timeoutMs := none
  initialDelayMs := 0
  maxDelayMs := 0
  maxAttempts_pos := Nat.le_refl 1

def upstream429 : ThrownError := (AdapterError.anthropic ⟨.anthropicRateLimitError, "Error", some "Slow down",
  .integer 429, .notNumber, fun _ h => congrArg StatusField.integer (Option.some.inj h)⟩).thrown

def limitedAttempt (_modelAlias : String) (_attempt : ℕ) : RunOutcome singleAttempt.timeoutMs AttemptValue :=
  .error upstream429

/-- Both caches are empty, the provider answers with a 429, and `shared` is in flight. -/
def limitedRequest (shared : Option (Except ThrownError ChatResult)) : RequestWorld where
  prepared := .ok "conv_1"
  exactReadable := true
  exactText := none
  semanticCache := true
  lookup := ⟨.ok none, false, .ok [1], .ok []⟩
  shared := shared
  fallbackAlias := none
  retry := singleAttempt
  runOnce := limitedAttempt
  responseId := "gw_1"
  cachedAt := ""
  exactWritable := true
  store := ⟨false, .ok [1], .ok ()⟩
  handlerError := none

theorem limitedRequest_prepared (gatewayKey : String) (shared : Option (Except ThrownError ChatResult)) :
    (limitedRequest shared).prepared =
      (preparedOutcome gatewayKey (.ok ⟨"conv_1", "openai-main"⟩) none).map PreparedRequest.conversationId := by
  simp [preparedOutcome, checkCooldown, limitedRequest, Except.map]

def limitedWorld (gatewayKey : String) (shared : Option (Except ThrownError ChatResult)) : CooldownWorld gatewayKey where
  toRequestWorld := limitedRequest shared
  checks := .ok ⟨"conv_1", "openai-main"⟩
  cooldownTtl := none
  prepared_eq := limitedRequest_prepared gatewayKey shared

/-- Another client of the name `Team-A`, with a key of its own. -/
def namesakeInput : ExecuteInput := { askInput "req_2" with gatewayKey := "gk-2" }

theorem tryAlias_limited (modelAlias : String) :
    tryAlias singleAttempt limitedAttempt modelAlias =
      ⟨[.runOnce modelAlias 1], .ok ⟨.error upstream429, 1⟩⟩ := by
  show tryAliasFrom singleAttempt limitedAttempt modelAlias 0 1 = _
  rw [tryAliasFrom_stop (.inr rfl)]
  rfl

theorem executorRun_limited (c : ExecuteInput) (shared : Option (Except ThrownError ChatResult)) :
    executorRun c (limitedWorld c.gatewayKey shared) = ⟨[.runOnce c.request.modelAlias 1], .error upstream429⟩ := by
  have hnone : (ChatService.executionOptions c (limitedRequest shared)).fallbackAlias = none := by
    unfold ChatService.executionOptions
    split <;> rfl
  have hrun := tryAlias_limited c.request.modelAlias
  have hexec := @execute_no_fallback _ (ChatService.executionOptions c (limitedRequest shared)) limitedAttempt 1
    upstream429 (by rw [hnone]; exact nofun) (congrArg Logged.outcome hrun) (by rw [hnone]; rfl)
  have hcalls := congrArg Logged.calls hrun
  exact hexec.trans (congrArg (fun calls => Logged.mk calls (.error upstream429)) hcalls)

/-- The first request under the key. -/
def firstWorld : CooldownWorld (askInput "req_1").gatewayKey := limitedWorld _ none

theorem executeChat_limited :
    executeChat ChatService.bothCaches (askInput "req_1") firstWorld =
      ⟨(executeLookup ChatService.bothCaches (askInput "req_1") firstWorld).calls ++
        [.provider (.runOnce "chat-default" 1), .setCooldown "gk-1" "openai-main"], .error upstream429⟩ := by
  have hrun : executorRun (askInput "req_1") firstWorld =
      ⟨[.runOnce "chat-default" 1], .error upstream429⟩ := executorRun_limited (askInput "req_1") none
  have hmiss : (executeLookup ChatService.bothCaches (askInput "req_1") firstWorld).outcome =
      .ok (⟨"conv_1", "openai-main"⟩, .miss (some ⟨some [1], true⟩)) := rfl
  have hfailed : completeChatAndStore ChatService.bothCaches (askInput "req_1") firstWorld
      ⟨"conv_1", "openai-main"⟩ (some ⟨some [1], true⟩) = _ :=
    completeChatAndStore_failed (by decide) (congrArg Logged.outcome hrun)
  rw [executeChat_own hmiss rfl, hfailed, hrun]
  rfl

theorem setCooldowns_limited :
    setCooldowns (executeChat ChatService.bothCaches (askInput "req_1") firstWorld).calls =
      [("gk-1", "openai-main")] := by
  rw [executeChat_limited, setCooldowns_append, (executeLookup_spec (by decide)).1]
  rfl

theorem cooldown_set_iff_limited :
    setCooldowns (executeChat ChatService.bothCaches (askInput "req_1") firstWorld).calls =
        [("gk-1", "openai-main")] ∧
      CooldownLaw (askInput "req_1") firstWorld
        (executeChat ChatService.bothCaches (askInput "req_1") firstWorld) := by
  refine ⟨setCooldowns_limited, ?_⟩
  refine (cooldown_set_iff ChatService.bothCaches (askInput "req_1") firstWorld (by decide) ?_).1
  intro modelAlias attempt e he
  cases he
  exact AdapterError.coded _

/-- Two clients share a name and so a work. The second one's request fails with the 429 of the
primary alias, and for its key no cooldown is set. -/
theorem joined_sets_no_cooldown :
    let first := executeChat ChatService.bothCaches (askInput "req_1") firstWorld
    let second := executeChat ChatService.bothCaches namesakeInput (limitedWorld _ (some first.outcome))
    (askInput "req_1").key plainIdentity = namesakeInput.key plainIdentity ∧
      first.outcome = .error upstream429 ∧ setCooldowns first.calls = [("gk-1", "openai-main")] ∧
      second.outcome = .error upstream429 ∧ upstream429.status = some 429 ∧
      setCooldowns second.calls = [] := by
  intro first second
  have hfirst : first.outcome = .error upstream429 := by rw [show first = _ from executeChat_limited]
  have hsecond : second = ⟨(executeLookup ChatService.bothCaches namesakeInput
      (limitedWorld _ (some first.outcome))).calls, first.outcome⟩ :=
    @executeChat_joined ChatService.bothCaches namesakeInput (limitedWorld _ (some first.outcome))
      ⟨"conv_1", "openai-main"⟩ (some ⟨some [1], true⟩) first.outcome rfl rfl
  refine ⟨rfl, hfirst, setCooldowns_limited, ?_, rfl, ?_⟩
  · rw [hsecond, hfirst]
  · rw [hsecond]
    exact (@executeLookup_spec ChatService.bothCaches namesakeInput (limitedWorld _ (some first.outcome))
      (by decide)).1

end Cooldown

end AiGateway
