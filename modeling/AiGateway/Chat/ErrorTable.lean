import AiGateway.Chat.Cooldown
import AiGateway.Chat.NativeIngress
import AiGateway.Integrations.AnthropicRequest
import AiGateway.Integrations.OpenAiRequest
import AiGateway.Lib.FailsIn

/- The exceptions that a chat request can end in. Every provider fails in ways of its own, an
   attempt can be retried, time out or go over to the fallback alias, and the executor makes a
   new exception of two; all the same the status and the code are one of `errorTable`
   (`execute_listed`), whatever the SDKs throw. An error that is no `HttpException` passes
   through as it is. -/
namespace AiGateway

/-- Status and code of the exceptions that are thrown; an exception of Nest has no code. -/
def errorTable : List (ℕ × Option String) :=
  [(400, none), (400, some "VALIDATION_FAILED"), (400, some "MODEL_ALIAS_NOT_FOUND"), (400, some "MODEL_NOT_ALLOWED"),
    (400, some "TOOLS_NOT_SUPPORTED"), (400, some "THINKING_NOT_SUPPORTED"), (400, some "STREAMING_NOT_SUPPORTED"),
    (401, some "GATEWAY_KEY_MISSING"), (401, some "PROVIDER_AUTH_FAILED"), (403, some "GATEWAY_KEY_INVALID"),
    (429, some "RATE_LIMITED"), (429, some "PROVIDER_RATE_LIMITED"), (500, none), (500, some "GATEWAY_KEY_NOT_CONFIGURED"),
    (500, some "PROVIDER_UNSUPPORTED"), (502, some "PROVIDER_UNAVAILABLE"), (504, some "PROVIDER_TIMEOUT")]

def ThrownError.Listed : ThrownError → Prop
  | .http status code _ _ => (status, code) ∈ errorTable
  | .other _ => True

/-- The `HttpException` of a refused body, or the `TypeError`. -/
def NativeIngress.IngressError.thrown : NativeIngress.IngressError → ThrownError
  | .invalid message _ _ => validationFailed message
  | .typeError value property => cannotRead value property

/-! ## The checks -/

section Checks
variable {ctx : CallContext} {mode : CallMode} {c : ChatCall} {modelAlias : String} {resolved : ResolvedProviderConfig}

theorem validationFailed_listed (message : String) : (validationFailed message).Listed := by
  show (400, some "VALIDATION_FAILED") ∈ errorTable
  decide

theorem ingress_listed (e : NativeIngress.IngressError) : e.thrown.Listed := by
  cases e with
  | invalid message field issue => exact validationFailed_listed message
  | typeError value property => trivial

theorem cooldown_listed (reason : String) : (cooldownRejection reason).Listed := by
  show (429, some "RATE_LIMITED") ∈ errorTable
  decide

theorem streaming_listed (message : String) : (streamingNotSupported message).Listed := by
  show (400, some "STREAMING_NOT_SUPPORTED") ∈ errorTable
  decide

theorem typeMismatch_listed (message : String) : (ThrownError.http 500 none message none).Listed := by
  show (500, none) ∈ errorTable
  decide

theorem notRegistered_listed (instanceId type : String) : (providerNotRegistered instanceId type).Listed := by
  show (500, some "PROVIDER_UNSUPPORTED") ∈ errorTable
  decide

theorem undefinedInstance_listed (reg : ProviderRegistry) : reg.undefinedInstanceError.Listed := by
  unfold ProviderRegistry.undefinedInstanceError
  split
  · exact notRegistered_listed _ _
  · exact validationFailed_listed _

theorem resolve_listed (reg : ProviderRegistry) (modelAlias : String) :
    FailsIn ThrownError.Listed (reg.resolve modelAlias) := by
  unfold ProviderRegistry.resolve
  apply FailsIn.bind
  · unfold ProviderRegistry.resolveModelAlias
    split
    · exact FailsIn.ok _
    · exact FailsIn.ok _
    · apply FailsIn.error
      show (400, some "MODEL_ALIAS_NOT_FOUND") ∈ errorTable
      decide
  · intro found
    cases found with
    | none => exact FailsIn.error (undefinedInstance_listed reg)
    | some model =>
      refine FailsIn.bind ?_ fun _ => FailsIn.ok _
      unfold ProviderRegistry.resolveProviderEntry
      split
      · exact FailsIn.error (validationFailed_listed _)
      · split
        · exact FailsIn.error (notRegistered_listed _ _)
        · exact FailsIn.error (typeMismatch_listed _)
      · split
        · exact FailsIn.error (notRegistered_listed _ _)
        · exact FailsIn.ite (fun _ => FailsIn.error (typeMismatch_listed _)) fun _ => FailsIn.ok _

theorem options_listed (e : OptionsError) (h : e.code = "MODEL_NOT_ALLOWED" ∨ e.code = "VALIDATION_FAILED") :
    e.thrown.Listed := by
  show (400, some e.code) ∈ errorTable
  obtain h | h := h
  · rw [h]
    decide
  · rw [h]
    decide

theorem callOptions_listed (ctx : CallContext) (c : ChatCall) (resolved : ResolvedProviderConfig) :
    FailsIn ThrownError.Listed (callOptions ctx c resolved) := by
  unfold callOptions
  apply FailsIn.mapError
  unfold resolveProviderCallOptions
  split
  · exact FailsIn.error (options_listed _ (.inl rfl))
  · apply FailsIn.ite
    · exact fun _ => FailsIn.error (options_listed _ (.inl rfl))
    · intro _
      apply FailsIn.ite
      · exact fun _ => FailsIn.error (options_listed _ (.inl rfl))
      · intro _
        dsimp only
        split
        · exact FailsIn.ite (fun _ => FailsIn.error (options_listed _ (.inr rfl))) fun _ => FailsIn.ok _
        · exact FailsIn.ok _

theorem validateTooling_listed : FailsIn ThrownError.Listed (validateTooling c resolved) := by
  have htools : toolsNotSupported.Listed := by
    show (400, some "TOOLS_NOT_SUPPORTED") ∈ errorTable
    decide
  unfold validateTooling
  apply FailsIn.ite
  · exact fun _ => FailsIn.ok _
  · exact fun _ => FailsIn.ite (fun _ => FailsIn.error htools) fun _ => FailsIn.ok _

theorem validateThinking_listed {options : ProviderCallOptions} :
    FailsIn ThrownError.Listed (validateThinking resolved options) := by
  have hthinking : thinkingNotSupported.Listed := by
    show (400, some "THINKING_NOT_SUPPORTED") ∈ errorTable
    decide
  exact FailsIn.ite (fun _ => FailsIn.error hthinking) fun _ => FailsIn.ok _

theorem validateForStreaming_listed (reg : ProviderRegistry) (modelAlias : String) :
    FailsIn ThrownError.Listed (validateForStreaming reg modelAlias) := by
  unfold validateForStreaming
  apply FailsIn.bind (resolve_listed reg modelAlias)
  intro resolved
  apply FailsIn.ite
  · exact fun _ => FailsIn.error (streaming_listed _)
  · exact fun _ => FailsIn.ite (fun _ => FailsIn.error (streaming_listed _)) fun _ => FailsIn.ok _

theorem throwing_listed {thrown : Option ThrownError} (h : ∀ e ∈ thrown, e.Listed) :
    FailsIn ThrownError.Listed (throwing thrown) := by
  cases thrown with
  | none => exact FailsIn.ok _
  | some e => exact FailsIn.error (h e rfl)

theorem prepareRequest_listed {early cooldown : Option ThrownError} (hearly : ∀ e ∈ early, e.Listed)
    (hcooldown : ∀ e ∈ cooldown, e.Listed) :
    FailsIn ThrownError.Listed (prepareRequestForExecution ctx c early cooldown) := by
  unfold prepareRequestForExecution
  apply FailsIn.bind (throwing_listed hearly)
  intro _
  apply FailsIn.bind (resolve_listed _ _)
  intro primaryResolved
  apply FailsIn.bind validateTooling_listed
  intro _
  apply FailsIn.bind (callOptions_listed _ _ _)
  intro options
  apply FailsIn.bind validateThinking_listed
  exact fun _ => FailsIn.bind (throwing_listed hcooldown) fun _ => FailsIn.ok _

end Checks

/-! ## The bodies of the facades -/

section Bodies

theorem namedChoice_listed (isFunction : Bool) (name : Option Json.Value) :
    FailsIn ThrownError.Listed (namedChoice isFunction name) := by
  unfold namedChoice
  split
  · exact FailsIn.ok _
  · exact FailsIn.error (validationFailed_listed _)

theorem mapTools_listed {map : Json.Value → Except ThrownError (List GatewayToolDefinition)}
    (hmap : ∀ v, FailsIn ThrownError.Listed (map v)) (tools : Option Json.Value) :
    FailsIn ThrownError.Listed (mapTools map tools) := by
  cases tools with
  | none => exact FailsIn.ok _
  | some v => exact FailsIn.ite (fun _ => FailsIn.map (hmap v) _) fun _ => FailsIn.ok _

theorem mapOpenAi_listed (body : OpenAiChatBody) : FailsIn ThrownError.Listed (mapOpenAiChatRequestToGateway body) := by
  have hmessage : ∀ m, FailsIn ThrownError.Listed (mapOpenAiMessage m) := by
    intro m
    unfold mapOpenAiMessage
    split
    · exact FailsIn.error trivial
    · exact FailsIn.ok _
    · split
      · exact FailsIn.ok _
      · exact FailsIn.ok _
      · exact FailsIn.ok _
      · split
        · exact FailsIn.error (validationFailed_listed _)
        · exact FailsIn.ok _
  have hparams : FailsIn ThrownError.Listed (openAiParams body) := by
    refine FailsIn.ite (fun _ => FailsIn.ok _) fun _ => ?_
    dsimp only
    split
    · exact FailsIn.ok _
    · refine FailsIn.bind (FailsIn.map ?_ _) fun _ => FailsIn.ok _
      unfold openAiResponseFormat
      split
      · exact FailsIn.error trivial
      · exact FailsIn.ok _
  have htools : ∀ v, FailsIn ThrownError.Listed (mapOpenAiToolsToGateway v) := by
    intro v
    unfold mapOpenAiToolsToGateway
    split
    · exact FailsIn.error trivial
    · exact FailsIn.ite (fun _ => FailsIn.error (validationFailed_listed _)) fun _ => FailsIn.ok _
  have hchoice : FailsIn ThrownError.Listed (mapOpenAiToolChoice body.toolChoice) := by
    unfold mapOpenAiToolChoice
    split
    iterate 4 exact FailsIn.ok _
    exact namedChoice_listed _ _
  -- In the order of the mapper: messages, parameters, tools, choice.
  refine FailsIn.bind ?_ fun _ => FailsIn.bind hparams fun _ => FailsIn.bind (mapTools_listed htools _) fun _ =>
    FailsIn.bind hchoice fun _ => FailsIn.ok _
  refine FailsIn.bind (FailsIn.collect fun m _ => hmessage m) fun _ => ?_
  exact FailsIn.ite (fun _ => FailsIn.error (validationFailed_listed _)) fun _ => FailsIn.ok _

theorem mapAnthropic_listed (body : AnthropicMessagesBody) :
    FailsIn ThrownError.Listed (mapAnthropicRequestToGateway body) := by
  have himage : ∀ blocks, FailsIn ThrownError.Listed (someImage blocks) := by
    intro blocks
    induction blocks with
    | nil => exact FailsIn.ok _
    | cons block blocks ih =>
      cases block with
      | null => exact FailsIn.error trivial
      | array => exact ih
      | dto b => exact FailsIn.ite (fun _ => FailsIn.ok _) fun _ => ih
  have hmessage : ∀ m, FailsIn ThrownError.Listed (mapAnthropicMessage m) := by
    intro m
    cases m with
    | null => exact FailsIn.error trivial
    | array => exact FailsIn.error trivial
    | dto m =>
      refine FailsIn.bind (himage _) fun _ => FailsIn.ite (fun _ => FailsIn.error (validationFailed_listed _)) fun _ => ?_
      exact FailsIn.ite (fun _ => FailsIn.error (validationFailed_listed _)) fun _ => FailsIn.ok _
  have hparams : FailsIn ThrownError.Listed (anthropicParams body) := by
    refine FailsIn.ite (fun _ => FailsIn.ok _) fun _ => ?_
    dsimp only
    split
    · exact FailsIn.ok _
    · refine FailsIn.bind (FailsIn.map ?_ _) fun _ => FailsIn.ok _
      unfold anthropicResponseFormat
      split
      · exact FailsIn.error trivial
      · exact FailsIn.ok _
  have htools : ∀ v, FailsIn ThrownError.Listed (mapAnthropicToolsToGateway v) := by
    intro v
    unfold mapAnthropicToolsToGateway
    split
    · exact FailsIn.ok _
    · exact FailsIn.error trivial
  have hchoice : FailsIn ThrownError.Listed (mapAnthropicToolChoice body.toolChoice) := by
    unfold mapAnthropicToolChoice
    split
    · exact FailsIn.ok _
    · exact FailsIn.ite (fun _ => FailsIn.ok _) fun _ => FailsIn.ite (fun _ => FailsIn.ok _) fun _ => namedChoice_listed _ _
  -- In the order of the mapper: messages, parameters, tools, choice.
  refine FailsIn.bind (FailsIn.collect fun m _ => hmessage m) fun _ => ?_
  refine FailsIn.ite (fun _ => FailsIn.error (validationFailed_listed _)) fun _ => ?_
  exact FailsIn.bind hparams fun _ => FailsIn.bind (mapTools_listed htools _) fun _ =>
    FailsIn.bind hchoice fun _ => FailsIn.ok _

end Bodies

/-! ## The attempts -/

section Attempts
variable {ctx : CallContext} {mode : CallMode} {c : ChatCall} {modelAlias : String}

/-- The mappers answer with five pairs, whatever the SDK has thrown. -/
theorem AdapterError.listed (e : AdapterError) : e.thrown.Listed := by
  -- The mappers know five answers, whatever the SDK throws.
  have hmapped : ∀ mapped : MappedProviderError,
      mapped.answer ∈ [(400, .validationFailed), (401, .providerAuthFailed), (429, .providerRateLimited),
        (502, .providerUnavailable), (504, .providerTimeout)] → (toHttpException mapped).Listed := by
    intro mapped hanswer
    have hpair : (mapped.httpStatus, some mapped.code.text) = (mapped.answer.1, some mapped.answer.2.text) := rfl
    show (mapped.httpStatus, some mapped.code.text) ∈ errorTable
    rw [hpair]
    generalize mapped.answer = answer at hanswer
    revert answer
    decide
  cases e with
  | anthropic error =>
    apply hmapped
    unfold mapAnthropicSdkError
    dsimp only
    split_ifs <;> simp [MappedProviderError.answer]
  | google error =>
    apply hmapped
    unfold mapGoogleGenAiError
    dsimp only
    split_ifs <;> simp [MappedProviderError.answer]
  | openAi error =>
    apply hmapped
    unfold mapOpenAiSdkError mapOpenAiOtherError
    dsimp only
    split_ifs <;> simp [MappedProviderError.answer]
  | own message => trivial

theorem toProviderTurns_listed (messages : List ChatMessage) : FailsIn ThrownError.Listed (toProviderTurns messages) := by
  have hmissing : missingToolCallIdError.Listed := validationFailed_listed _
  apply FailsIn.mapM
  intro m _
  unfold toProviderTurn
  split
  · exact FailsIn.ok _
  · exact FailsIn.ok _
  · split
    · exact FailsIn.ok _
    · exact FailsIn.error hmissing

theorem composeSystemPrompt_listed (prompts : SystemPrompts) :
    FailsIn ThrownError.Listed (composeSystemPrompt prompts modelAlias) := by
  unfold composeSystemPrompt
  split
  · exact FailsIn.ok _
  · exact FailsIn.ok _
  · exact FailsIn.error trivial

theorem buildProviderInput_listed (body : ChatRequestBody) (prompts : SystemPrompts) :
    FailsIn ThrownError.Listed (buildProviderInputForAlias body modelAlias prompts) := by
  apply FailsIn.bind (composeSystemPrompt_listed prompts)
  intro system
  exact FailsIn.bind (toProviderTurns_listed _) fun _ => FailsIn.ok _

theorem prepareCall_listed : FailsIn ThrownError.Listed (prepareCall ctx mode c modelAlias) := by
  unfold prepareCall
  apply FailsIn.bind (resolve_listed _ _)
  intro resolved
  apply FailsIn.bind (callOptions_listed _ _ _)
  intro options
  apply FailsIn.bind (buildProviderInput_listed c.body ctx.prompts)
  intro input
  exact FailsIn.ite (fun _ => FailsIn.error trivial) fun _ => FailsIn.ok _

/-- The adapters throw what their mappers make of it. -/
def AdaptersMap {α : Type} (w : CallWorld α) : Prop :=
  ∀ timeoutMs modelAlias attempt e, w.provider timeoutMs modelAlias attempt = .error e →
    ∃ error : AdapterError, e = error.thrown

theorem runOnce_listed {α : Type} {w : CallWorld α} (hadapters : AdaptersMap w) (timeoutMs : Option ℕ)
    (modelAlias : String) (attempt : ℕ) :
    FailsIn ThrownError.Listed (runWithTimeout (runOnce ctx mode c w timeoutMs modelAlias attempt)) := by
  unfold runOnce
  cases hprepared : prepareCall ctx mode c modelAlias with
  | error e => exact FailsIn.error (prepareCall_listed e hprepared)
  | ok call =>
    cases hended : w.provider timeoutMs modelAlias attempt with
    | value a => simpa [hended, runWithTimeout] using FailsIn.ok a
    | deadline ms hset hpos =>
      have htimeout : (timeoutError ms).Listed := by
        show (504, some "PROVIDER_TIMEOUT") ∈ errorTable
        decide
      simpa [hended, runWithTimeout] using FailsIn.error htimeout
    | error thrown =>
      obtain ⟨error, rfl⟩ := hadapters timeoutMs modelAlias attempt thrown hended
      simpa [hended, runWithTimeout] using FailsIn.error error.listed

end Attempts

/-! ## The executor -/

/-- The exception that is made of two keeps status and code, or is a 502. -/
theorem exhausted_listed {o : ExecutionOptions} {primaryError fallbackError : ThrownError} (h : primaryError.Listed) :
    (toExhaustedException o primaryError fallbackError).Listed := by
  have hunavailable : (502, some "PROVIDER_UNAVAILABLE") ∈ errorTable := by decide
  unfold toExhaustedException
  split
  · exact h
  · exact hunavailable

theorem execute_listed {α : Type} {o : ExecutionOptions} {runOnce : String → ℕ → RunOutcome o.retry.timeoutMs α}
    (hrun : ∀ modelAlias attempt, FailsIn ThrownError.Listed (runWithTimeout (runOnce modelAlias attempt))) :
    FailsIn ThrownError.Listed (executeWithRetryAndFallback o runOnce).outcome := by
  by_cases hcycle : o.fallbackAlias = some o.primaryAlias
  · rw [executeWithRetryAndFallback, fallbackCycleError, if_pos hcycle]
    exact FailsIn.error (validationFailed_listed _)
  · obtain ⟨n, hprimary⟩ := @tryAlias_run _ o.retry runOnce o.primaryAlias
    cases hended : runWithTimeout (runOnce o.primaryAlias n) with
    | ok v =>
      rw [execute_primary hcycle (by rw [hprimary.outcome, hended])]
      exact FailsIn.ok _
    | error primaryError =>
      have hlisted : primaryError.Listed := hrun _ _ _ hended
      cases hf : JsString.truthy o.fallbackAlias with
      | none =>
        rw [execute_no_fallback hcycle (by rw [hprimary.outcome, hended]) hf]
        exact FailsIn.error hlisted
      | some f =>
        obtain ⟨m, hfallback⟩ := @tryAlias_run _ o.retry runOnce f
        rw [execute_fallback hcycle (by rw [hprimary.outcome, hended]) hf hfallback.outcome]
        cases runWithTimeout (runOnce f m) with
        | ok v => exact FailsIn.ok _
        | error fallbackError => exact FailsIn.error (exhausted_listed hlisted)

end AiGateway
