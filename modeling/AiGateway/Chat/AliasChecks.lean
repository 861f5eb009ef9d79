import AiGateway.Chat.CallOptions
import AiGateway.Chat.Executor
import AiGateway.Chat.ProviderInput
import AiGateway.Lib.Fallible
import AiGateway.Providers.Registry

/- The checks of `ChatValidationService` against the calls that are made: they run once, on the
   alias of the request, in `validateForStreaming` and `prepareRequestForExecution`, while
   `completeOnce` and `streamOnce` resolve the alias and its options anew in each attempt, and
   the executor may go over to the fallback alias.

   `calls_checked_iff`: every call of a request, however its attempts end, meets the checks if
   and only if the fallback alias has the capabilities for it; nothing checks that one.
   `fallback_gets_thinking` is a request whose fallback is asked to think and cannot. -/
namespace AiGateway

/-- The two paths. -/
inductive CallMode where
  | complete | stream
  deriving DecidableEq, Repr

/-- What the services of a request are configured with. -/
structure CallContext where
  registry : ProviderRegistry
  prompts : SystemPrompts
  numberText : ℚ → String

/-- A request with its `params`. -/
structure ChatCall where
  body : ChatRequestBody
  params : Option BodyParams

def ChatCall.modelAlias (c : ChatCall) : String := c.body.request.modelAlias

/-! ## `ChatValidationService` -/

def toolsNotSupported : ThrownError :=
  .http 400 (some "TOOLS_NOT_SUPPORTED") "Tools are not supported for this model alias." none

def thinkingNotSupported : ThrownError :=
  .http 400 (some "THINKING_NOT_SUPPORTED") "Extended thinking is not supported for this model alias." none

def streamingNotSupported (message : String) : ThrownError := .http 400 (some "STREAMING_NOT_SUPPORTED") message none

def validateTooling (c : ChatCall) (resolved : ResolvedProviderConfig) : Except ThrownError Unit :=
  if !isToolingRequest c.body.request then .ok ()
  else if resolved.capabilities.tools ≠ some true then .error toolsNotSupported
  else .ok ()

def reasoningRequested (providerType : ProviderType) (options : ProviderCallOptions) : Bool :=
  if providerType = .openai then isOpenAiReasoningRequested options else options.thinkingEnabled = some true

def validateThinking (resolved : ResolvedProviderConfig) (options : ProviderCallOptions) : Except ThrownError Unit :=
  if reasoningRequested resolved.providerType options && resolved.capabilities.thinking ≠ some true then
    .error thinkingNotSupported
  else .ok ()

def validateForStreaming (reg : ProviderRegistry) (modelAlias : String) : Except ThrownError ResolvedProviderConfig := do
  let resolved ← reg.resolve modelAlias
  if resolved.capabilities.streaming ≠ some true then
    .error (streamingNotSupported "Streaming not supported for this model.")
  else if !resolved.stream then
    .error (streamingNotSupported "Streaming adapter not implemented for this provider.")
  else .ok resolved

/-! ## From the request to the calls -/

section Calls
variable (ctx : CallContext) (mode : CallMode) (c : ChatCall)

def callOptions (resolved : ResolvedProviderConfig) : Except ThrownError ProviderCallOptions :=
  (resolveProviderCallOptions ctx.numberText resolved.params c.params).mapError OptionsError.thrown

/-- A step that throws or does nothing. -/
def throwing : Option ThrownError → Except ThrownError Unit
  | some e => .error e
  | none => .ok ()

/-- `early` is thrown by what comes before the alias is resolved (`validateChatIngress`, the
prompts, the conversation id), `cooldown` by `assertNotInCooldown`. -/
def prepareRequestForExecution (early cooldown : Option ThrownError) :
    Except ThrownError ResolvedProviderConfig := do
  throwing early
  let primaryResolved ← ctx.registry.resolve c.modelAlias
  validateTooling c primaryResolved
  let options ← callOptions ctx c primaryResolved
  validateThinking primaryResolved options
  throwing cooldown
  return primaryResolved

/-- Up to the execution: the stream controllers validate the alias first. -/
def acceptRequest (early cooldown : Option ThrownError) : Except ThrownError ResolvedProviderConfig :=
  match mode with
  | .complete => prepareRequestForExecution ctx c early cooldown
  | .stream => do
    let _ ← validateForStreaming ctx.registry c.modelAlias
    prepareRequestForExecution ctx c early cooldown

/-- A call of `complete` or `stream` of a provider. -/
structure ProviderCall where
  mode : CallMode
  resolved : ResolvedProviderConfig
  options : ProviderCallOptions
  input : ProviderChatInput

def notAFunction : ThrownError := .other "resolved.provider.stream is not a function"

/-- `completeOnce` and `streamOnce` up to the call of the provider; `stream!` on an adapter
without the method is a `TypeError`. -/
def prepareCall (modelAlias : String) : Except ThrownError ProviderCall := do
  let resolved ← ctx.registry.resolve modelAlias
  let options ← callOptions ctx c resolved
  let input ← buildProviderInputForAlias c.body modelAlias ctx.prompts
  if mode = .stream ∧ resolved.stream = false then .error notAFunction
  else .ok ⟨mode, resolved, options, input⟩

/-- How a request fares: what it is refused for, whether a cache or a shared work has its
answer, and how each attempt on a provider ends. -/
structure CallWorld (α : Type) where
  early : Option ThrownError
  cooldown : Option ThrownError
  answered : Bool
  provider : (timeoutMs : Option ℕ) → String → ℕ → RunOutcome timeoutMs α

variable {α : Type} (w : CallWorld α)

def runOnce (timeoutMs : Option ℕ) (modelAlias : String) (attempt : ℕ) : RunOutcome timeoutMs α :=
  match prepareCall ctx mode c modelAlias with
  | .error e => .error e
  | .ok _ => w.provider timeoutMs modelAlias attempt

/-- A tooling request has no fallback. -/
def chatExecution (primaryResolved : ResolvedProviderConfig) : ExecutionOptions where
  primaryAlias := c.modelAlias
  fallbackAlias := if isToolingRequest c.body.request then none else primaryResolved.fallbackAlias
  retry := buildRetryPolicyFromResolved primaryResolved

def providerCalls : List ProviderCall :=
  match acceptRequest ctx mode c w.early w.cooldown with
  | .error _ => []
  | .ok primaryResolved =>
    if w.answered then []
    else
      (invocations (executeWithRetryAndFallback (chatExecution c primaryResolved)
        (runOnce ctx mode c w _)).calls).filterMap fun (modelAlias, _) =>
          (prepareCall ctx mode c modelAlias).toOption

end Calls

/-- The checks, on the alias that the call goes to. -/
structure ProviderCall.Checked (call : ProviderCall) : Prop where
  streaming : call.mode = .stream → call.resolved.capabilities.streaming = some true ∧ call.resolved.stream = true
  thinking : reasoningRequested call.resolved.providerType call.options = true →
    call.resolved.capabilities.thinking = some true

/-- The fallback alias of a request that is accepted, has no tools and whose alias has one: if its
prompt is read, and it resolves and allows the parameters of the request, it has the capabilities
that the request needs there. -/
def FallbackCapable (ctx : CallContext) (mode : CallMode) (c : ChatCall) : Prop :=
  isToolingRequest c.body.request = false →
  ∀ primaryResolved, acceptRequest ctx mode c none none = .ok primaryResolved →
  ∀ fallback, JsString.truthy primaryResolved.fallbackAlias = some fallback → fallback ≠ c.modelAlias →
  ctx.prompts.reads fallback = true →
  ∀ resolved options, ctx.registry.resolve fallback = .ok resolved → callOptions ctx c resolved = .ok options →
    (mode = .stream → resolved.stream = true → resolved.capabilities.streaming = some true) ∧
      ((mode = .stream → resolved.stream = true) → reasoningRequested resolved.providerType options = true →
        resolved.capabilities.thinking = some true)

/-! ## The alias of the request is checked -/

section Primary
open Fallible
variable {ctx : CallContext} {mode : CallMode} {c : ChatCall} {early cooldown : Option ThrownError}

theorem validateThinking_ok {resolved : ResolvedProviderConfig} {options : ProviderCallOptions}
    (h : validateThinking resolved options = .ok ()) (hasks : reasoningRequested resolved.providerType options = true) :
    resolved.capabilities.thinking = some true := by
  unfold validateThinking at h
  split at h
  · cases h
  · next hnot =>
    rw [hasks] at hnot
    simpa using hnot

theorem validateForStreaming_ok {reg : ProviderRegistry} {modelAlias : String} {resolved : ResolvedProviderConfig}
    (h : validateForStreaming reg modelAlias = .ok resolved) :
    reg.resolve modelAlias = .ok resolved ∧ resolved.capabilities.streaming = some true ∧ resolved.stream = true := by
  obtain ⟨found, hfound, hchecks⟩ := bind_eq_ok.mp h
  split at hchecks
  · cases hchecks
  · next hstreaming =>
    split at hchecks
    · cases hchecks
    · next hstream =>
      cases hchecks
      exact ⟨hfound, not_not.mp hstreaming, by simpa using hstream⟩

/-- What `prepareRequestForExecution` has established, and that it depends on the outside only
through what it throws. -/
theorem prepareRequest_ok {resolved : ResolvedProviderConfig}
    (h : prepareRequestForExecution ctx c early cooldown = .ok resolved) :
    ctx.registry.resolve c.modelAlias = .ok resolved ∧
      (∃ options, callOptions ctx c resolved = .ok options ∧ validateThinking resolved options = .ok ()) ∧
      prepareRequestForExecution ctx c none none = .ok resolved := by
  obtain ⟨_, hearly, h⟩ := bind_eq_ok.mp h
  obtain ⟨found, hfound, h⟩ := bind_eq_ok.mp h
  obtain ⟨_, htooling, h⟩ := bind_eq_ok.mp h
  obtain ⟨options, hoptions, h⟩ := bind_eq_ok.mp h
  obtain ⟨_, hthinking, h⟩ := bind_eq_ok.mp h
  obtain ⟨_, hcooldown, h⟩ := bind_eq_ok.mp h
  cases h
  refine ⟨hfound, ⟨options, hoptions, hthinking⟩, ?_⟩
  unfold prepareRequestForExecution
  rw [hfound]
  simp only [throwing, bind, Except.bind, htooling, hoptions, hthinking]
  rfl

theorem acceptRequest_ok {resolved : ResolvedProviderConfig}
    (h : acceptRequest ctx mode c early cooldown = .ok resolved) :
    ctx.registry.resolve c.modelAlias = .ok resolved ∧
      (∃ options, callOptions ctx c resolved = .ok options ∧ validateThinking resolved options = .ok ()) ∧
      (mode = .stream → resolved.capabilities.streaming = some true ∧ resolved.stream = true) ∧
      acceptRequest ctx mode c none none = .ok resolved := by
  cases mode with
  | complete =>
    obtain ⟨hresolve, hoptions, hnone⟩ := prepareRequest_ok h
    refine ⟨hresolve, hoptions, ?_, hnone⟩
    intro hmode
    cases hmode
  | stream =>
    obtain ⟨checked, hchecked, h⟩ := bind_eq_ok.mp h
    obtain ⟨hsame, hstreaming⟩ := validateForStreaming_ok hchecked
    obtain ⟨hresolve, hoptions, hnone⟩ := prepareRequest_ok h
    rw [hresolve] at hsame
    cases hsame
    refine ⟨hresolve, hoptions, fun _ => hstreaming, ?_⟩
    show (validateForStreaming ctx.registry c.modelAlias >>= fun _ => prepareRequestForExecution ctx c none none) = _
    rw [hchecked]
    exact hnone

theorem prepareCall_ok {modelAlias : String} {call : ProviderCall} (h : prepareCall ctx mode c modelAlias = .ok call) :
    ctx.registry.resolve modelAlias = .ok call.resolved ∧ callOptions ctx c call.resolved = .ok call.options ∧
      ctx.prompts.reads modelAlias = true ∧ call.mode = mode ∧ (mode = .stream → call.resolved.stream = true) := by
  obtain ⟨resolved, hresolve, h⟩ := bind_eq_ok.mp h
  obtain ⟨options, hoptions, h⟩ := bind_eq_ok.mp h
  obtain ⟨input, hinput, h⟩ := bind_eq_ok.mp h
  obtain ⟨system, hsystem, -⟩ := bind_eq_ok.mp hinput
  split at h
  · cases h
  · next hstream =>
    cases h
    refine ⟨hresolve, hoptions, (composeSystemPrompt_ok hsystem).1, rfl, ?_⟩
    intro hmode
    by_contra hno
    exact hstream ⟨hmode, Bool.eq_false_iff.mpr hno⟩

/-- Each attempt on the alias of the request resolves to what was checked. -/
theorem primary_checked {resolved : ResolvedProviderConfig} {call : ProviderCall}
    (haccept : acceptRequest ctx mode c early cooldown = .ok resolved)
    (hcall : prepareCall ctx mode c c.modelAlias = .ok call) : call.Checked := by
  obtain ⟨hresolve, ⟨options, hoptions, hthinking⟩, hstreaming, -⟩ := acceptRequest_ok haccept
  obtain ⟨hresolve', hoptions', -, hmode, -⟩ := prepareCall_ok hcall
  have hsame : call.resolved = resolved := by
    rw [hresolve] at hresolve'
    exact (Except.ok.inj hresolve').symm
  rw [hsame, hoptions] at hoptions'
  have hopts : call.options = options := (Except.ok.inj hoptions').symm
  refine ⟨?_, ?_⟩
  · intro hstream
    rw [hsame]
    exact hstreaming (hmode ▸ hstream)
  · rw [hsame, hopts]
    exact validateThinking_ok hthinking

/-- Without tools there is no message that has no turn. -/
theorem toProviderTurns_ok {messages : List ChatMessage} (h : ∀ m ∈ messages, m.role ≠ .tool) :
    ∃ turns, toProviderTurns messages = .ok turns := by
  induction messages with
  | nil => exact ⟨[], rfl⟩
  | cons m ms ih =>
    obtain ⟨turns, hturns⟩ := ih fun m' hm' => h m' (List.mem_cons_of_mem m hm')
    obtain ⟨turn, hturn⟩ : ∃ turn, toProviderTurn m = .ok turn := by
      have hrole := h m List.mem_cons_self
      unfold toProviderTurn
      cases hm : m.role with
      | user => exact ⟨_, rfl⟩
      | assistant => exact ⟨_, rfl⟩
      | tool => exact absurd hm hrole
    refine ⟨turn :: turns, ?_⟩
    unfold toProviderTurns at hturns ⊢
    rw [List.mapM_cons, hturn, hturns]
    rfl

theorem noToolMessages (htooling : isToolingRequest c.body.request = false) :
    ∀ m ∈ c.body.request.messages, m.role ≠ .tool := by
  intro m hm hrole
  simp only [isToolingRequest, Bool.or_eq_false_iff, List.any_eq_false] at htooling
  have := htooling.2 m hm
  simp [hrole] at this

theorem prepareCall_of_resolved {modelAlias : String} {resolved : ResolvedProviderConfig} {options : ProviderCallOptions}
    (htooling : isToolingRequest c.body.request = false) (hresolve : ctx.registry.resolve modelAlias = .ok resolved)
    (hoptions : callOptions ctx c resolved = .ok options) (hreads : ctx.prompts.reads modelAlias = true)
    (hstream : mode = .stream → resolved.stream = true) :
    ∃ input, prepareCall ctx mode c modelAlias = .ok ⟨mode, resolved, options, input⟩ := by
  obtain ⟨turns, hturns⟩ := toProviderTurns_ok (noToolMessages htooling)
  have hnot : ¬ (mode = .stream ∧ resolved.stream = false) := by
    rintro ⟨hmode, hno⟩
    rw [hstream hmode] at hno
    cases hno
  unfold prepareCall buildProviderInputForAlias
  rw [hresolve, composeSystemPrompt_eq, if_pos hreads, hturns]
  simp only [bind, Except.bind, hoptions, hnot, if_false]
  exact ⟨_, rfl⟩

end Primary

/-! ## The fallback alias is not -/

section Fallback
variable {α : Type} {ctx : CallContext} {mode : CallMode} {c : ChatCall}

theorem calls_of_fallback (h : FallbackCapable ctx mode c) (w : CallWorld α) {call : ProviderCall}
    (hcall : call ∈ providerCalls ctx mode c w) : call.Checked := by
  unfold providerCalls at hcall
  split at hcall
  · cases hcall
  · next resolved haccept =>
    split at hcall
    · cases hcall
    · obtain ⟨⟨modelAlias, k⟩, hinvoked, hprepared⟩ := List.mem_filterMap.mp hcall
      have hprepared : prepareCall ctx mode c modelAlias = .ok call := Fallible.toOption_eq_some.mp hprepared
      by_cases hsame : modelAlias = c.modelAlias
      · rw [hsame] at hprepared
        exact primary_checked haccept hprepared
      · rcases alias_of_invoked hinvoked with hprimary | hfallback
        · exact absurd hprimary hsame
        · unfold chatExecution at hfallback
          cases htooling : isToolingRequest c.body.request with
          | true =>
            rw [htooling] at hfallback
            cases hfallback
          | false =>
            rw [htooling] at hfallback
            obtain ⟨hresolve, hoptions, hreads, hmode, hstream⟩ := prepareCall_ok hprepared
            obtain ⟨hstreaming, hthinking⟩ := h htooling resolved (acceptRequest_ok haccept).2.2.2 modelAlias hfallback
              hsame hreads call.resolved call.options hresolve hoptions
            refine ⟨?_, hthinking hstream⟩
            intro hcallmode
            have hmode : mode = .stream := hmode ▸ hcallmode
            exact ⟨hstreaming hmode (hstream hmode), hstream hmode⟩

/-- Nothing is in the way and every provider fails at once. -/
def everyProviderDown (α : Type) : CallWorld α := ⟨none, none, false, fun _ _ _ => .error (.other "connection refused")⟩

theorem runOnce_fails (timeoutMs : Option ℕ) (modelAlias : String) (k : ℕ) (v : α) :
    runWithTimeout (runOnce ctx mode c (everyProviderDown α) timeoutMs modelAlias k) ≠ .ok v := by
  unfold runOnce
  cases prepareCall ctx mode c modelAlias with
  | error e => simp [runWithTimeout]
  | ok call => simp [runWithTimeout, everyProviderDown]

theorem fallback_call_made {resolved : ResolvedProviderConfig} {fallback : String} {call : ProviderCall}
    (htooling : isToolingRequest c.body.request = false) (haccept : acceptRequest ctx mode c none none = .ok resolved)
    (hfallback : JsString.truthy resolved.fallbackAlias = some fallback) (hother : fallback ≠ c.modelAlias)
    (hcall : prepareCall ctx mode c fallback = .ok call) :
    call ∈ providerCalls ctx mode c (everyProviderDown α) := by
  have htruthy : JsString.truthy (chatExecution c resolved).fallbackAlias = some fallback := by
    simp only [chatExecution, htooling]
    exact hfallback
  have hcycle : (chatExecution c resolved).fallbackAlias ≠ some (chatExecution c resolved).primaryAlias := by
    intro hsame
    rw [hsame] at htruthy
    have hfilter := Option.filter_eq_some_iff.mp htruthy
    exact hother (Option.some.inj hfilter.1).symm
  have hfails : ∀ (k : ℕ) (v : α), runWithTimeout (runOnce ctx mode c (everyProviderDown α)
      (chatExecution c resolved).retry.timeoutMs (chatExecution c resolved).primaryAlias k) ≠ .ok v := by
    intro k v
    exact runOnce_fails _ _ k v
  have hinvoked := fallback_invoked hcycle htruthy hfails
  unfold providerCalls
  rw [show acceptRequest ctx mode c (everyProviderDown α).early (everyProviderDown α).cooldown = .ok resolved from haccept]
  exact List.mem_filterMap.mpr ⟨(fallback, 1), hinvoked, Fallible.toOption_eq_some.mpr hcall⟩

end Fallback

theorem calls_checked_iff (α : Type) (ctx : CallContext) (mode : CallMode) (c : ChatCall) :
    (∀ (w : CallWorld α), ∀ call ∈ providerCalls ctx mode c w, call.Checked) ↔ FallbackCapable ctx mode c := by
  constructor
  · intro hall htooling primary haccept fallback hfallback hother hreads resolved options hresolve hoptions
    have hchecked : (mode = .stream → resolved.stream = true) →
        ∃ input, (⟨mode, resolved, options, input⟩ : ProviderCall).Checked := by
      intro hstream
      obtain ⟨input, hcall⟩ := prepareCall_of_resolved htooling hresolve hoptions hreads hstream
      exact ⟨input, hall (everyProviderDown α) _ (fallback_call_made htooling haccept hfallback hother hcall)⟩
    refine ⟨?_, ?_⟩
    · intro hmode hstream
      obtain ⟨input, hcall⟩ := hchecked fun _ => hstream
      exact (hcall.streaming hmode).1
    · intro hstream hasks
      obtain ⟨input, hcall⟩ := hchecked hstream
      exact hcall.thinking hasks
  · intro h w call hcall
    exact calls_of_fallback h w hcall

/-! A configuration with one alias that can think and falls back to one that cannot. -/

def thinkingParams : GatewayParams := ⟨{}, ["thinkingEnabled"], {}⟩

def thinkingPolicy : GatewayPolicy := ⟨none, ⟨none, none⟩, thinkingParams⟩

def thinkingModel : GatewayModelConfig :=
  ⟨"anthropic-primary", "claude-sonnet-4-5", some "chat-small", ⟨some true, none, some true⟩, thinkingPolicy⟩

def smallModel : GatewayModelConfig :=
  ⟨"anthropic-primary", "claude-haiku-4-5", none, ⟨some true, none, none⟩, thinkingPolicy⟩

theorem thinkingProviders_nodup :
    ([("anthropic-primary", (⟨.anthropic, "ANTHROPIC_API_KEY", true, none, false⟩ : ProviderRow))].map Prod.fst).Nodup := by
  decide

def thinkingConfig : GatewayConfig where
  providers :=
    ⟨[("anthropic-primary", ⟨.anthropic, "ANTHROPIC_API_KEY", true, none, false⟩)], thinkingProviders_nodup⟩
  models := ⟨[("chat-thinking", thinkingModel), ("chat-small", smallModel)], by decide⟩

/-- "hi", with `thinkingEnabled: true`. -/
def thinkingCall : ChatCall where
  body := ⟨⟨"chat-thinking", [⟨.user, "hi", none, none⟩], 0, none⟩, [], none, none, List.length_nil⟩
  params := some
    { values := { thinkingEnabled := .value true }
      keys := [.thinkingEnabled]
      keys_complete := by intro key hkey; cases key <;> simp_all [ParamValues.isSet, Sent.isSet] }

def plainContext (gateway : GatewayConfig) : CallContext :=
  ⟨.bootstrap gateway, ⟨"", none, .empty⟩, fun _ => ""⟩

/-- The provider of the first alias is down, and the second is asked to think. -/
theorem fallback_gets_thinking :
    ¬ ∀ (raw effective : GatewayConfig) (mode : CallMode) (c : ChatCall) (w : CallWorld Unit),
      raw.accepted = true → buildEffectiveGatewayConfig raw none = .ok effective →
      ∀ call ∈ providerCalls (plainContext effective) mode c w, call.Checked := by
  intro hclaim
  have hcalls := hclaim thinkingConfig thinkingConfig .complete thinkingCall (everyProviderDown Unit)
    (by decide +kernel) rfl
  obtain ⟨resolved, hresolved⟩ :
      ∃ resolved, acceptRequest (plainContext thinkingConfig) .complete thinkingCall none none = .ok resolved := ⟨_, rfl⟩
  obtain ⟨call, hcall⟩ :
      ∃ call, prepareCall (plainContext thinkingConfig) .complete thinkingCall "chat-small" = .ok call := ⟨_, rfl⟩
  have hmade : call ∈ providerCalls (plainContext thinkingConfig) .complete thinkingCall (everyProviderDown Unit) := by
    refine fallback_call_made rfl hresolved ?_ (by decide) hcall
    cases hresolved
    rfl
  have hthinking := (hcalls call hmade).thinking
  cases hcall
  cases hthinking rfl

end AiGateway
