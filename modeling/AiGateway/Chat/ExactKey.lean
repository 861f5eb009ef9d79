import AiGateway.Chat.AliasChecks

/- The exact cache key of a request against what its provider is asked. The key is made of the
   options that `prepareRequestForExecution` has resolved for the alias of the request, while
   `completeOnce` and `streamOnce` resolve them anew, from the policy of the alias they call.

   `identity_key_iff`: two requests without tools have one exact key when they agree in alias,
   client, messages and call parameters, and only then; the provider of their alias is then
   asked the same for both, up to the metadata. A fallback alias has a policy of its own, and
   what it answers is not stored under the key. -/
namespace AiGateway

/-- The exact key of a request with its call options; it is made where the alias is read. -/
def exactKey (cfg : IdentityConfig) (body : ChatRequestBody) (clientId : String)
    (options : ProviderCallOptions) : String :=
  buildIdentityKey cfg (toChatCacheIdentity body.request clientId options)

def exactPayload (cfg : IdentityConfig) (body : ChatRequestBody) (clientId : String)
    (options : ProviderCallOptions) : String :=
  Json.stringify (identityPayload cfg (toChatCacheIdentity body.request clientId options))

/-- `options` of `prepareRequestForExecution`, which the key is made of. -/
def preparedOptions (ctx : CallContext) (c : ChatCall) : Except ThrownError ProviderCallOptions := do
  let primaryResolved ← ctx.registry.resolve c.modelAlias
  callOptions ctx c primaryResolved

/-- The same provider is asked the same twice, up to the metadata, or neither call is made. -/
inductive SameAsked : Except ThrownError ProviderCall → Except ThrownError ProviderCall → Prop where
  | asked (x y : ProviderCall) (hmode : x.mode = y.mode) (hresolved : x.resolved = y.resolved)
      (hinput : x.input.withoutMetadata = y.input.withoutMetadata) (hoptions : SameCallParams x.options y.options) :
      SameAsked (.ok x) (.ok y)
  | thrown (e : ThrownError) : SameAsked (.error e) (.error e)

section Calls
variable {ctx : CallContext} {mode : CallMode} {c : ChatCall} {options : ProviderCallOptions}

/-- The call that is made with the input, unless the adapter lacks `stream`. -/
def callWith (mode : CallMode) (resolved : ResolvedProviderConfig) (options : ProviderCallOptions)
    (input : ProviderChatInput) : Except ThrownError ProviderCall :=
  if mode = .stream ∧ resolved.stream = false then .error notAFunction else .ok ⟨mode, resolved, options, input⟩

/-- The first attempts of a request pass on the options that its key is made of. -/
theorem prepareCall_of_prepared (h : preparedOptions ctx c = .ok options) :
    ∃ resolved, ctx.registry.resolve c.modelAlias = .ok resolved ∧ prepareCall ctx mode c c.modelAlias =
      (buildProviderInputForAlias c.body c.modelAlias ctx.prompts).bind (callWith mode resolved options) := by
  obtain ⟨resolved, hresolve, hoptions⟩ := Fallible.bind_eq_ok.mp h
  refine ⟨resolved, hresolve, ?_⟩
  unfold prepareCall
  rw [hresolve]
  simp only [bind, Except.bind, hoptions]
  rfl

/-- Inputs alike and options alike make calls alike, also where there is no input. -/
theorem sameAsked_of_inputs {resolved : ResolvedProviderConfig} {o₁ o₂ : ProviderCallOptions}
    {x y : Except ThrownError ProviderChatInput} (hparams : SameCallParams o₁ o₂)
    (hinputs : x.map ProviderChatInput.withoutMetadata = y.map ProviderChatInput.withoutMetadata) :
    SameAsked (x.bind (callWith mode resolved o₁)) (y.bind (callWith mode resolved o₂)) := by
  cases x with
  | error e =>
    cases y with
    | error e' =>
      cases hinputs
      exact .thrown e
    | ok input' => cases hinputs
  | ok input =>
    cases y with
    | error e' => cases hinputs
    | ok input' =>
      have hinput : input.withoutMetadata = input'.withoutMetadata := Except.ok.inj hinputs
      dsimp only [Except.bind]
      unfold callWith
      by_cases hstream : mode = .stream ∧ resolved.stream = false
      · rw [if_pos hstream, if_pos hstream]
        exact .thrown _
      · rw [if_neg hstream, if_neg hstream]
        exact .asked _ _ rfl rfl hinput hparams

end Calls

theorem identity_key_iff (cfg : IdentityConfig) (b₁ b₂ : ChatRequestBody) (c₁ c₂ : String)
    (o₁ o₂ : ProviderCallOptions) (h₁ : isToolingRequest b₁.request = false)
    (h₂ : isToolingRequest b₂.request = false)
    (hsha : cfg.sha256 (exactPayload cfg b₁ c₁ o₁) = cfg.sha256 (exactPayload cfg b₂ c₂ o₂) →
      exactPayload cfg b₁ c₁ o₁ = exactPayload cfg b₂ c₂ o₂) :
    (exactKey cfg b₁ c₁ o₁ = exactKey cfg b₂ c₂ o₂ ↔
      b₁.request.modelAlias = b₂.request.modelAlias ∧ c₁ = c₂ ∧
        b₁.request.messages = b₂.request.messages ∧ SameCallParams o₁ o₂) ∧
    (exactKey cfg b₁ c₁ o₁ = exactKey cfg b₂ c₂ o₂ →
      (∀ modelAlias, (buildProviderInputForAlias b₁ modelAlias cfg.prompts).map ProviderChatInput.withoutMetadata =
        (buildProviderInputForAlias b₂ modelAlias cfg.prompts).map ProviderChatInput.withoutMetadata) ∧
      ∀ (ctx : CallContext) (mode : CallMode) (p₁ p₂ : Option BodyParams),
        preparedOptions ctx ⟨b₁, p₁⟩ = .ok o₁ → preparedOptions ctx ⟨b₂, p₂⟩ = .ok o₂ →
        SameAsked (prepareCall ctx mode ⟨b₁, p₁⟩ b₁.request.modelAlias)
          (prepareCall ctx mode ⟨b₂, p₂⟩ b₂.request.modelAlias)) := by
  have hkey := buildIdentityKey_eq_iff (i := toChatCacheIdentity b₁.request c₁ o₁)
    (j := toChatCacheIdentity b₂.request c₂ o₂) hsha
  refine ⟨hkey, ?_⟩
  intro heq
  obtain ⟨halias, -, hmessages, hparams⟩ := hkey.mp heq
  have halias : b₁.request.modelAlias = b₂.request.modelAlias := halias
  have hmessages : b₁.request.messages = b₂.request.messages := hmessages
  have hinputs : ∀ modelAlias prompts,
      (buildProviderInputForAlias b₁ modelAlias prompts).map ProviderChatInput.withoutMetadata =
        (buildProviderInputForAlias b₂ modelAlias prompts).map ProviderChatInput.withoutMetadata := by
    intro modelAlias prompts
    rw [buildProviderInput_noTools h₁, buildProviderInput_noTools h₂, hmessages]
  refine ⟨fun modelAlias => hinputs modelAlias cfg.prompts, ?_⟩
  intro ctx mode p₁ p₂ hprep₁ hprep₂
  obtain ⟨resolved₁, hresolve₁, hcall₁⟩ := @prepareCall_of_prepared _ mode _ _ hprep₁
  obtain ⟨resolved₂, hresolve₂, hcall₂⟩ := @prepareCall_of_prepared _ mode _ _ hprep₂
  -- one alias resolves to one provider
  have hresolved : resolved₁ = resolved₂ := by
    have hsame : ctx.registry.resolve b₁.request.modelAlias = .ok resolved₂ := halias ▸ hresolve₂
    exact Except.ok.inj (hresolve₁.symm.trans hsame)
  have hcall₁ : prepareCall ctx mode ⟨b₁, p₁⟩ b₁.request.modelAlias = _ := hcall₁
  have hcall₂ : prepareCall ctx mode ⟨b₂, p₂⟩ b₂.request.modelAlias = _ := hcall₂
  rw [hcall₁, hcall₂, hresolved]
  apply sameAsked_of_inputs hparams
  show (buildProviderInputForAlias b₁ b₁.request.modelAlias ctx.prompts).map _ =
    (buildProviderInputForAlias b₂ b₂.request.modelAlias ctx.prompts).map _
  rw [← halias]
  exact hinputs b₁.request.modelAlias ctx.prompts

/-- Payloads in clear text, for the requests below. -/
def clearIdentity : IdentityConfig := ⟨⟨"", none, .empty⟩, none, none, fun text => text⟩

def helloBody (metadata : Option Json.Value) : ChatRequestBody where
  request := ⟨"chat-small", [⟨.user, "hi", none, none⟩], 0, none⟩
  definitions := []
  toolChoice := none
  metadata := metadata
  definitions_length := rfl

/-- The policy of the alias has no defaults. -/
def noOptions : ProviderCallOptions :=
  ⟨none, none, none, none, none, none, none, none, none, none, none, none⟩

/-- Two requests that differ in their metadata only. -/
theorem identity_key_iff_metadata :
    exactKey clearIdentity (helloBody none) "Team-A" noOptions =
        exactKey clearIdentity (helloBody (some (.obj [("userId", .str "7")]))) "Team-A" noOptions ∧
      SameAsked (prepareCall (plainContext thinkingConfig) .stream ⟨helloBody none, none⟩ "chat-small")
        (prepareCall (plainContext thinkingConfig) .stream ⟨helloBody (some (.obj [("userId", .str "7")])), none⟩
          "chat-small") := by
  have h := identity_key_iff clearIdentity (helloBody none) (helloBody (some (.obj [("userId", .str "7")])))
    "Team-A" "Team-A" noOptions noOptions (by decide) (by decide) (fun heq => heq)
  have hkey := h.1.mpr ⟨rfl, rfl, rfl, rfl, rfl, rfl, rfl, rfl, rfl, rfl, rfl, rfl, rfl, rfl, rfl⟩
  exact ⟨hkey, (h.2 hkey).2 (plainContext thinkingConfig) .stream none none rfl rfl⟩

end AiGateway
